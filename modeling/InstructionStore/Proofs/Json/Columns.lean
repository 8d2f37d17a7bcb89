import InstructionStore.Json.Record
import InstructionStore.Proofs.Json.Lists

/-!
# Records are read column by column

A reader reads a text alone (`Reads`) if the readers it is made of do. A record is read
from its fields: each finds its column, which must not have been set before, and sets it
(`Shape.field_column`). The record is read when all of its fields are, whatever their order
(`Shape.reads`).
-/

namespace InstructionStore.Json.Reader

open Outcome

variable {α β σ : Type}

/-! ## Readers of one kind -/

theorem begins_printString (s : String) : Begins (printString s) :=
  ⟨'"', _, rfl, by decide, by decide, by decide⟩

theorem reads_text (s : String) : Reads text (printString s) s := by
  refine ⟨begins_printString s, fun rest _ => ?_⟩
  have htext : printString s ++ rest = '"' :: (s.toList.flatMap escapeChar ++ '"' :: rest) := by
    simp [printString]
  rw [htext]
  exact string_flatMap s rest

theorem reads_boolean (b : Bool) : Reads boolean (Json.bool b).print b := by
  cases b with
  | false => exact ⟨⟨'f', _, rfl, by decide, by decide, by decide⟩, fun rest _ => rfl⟩
  | true => exact ⟨⟨'t', _, rfl, by decide, by decide, by decide⟩, fun rest _ => rfl⟩

theorem asInt64_ofInt64 (n : Int64) (rest : List Char) :
    asInt64 (.ofInt64 n) rest = .ok (n, rest) := by
  unfold asInt64
  split
  case h_1 heq =>
    rw [toInt64?_ofInt64]
  case h_2 heq => exact nomatch heq

theorem reads_int64 (n : Int64) : Reads int64 (Json.number (.ofInt64 n)).print n := by
  have htext : NumberText (.ofInt64 n) (Json.number (.ofInt64 n)).print := numberText_signed _
  generalize (Json.number (.ofInt64 n)).print = text at htext
  cases htext with
  | @digit c text hc hreads =>
    have hbegins : Begins (c :: text) := begins_of_isDigit hc
    refine ⟨hbegins, fun rest hrest => ?_⟩
    have hskip := hbegins.skipBlank_append rest
    rw [List.cons_append] at hskip ⊢
    unfold int64
    rw [hskip]
    split
    case h_1 heq => exact absurd (List.cons.inj heq).1 (ne_of_isDigit hc (by decide))
    case h_2 heq =>
      obtain ⟨rfl, rfl⟩ := List.cons.inj heq
      rw [if_pos hc, hreads rest hrest, ok_bind]
      exact asInt64_ofInt64 n rest
    case h_3 heq => exact nomatch heq
  | minus hreads =>
    refine ⟨begins_of_minus _, fun rest hrest => ?_⟩
    show ((number true (_ ++ rest)).bind fun p => asInt64 p.1 p.2) = _
    rw [hreads rest hrest]
    exact asInt64_ofInt64 n rest

/-- **An array is read as the list** of what its items are read as. -/
theorem reads_items {item : Reader α} {texts : List (List Char)} {as : List α}
    (h : List.Forall₂ (Reads item) texts as) : Reads (array item) (printItems texts) as := by
  refine ⟨⟨'[', _, rfl, by decide, by decide, by decide⟩, fun rest _ => ?_⟩
  unfold printItems
  rw [List.append_assoc, List.cons_append, List.singleton_append]
  exact list_separated h rest

section
variable {reader : Reader α} {text : List Char} {a : α}

theorem Reads.map (h : Reads reader text a) (f : α → β) :
    Reads (fun input => (reader input).map fun (a, rest) => (f a, rest)) text (f a) := by
  refine ⟨h.1, fun rest hrest => ?_⟩
  dsimp only
  rw [h.2 rest hrest]
  rfl

/-- What passes the check is read as what the check makes of it. -/
theorem Reads.checked (h : Reads reader text a) {check : α → Except String β} {b : β}
    (hcheck : check a = .ok b) : Reads (checked reader check) text b := by
  refine ⟨h.1, fun rest hrest => ?_⟩
  unfold Reader.checked
  rw [h.2 rest hrest, ok_bind]
  dsimp only
  rw [hcheck]
  rfl

end

/-! ## Records -/

namespace Shape

variable {shape : Shape σ α} {s s' : σ}

/-- **A field sets its column**, if no field before has. -/
theorem field_column {reader : Reader β} {get : σ → Option β} {set : σ → β → σ} {name : String}
    {required : Bool} {text : List Char} {b : β}
    (hfind : shape.columns.find? (fun c => c.name = name)
      = some (column name required reader get set))
    (hunset : get s = none) (h : Reads reader text b) (rest : List Char) (hrest : Ends rest) :
    shape.field s name (':' :: (text ++ rest)) = .ok (set s b, rest) := by
  unfold field
  rw [hfind]
  have hisSet : ((column name required reader get set).isSet s) = false := by
    show (get s).isSome = false
    rw [hunset]
    rfl
  dsimp only
  rw [hisSet]
  show (reader (text ++ rest)).map _ = _
  rw [h.2 rest hrest]
  rfl

/-- **A record is read from its fields**, once they make a whole. -/
theorem reads {fields : List (String × List Char)} {a : α}
    (h : ReadsFields shape.field shape.start fields s) (hfinish : shape.finish s = .ok a) :
    Reads shape.read (printFields fields) a := by
  refine ⟨⟨'\x7b', _, rfl, by decide, by decide, by decide⟩, fun rest _ => ?_⟩
  unfold printFields
  rw [List.append_assoc, List.cons_append, List.singleton_append]
  exact object_of_readsFields h hfinish rest

end Shape

end InstructionStore.Json.Reader
