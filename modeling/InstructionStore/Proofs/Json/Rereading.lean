import InstructionStore.Proofs.Grammar.Levels
import InstructionStore.Proofs.Json.Fields
import InstructionStore.Proofs.Json.Floats
import InstructionStore.Proofs.Json.Lists
import InstructionStore.Proofs.Json.Resemblance

/-!
# Values are read as they were written

The text of a value is read as a value that resembles it, provided that it does
not nest more deeply than the reader allows (`exists_parse_text`). A value
without floats is read as itself (`parse_text`).

The induction is on the value. Each kind of value has a text that begins like a
value and is read up to its end, whatever separator follows (`Reader.Reads`), and
the loops for arrays and objects ask for nothing else.
-/

namespace InstructionStore.Json

theorem ofList_ofFn {size : Nat} (item : Fin size → Json) :
    ofList (List.ofFn item) = .array size item := by
  have hgen : ∀ (items : List Json) (h : items.length = size),
      (∀ i : Fin size, items[i] = item i) → ofList items = .array size item := by
    rintro items rfl hitems
    exact congrArg (Json.array _) (funext hitems)
  exact hgen _ List.length_ofFn fun i => by simp

namespace Reader

open Outcome

theorem forall₂_ofFn {α β : Type} {r : α → β → Prop} {n : Nat} {f : Fin n → α} {g : Fin n → β}
    (h : ∀ i, r (f i) (g i)) : List.Forall₂ r (List.ofFn f) (List.ofFn g) := by
  induction n with
  | zero => exact .nil
  | succ n ih =>
    rw [List.ofFn_succ, List.ofFn_succ]
    exact .cons (h 0) (ih fun i => h i.succ)

variable {room : Nat}

theorem value_of_quote (text : List Char) :
    value room ('"' :: text) = (string text).map fun (s, rest) => (Json.string s, rest) := by
  unfold value
  rfl

theorem value_of_bracket (text : List Char) :
    value (room + 1) ('[' :: text)
      = (list (value room) text).map fun (items, rest) => (ofList items, rest) := by
  conv_lhs => unfold value
  rfl

/-- What the reader of an object does with a field. -/
def readField (room : Nat) (entries : List (String × Json)) (name : String) :
    Reader (List (String × Json)) := fun text => do
  let (v, rest) ← value room (← colon text)
  pure ((name, v) :: entries, rest)

theorem value_of_brace (text : List Char) :
    value (room + 1) ('\x7b' :: text)
      = object [] (readField room) (fun entries => .ok (ofFields (.ofEntries entries.reverse)))
          text := by
  conv_lhs => unfold value
  rfl

theorem reads_string (s : String) : Reads (value room) (printString s) (.string s) := by
  refine ⟨⟨'"', _, rfl, by decide, by decide, by decide⟩, fun rest _ => ?_⟩
  have htext : printString s ++ rest = '"' :: (s.toList.flatMap escapeChar ++ '"' :: rest) := by
    simp [printString]
  rw [htext, value_of_quote, string_flatMap]
  rfl

/-- **An array is read as the array of what its items are read as.** -/
theorem reads_array {size : Nat} {text : Fin size → List Char} {item : Fin size → Json}
    (h : ∀ i, Reads (value room) (text i) (item i)) :
    Reads (value (room + 1)) ('[' :: separated ',' (List.ofFn text) ++ [']'])
      (.array size item) := by
  refine ⟨⟨'[', _, rfl, by decide, by decide, by decide⟩, fun rest _ => ?_⟩
  rw [List.append_assoc, List.cons_append, value_of_bracket, List.singleton_append,
    list_separated (forall₂_ofFn h), ← ofList_ofFn]
  rfl

theorem readsField_of_reads {text : List Char} {name : String} {v : Json}
    (h : Reads (value room) text v) :
    ReadsField (readField room) (fun entries entry => entry :: entries) (name, text) v := by
  intro entries rest hrest
  unfold readField
  rw [show colon (':' :: (text ++ rest)) = .ok (text ++ rest) from rfl, ok_bind, h.2 rest hrest]
  rfl

/-- **Fields between braces are read as the object** of what their values are read as,
whatever their names and their order: the last field of a name counts. -/
theorem reads_fields {n : Nat} (name : Fin n → String) {text : Fin n → List Char}
    {value' : Fin n → Json} (h : ∀ i, Reads (value room) (text i) (value' i)) :
    Reads (value (room + 1))
      ('\x7b' :: separated ',' (List.ofFn fun i => printField (name i) (text i)) ++ ['\x7d'])
      (ofFields (.ofEntries (List.ofFn fun i => (name i, value' i)))) := by
  refine ⟨⟨'\x7b', _, rfl, by decide, by decide, by decide⟩, fun rest _ => ?_⟩
  have hfields : (List.ofFn fun i => printField (name i) (text i))
      = (List.ofFn fun i => (name i, text i)).map fieldText := by
    rw [List.map_ofFn]
    rfl
  have hentries : ((List.ofFn fun i => (name i, text i)).map Prod.fst).zip (List.ofFn value')
      = List.ofFn fun i => (name i, value' i) := by
    refine List.ext_getElem ?_ fun i _ _ => ?_
    · simp
    · simp
  -- fields are gathered last first, and reversed in the end
  have hfinish : (Except.ok (ofFields (.ofEntries ((((List.ofFn fun i =>
      (name i, text i)).map Prod.fst).zip (List.ofFn value')).foldl
        (fun entries entry => entry :: entries) []).reverse)) : Except Cause Json)
      = .ok (ofFields (.ofEntries (List.ofFn fun i => (name i, value' i)))) := by
    rw [hentries, List.foldl_flip_cons_eq_append, List.append_nil, List.map_id',
      List.reverse_reverse]
  rw [List.append_assoc, List.cons_append, value_of_brace, List.singleton_append, hfields]
  exact object_separated (forall₂_ofFn fun i => readsField_of_reads (h i)) hfinish rest

/-- **An object is read as the object of what its values are read as.** -/
theorem reads_object {keys : Keys} {text : Fin keys.size → List Char}
    {value' : Fin keys.size → Json} (h : ∀ i, Reads (value room) (text i) (value' i)) :
    Reads (value (room + 1))
      ('\x7b' :: separated ',' (List.ofFn fun i => printField (keys.name i) (text i)) ++ ['\x7d'])
      (.object keys value') := by
  have hread := reads_fields keys.name h
  have hobject : ofFields (.ofEntries (List.ofFn fun i => (keys.name i, value' i)))
      = .object keys value' := congrArg ofFields (Fields.ofEntries_entries ⟨keys, value'⟩)
  rwa [hobject] at hread

theorem reads_null : Reads (value room) Json.null.print .null := by
  refine ⟨⟨'n', _, rfl, by decide, by decide, by decide⟩, fun rest _ => ?_⟩
  unfold value
  rfl

theorem reads_bool (b : Bool) : Reads (value room) (Json.bool b).print (.bool b) := by
  cases b with
  | false =>
    refine ⟨⟨'f', _, rfl, by decide, by decide, by decide⟩, fun rest _ => ?_⟩
    unfold value
    rfl
  | true =>
    refine ⟨⟨'t', _, rfl, by decide, by decide, by decide⟩, fun rest _ => ?_⟩
    unfold value
    rfl

/-- The parts of a value nest less deeply than the value. -/
theorem exists_room {n room : Nat} {f : Fin n → Nat} (h : 1 + greatest f ≤ room) :
    ∃ room', room = room' + 1 ∧ ∀ i, f i ≤ room' := by
  obtain ⟨room, rfl⟩ := Nat.exists_eq_succ_of_ne_zero (show room ≠ 0 by omega)
  refine ⟨room, rfl, greatest_le_iff.1 ?_⟩
  omega

/-- **The text of a value is read as a value that resembles it**, with enough
room for how deeply it nests. -/
theorem exists_reads_print (v : Json) :
    ∃ w, Resembles v w ∧ ∀ room, v.depth ≤ room → Reads (value room) v.print w := by
  induction v with
  | null => exact ⟨_, .null, fun _ _ => reads_null⟩
  | bool b => exact ⟨_, .bool b, fun _ _ => reads_bool b⟩
  | number n =>
    cases n with
    | integer n inRange =>
      exact ⟨_, .integer n inRange, fun _ _ => (numberText_signed inRange).reads⟩
    | float x =>
      obtain ⟨y, hy⟩ := exists_reads_printFloat x
      exact ⟨_, .float x y, fun room _ => hy room⟩
  | string s => exact ⟨_, .string s, fun _ _ => reads_string s⟩
  | array size item ih =>
    choose item' hresembles hreads using ih
    refine ⟨_, .array hresembles, fun room hroom => ?_⟩
    obtain ⟨room, rfl, hitem⟩ := exists_room hroom
    exact reads_array fun i => hreads i room (hitem i)
  | object keys value' ih =>
    choose value'' hresembles hreads using ih
    refine ⟨_, .object hresembles, fun room hroom => ?_⟩
    obtain ⟨room, rfl, hvalue⟩ := exists_room hroom
    exact reads_object fun i => hreads i room (hvalue i)

theorem whole_of_reads {α : Type} {reader : Reader α} {text : List Char} {a : α}
    (h : Reads reader text a) : whole reader (String.ofList text) = .ok a := by
  have hread := h.2 [] ends_nil
  rw [List.append_nil] at hread
  unfold whole
  rw [String.toList_ofList, hread]
  rfl

end Reader

/-- **The text of a value that does not nest too deeply is read as a value that
resembles it.** -/
theorem exists_parse_text {v : Json} (h : v.depth ≤ nestingLimit) :
    ∃ w, Resembles v w ∧ parse v.text = .ok w := by
  obtain ⟨w, hresembles, hreads⟩ := Reader.exists_reads_print v
  exact ⟨w, hresembles, Reader.whole_of_reads (hreads nestingLimit h)⟩

/-- **The text of a value without floats is read as the value.** -/
theorem parse_text {v : Json} (hfree : IsFloatFree v) (h : v.depth ≤ nestingLimit) :
    parse v.text = .ok v := by
  obtain ⟨w, hresembles, hparse⟩ := exists_parse_text h
  rwa [hresembles.eq hfree] at hparse

end InstructionStore.Json
