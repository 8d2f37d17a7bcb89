import InstructionStore.Proofs.Grammar.Levels
import InstructionStore.Proofs.Json.Characters
import InstructionStore.Proofs.Json.Numbers

/-!
# How many containers a text has open

A text is scanned character by character: a bracket or a brace that opens an array or
an object counts one up and one that closes it counts one down, and neither counts
inside a string. `openContainers` is what the count has come to behind a text.

The scan knows nothing of values. That the text of a value never has more open than
the value is deep (`openContainers_le_depth`) is an induction on the value: each of its
parts is scanned from outside a string to outside a string, and the count ends where
it began (`Scans`).
-/

namespace InstructionStore.Json

/-! ## The scan -/

/-- **What a place in a text is part of.** -/
inductive Spot where
  /-- Of no string. -/
  | outside
  /-- Of a string. -/
  | inString
  /-- Of an escape in a string, right behind its backslash. -/
  | escaped

/-- **What a scan has come to.** -/
structure Scan where
  /-- How many arrays and objects are open. -/
  opened : Nat
  /-- Where the scan stands. -/
  spot : Spot

/-- The scan behind one more character. -/
def Scan.next (s : Scan) (c : Char) : Scan :=
  match s.spot with
  | .outside =>
    if c = '[' ∨ c = '\x7b' then ⟨s.opened + 1, .outside⟩
    else if c = ']' ∨ c = '\x7d' then ⟨s.opened - 1, .outside⟩
    else if c = '"' then ⟨s.opened, .inString⟩
    else s
  | .inString =>
    if c = '\\' then ⟨s.opened, .escaped⟩
    else if c = '"' then ⟨s.opened, .outside⟩
    else s
  | .escaped => ⟨s.opened, .inString⟩

/-- **How many arrays and objects are open** behind a text. -/
def openContainers (text : List Char) : Nat := (text.foldl Scan.next ⟨0, .outside⟩).opened

/-- **A text is scanned from one spot to another** and leaves the count as it was, which
exceeds that by a depth at most on the way. -/
def Scans (depth : Nat) (p : Spot) (text : List Char) (q : Spot) : Prop :=
  ∀ n, text.foldl Scan.next ⟨n, p⟩ = ⟨n, q⟩
    ∧ ∀ k, ((text.take k).foldl Scan.next ⟨n, p⟩).opened ≤ n + depth

namespace Scans

variable {depth : Nat} {p q r : Spot} {text text' : List Char} {c : Char}

theorem nil : Scans depth p [] p := by
  refine fun n => ⟨rfl, fun k => ?_⟩
  rw [List.take_nil]
  exact Nat.le_add_right n depth

theorem append (h : Scans depth p text q) (h' : Scans depth q text' r) :
    Scans depth p (text ++ text') r := by
  refine fun n => ⟨?_, fun k => ?_⟩
  · rw [List.foldl_append, (h n).1, (h' n).1]
  · rw [List.take_append]
    rcases Nat.le_total k text.length with hle | hle
    · rw [Nat.sub_eq_zero_of_le hle, List.take_zero, List.append_nil]
      exact (h n).2 k
    · rw [List.take_of_length_le hle, List.foldl_append, (h n).1]
      exact (h' n).2 _

theorem singleton (h : ∀ n, Scan.next ⟨n, p⟩ c = ⟨n, q⟩) : Scans depth p [c] q := by
  refine fun n => ⟨h n, fun k => ?_⟩
  cases k with
  | zero => exact Nat.le_add_right n depth
  | succ k =>
    rw [List.take_succ_cons, List.take_nil, List.foldl_cons, h n]
    exact Nat.le_add_right n depth

theorem cons (h : ∀ n, Scan.next ⟨n, p⟩ c = ⟨n, q⟩) (h' : Scans depth q text r) :
    Scans depth p (c :: text) r :=
  append (singleton h) h'

theorem mono {depth' : Nat} (h : Scans depth p text q) (hle : depth ≤ depth') :
    Scans depth' p text q :=
  fun n => ⟨(h n).1, fun k => ((h n).2 k).trans (Nat.add_le_add_left hle n)⟩

/-- **What stands between brackets** nests one level less deeply than with them. -/
theorem bracketed {first last : Char} (hfirst : first = '[' ∨ first = '\x7b')
    (hlast : last = ']' ∨ last = '\x7d') (h : Scans depth .outside text .outside) :
    Scans (depth + 1) .outside (first :: text ++ [last]) .outside := by
  have hopen (n : Nat) : Scan.next ⟨n, .outside⟩ first = ⟨n + 1, .outside⟩ := if_pos hfirst
  have hclose (n : Nat) : Scan.next ⟨n + 1, .outside⟩ last = ⟨n, .outside⟩ := by
    rcases hlast with rfl | rfl <;> rfl
  intro n
  refine ⟨?_, fun k => ?_⟩
  · rw [List.cons_append, List.foldl_cons, hopen, List.foldl_append, (h (n + 1)).1,
      List.foldl_cons, hclose, List.foldl_nil]
  · cases k with
    | zero => exact Nat.le_add_right n _
    | succ k =>
      rw [List.cons_append, List.take_succ_cons, List.foldl_cons, hopen, List.take_append]
      rcases Nat.le_total k text.length with hle | hle
      · rw [Nat.sub_eq_zero_of_le hle, List.take_zero, List.append_nil]
        have hinside := (h (n + 1)).2 k
        omega
      · rw [List.take_of_length_le hle, List.foldl_append, (h (n + 1)).1]
        cases k - text.length with
        | zero =>
          show n + 1 ≤ n + (depth + 1)
          omega
        | succ m =>
          rw [List.take_succ_cons, List.take_nil, List.foldl_cons, hclose]
          exact Nat.le_add_right n _

/-! ## Strings -/

/-- A character that ends no string and begins no escape leaves the scan in the string. -/
theorem next_inString (hquote : c ≠ '"') (hbackslash : c ≠ '\\') (n : Nat) :
    Scan.next ⟨n, .inString⟩ c = ⟨n, .inString⟩ := by
  show (if c = '\\' then _ else _) = _
  rw [if_neg hbackslash, if_neg hquote]

theorem ne_digitChar {n : Nat} (h : n < 16) :
    Nat.digitChar n ≠ '"' ∧ Nat.digitChar n ≠ '\\' := by
  have hall : ∀ m : Fin 16, Nat.digitChar m ≠ '"' ∧ Nat.digitChar m ≠ '\\' := by decide
  exact hall ⟨n, h⟩

/-- An escape of one letter. -/
theorem shortEscape : Scans depth .inString ['\\', c] .inString :=
  cons (fun _ => rfl) (singleton fun _ => rfl)

/-- **A character of a string is scanned inside the string**, however it is written. -/
theorem escapeChar (c : Char) : Scans depth .inString (escapeChar c) .inString := by
  unfold Json.escapeChar
  split
  · exact shortEscape
  split
  · exact shortEscape
  split
  · exact shortEscape
  split
  · exact shortEscape
  split
  · exact shortEscape
  split
  · exact shortEscape
  split
  · exact shortEscape
  split
  · rename_i hcontrol
    obtain ⟨hhigh, hhigh'⟩ := ne_digitChar (show c.toNat / 16 < 16 by omega)
    obtain ⟨hlow, hlow'⟩ := ne_digitChar (show c.toNat % 16 < 16 by omega)
    have hescape : Scans depth .inString ['\\', 'u'] .inString := shortEscape
    refine append hescape ?_
    refine cons (next_inString (by decide) (by decide)) ?_
    refine cons (next_inString (by decide) (by decide)) ?_
    exact cons (next_inString hhigh hhigh') (singleton (next_inString hlow hlow'))
  · rename_i hquote hbackslash _ _ _ _ _ _
    exact singleton (next_inString hquote hbackslash)

/-- A string is scanned from outside to outside. -/
theorem printString (s : String) : Scans depth .outside (printString s) .outside := by
  have hchars : Scans depth .inString (s.toList.flatMap Json.escapeChar) .inString := by
    induction s.toList with
    | nil => exact nil
    | cons c chars ih =>
      rw [List.flatMap_cons]
      exact (escapeChar c).append ih
  exact (cons (fun _ => rfl) hchars).append (singleton fun _ => rfl)

/-! ## Words and numbers -/

/-- **A character that counts nothing** and begins no string. -/
def IsPlain (c : Char) : Prop :=
  c ≠ '[' ∧ c ≠ '\x7b' ∧ c ≠ ']' ∧ c ≠ '\x7d' ∧ c ≠ '"'

instance : DecidablePred IsPlain := fun _ => inferInstanceAs (Decidable (_ ∧ _))

theorem next_plain (h : IsPlain c) (n : Nat) :
    Scan.next ⟨n, .outside⟩ c = ⟨n, .outside⟩ := by
  obtain ⟨hbracket, hbrace, hbracket', hbrace', hquote⟩ := h
  show (if _ then _ else _) = _
  rw [if_neg (not_or.2 ⟨hbracket, hbrace⟩), if_neg (not_or.2 ⟨hbracket', hbrace'⟩), if_neg hquote]

/-- A text of plain characters is scanned as it stands. -/
theorem plain (h : ∀ c ∈ text, IsPlain c) : Scans depth .outside text .outside := by
  induction text with
  | nil => exact nil
  | cons c text ih =>
    rw [List.forall_mem_cons] at h
    exact cons (next_plain h.1) (ih h.2)

theorem plain_of_all (h : text.all (fun c => decide (IsPlain c)) = true) :
    Scans depth .outside text .outside :=
  plain fun c hc => of_decide_eq_true (List.all_eq_true.1 h c hc)

theorem isPlain_of_isNumeral (h : IsNumeral c) : IsPlain c := by
  obtain hdigit | rfl | rfl | rfl | rfl := h
  · refine ⟨?_, ?_, ?_, ?_, ?_⟩ <;> exact Reader.ne_of_isDigit hdigit (by decide)
  all_goals decide

/-! ## Values -/

theorem le_greatest {n : Nat} (f : Fin n → Nat) (i : Fin n) : f i ≤ greatest f :=
  greatest_le_iff.1 (Nat.le_refl _) i

/-- Texts with a separator between them. -/
theorem separated {texts : List (List Char)}
    (h : ∀ text ∈ texts, Scans depth .outside text .outside) :
    Scans depth .outside (separated ',' texts) .outside := by
  induction texts with
  | nil => exact nil
  | cons text texts ih =>
    rw [List.forall_mem_cons] at h
    cases texts with
    | nil => exact h.1
    | cons next texts =>
      exact h.1.append (cons (next_plain (by decide)) (ih h.2))

theorem printField {name : String} (h : Scans depth .outside text .outside) :
    Scans depth .outside (printField name text) .outside :=
  (printString name).append (cons (next_plain (by decide)) h)

/-- **The text of a value is scanned within the depth of the value.** -/
theorem print (v : Json) : Scans v.depth .outside v.print .outside := by
  induction v with
  | null => exact plain_of_all (by decide)
  | bool b => cases b <;> exact plain_of_all (by decide)
  | number x => exact plain fun c h => isPlain_of_isNumeral (isNumeral_of_mem_printNumber h)
  | string s => exact printString s
  | array size item ih =>
    unfold Json.print Json.depth
    rw [Nat.add_comm]
    refine bracketed (.inl rfl) (.inl rfl) (separated ?_)
    rw [List.forall_mem_ofFn_iff]
    exact fun i => (ih i).mono (le_greatest (fun i => (item i).depth) i)
  | object keys value ih =>
    unfold Json.print Json.depth
    rw [Nat.add_comm]
    refine bracketed (.inr rfl) (.inr rfl) (separated ?_)
    rw [List.forall_mem_ofFn_iff]
    exact fun i => printField ((ih i).mono (le_greatest (fun i => (value i).depth) i))

end Scans

/-- **The text of a value never has more open than the value is deep.** -/
theorem openContainers_le_depth (v : Json) (k : Nat) :
    openContainers (v.text.toList.take k) ≤ v.depth := by
  unfold text
  rw [String.toList_ofList]
  exact ((Scans.print v 0).2 k).trans (Nat.zero_add _).le

/-! ## Where most is open -/

/-- **A text has a place where a number of containers more are open** than before it. -/
def Reaches (depth : Nat) (text : List Char) : Prop :=
  ∃ before after, text = before ++ after
    ∧ ∀ n, (before.foldl Scan.next ⟨n, .outside⟩).opened = n + depth

namespace Reaches

variable {depth : Nat} {text text' : List Char}

theorem zero (text : List Char) : Reaches 0 text := ⟨[], text, rfl, fun _ => rfl⟩

theorem append_left (h : Reaches depth text) (text' : List Char) :
    Reaches depth (text ++ text') := by
  obtain ⟨before, after, rfl, hopen⟩ := h
  exact ⟨before, after ++ text', List.append_assoc .., hopen⟩

theorem append_right {d : Nat} (hscans : Scans d .outside text .outside)
    (h : Reaches depth text') : Reaches depth (text ++ text') := by
  obtain ⟨before, after, rfl, hopen⟩ := h
  refine ⟨text ++ before, after, (List.append_assoc ..).symm, fun n => ?_⟩
  rw [List.foldl_append, (hscans n).1]
  exact hopen n

theorem bracketed {first : Char} (hfirst : first = '[' ∨ first = '\x7b')
    (h : Reaches depth text) : Reaches (depth + 1) (first :: text) := by
  obtain ⟨before, after, rfl, hopen⟩ := h
  refine ⟨first :: before, after, rfl, fun n => ?_⟩
  rw [List.foldl_cons, show Scan.next ⟨n, .outside⟩ first = ⟨n + 1, .outside⟩ from if_pos hfirst,
    hopen, Nat.add_right_comm, Nat.add_assoc]

/-- Texts before another one do not count. -/
theorem separated {texts : List (List Char)} {d : Nat}
    (hscans : ∀ text ∈ texts, Scans d .outside text .outside) (htext : text ∈ texts)
    (h : Reaches depth text) : Reaches depth (separated ',' texts) := by
  induction texts with
  | nil => exact nomatch htext
  | cons first texts ih =>
    rw [List.forall_mem_cons] at hscans
    rcases List.mem_cons.1 htext with rfl | hmem
    · cases texts with
      | nil => exact h
      | cons next texts => exact h.append_left _
    · cases texts with
      | nil => exact nomatch hmem
      | cons next texts =>
        have hcomma : Scans 0 .outside [','] .outside :=
          Scans.singleton (Scans.next_plain (by decide))
        exact append_right hscans.1 (append_right hcomma (ih hscans.2 hmem))

theorem exists_eq_greatest {n : Nat} {f : Fin n → Nat} (h : greatest f ≠ 0) :
    ∃ i, f i = greatest f := by
  by_contra hnot
  have hlt : ∀ i, f i ≤ greatest f - 1 := fun i => by
    have hle := Scans.le_greatest f i
    have hne : f i ≠ greatest f := fun heq => hnot ⟨i, heq⟩
    omega
  have hle := greatest_le_iff.2 hlt
  omega

/-- The greatest depth of some texts is reached in one of them. -/
theorem greatest {n : Nat} {f : Fin n → Nat} {text : Fin n → List Char}
    (hscans : ∀ i, Scans (f i) .outside (text i) .outside) (h : ∀ i, Reaches (f i) (text i)) :
    Reaches (greatest f) (Json.separated ',' (List.ofFn text)) := by
  by_cases hzero : Json.greatest f = 0
  · rw [hzero]
    exact zero _
  · obtain ⟨i, hi⟩ := exists_eq_greatest hzero
    refine separated (d := Json.greatest f) (fun t ht => ?_)
      ((List.mem_ofFn' _ _).2 ⟨i, rfl⟩) (hi ▸ h i)
    obtain ⟨j, rfl⟩ := (List.mem_ofFn' _ _).1 ht
    exact (hscans j).mono (Scans.le_greatest f j)

theorem print (v : Json) : Reaches v.depth v.print := by
  induction v with
  | null => exact zero _
  | bool b => exact zero _
  | number x => exact zero _
  | string s => exact zero _
  | array size item ih =>
    unfold Json.print Json.depth
    rw [Nat.add_comm]
    exact (bracketed (.inl rfl) (greatest (fun i => Scans.print (item i)) ih)).append_left _
  | object keys value ih =>
    unfold Json.print Json.depth
    rw [Nat.add_comm]
    refine (bracketed (.inr rfl) (greatest (fun i => (Scans.print (value i)).printField)
      fun i => ?_)).append_left _
    have hcolon : Scans 0 .outside [':'] .outside :=
      Scans.singleton (Scans.next_plain (by decide))
    exact append_right (d := 0) (Scans.printString _) (append_right hcolon (ih i))

end Reaches

/-- **The text of a value has as much open somewhere as the value is deep.** -/
theorem exists_openContainers_eq_depth (v : Json) :
    ∃ k, openContainers (v.text.toList.take k) = v.depth := by
  obtain ⟨before, after, hprint, hopen⟩ := Reaches.print v
  refine ⟨before.length, ?_⟩
  unfold text
  rw [String.toList_ofList, hprint, List.take_left]
  exact (hopen 0).trans (Nat.zero_add _)

end InstructionStore.Json
