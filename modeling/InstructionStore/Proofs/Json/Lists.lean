import InstructionStore.Proofs.Json.Numbers
import InstructionStore.Proofs.Json.Strings
import Mathlib.Data.List.Forall2

/-!
# Arrays and objects are read as they were written

The loops of the reader are described for any reader of what stands between the
separators, given that it reads each text alone (`Reads`). The loops then read
texts with separators between them as the values of all (`list_separated`,
`object_separated`).
-/

namespace InstructionStore.Json.Reader

open Outcome

theorem Begins.skipBlank_append {text : List Char} (h : Begins text) (rest : List Char) :
    skipBlank (text ++ rest) = text ++ rest := by
  obtain ⟨c, text, rfl, hblank, -⟩ := h
  exact List.dropWhile_cons_of_neg (by rw [hblank]; decide)

theorem Begins.length_pos {text : List Char} (h : Begins text) : 0 < text.length := by
  obtain ⟨c, text, rfl, -⟩ := h
  exact Nat.succ_pos _

/-- The first text stands alone, and every other behind a separator. -/
theorem separated_cons (separator : Char) (text : List Char) (texts : List (List Char)) :
    separated separator (text :: texts) = text ++ texts.flatMap (separator :: ·) := by
  induction texts generalizing text with
  | nil => exact (List.append_nil text).symm
  | cons next texts ih =>
    show text ++ separator :: separated separator (next :: texts) = _
    rw [ih, List.flatMap_cons, List.cons_append]

theorem length_le_flatMap (separator : Char) (texts : List (List Char)) :
    texts.length ≤ (texts.flatMap (separator :: ·)).length := by
  induction texts with
  | nil => exact Nat.le_refl 0
  | cons text texts ih =>
    rw [List.flatMap_cons, List.length_cons, List.length_append, List.length_cons]
    omega

/-! ## Arrays -/

section
variable {α : Type} {item : Reader α} {texts : List (List Char)} {as : List α}

theorem elements_close {bound : Nat} {first : Bool} {done : List α} {rest : List Char} :
    elements item (bound + 1) first done (']' :: rest) = .ok (done.reverse, rest) := rfl

/-- What an array comes to from what its next item has come to. -/
def fromItem (item : Reader α) (bound : Nat) (done : List α) :
    Except Fault (α × List Char) → Except Fault (List α × List Char)
  | .error fault => .error (fault.settle closeList)
  | .ok (a, rest) => elements item bound false (a :: done) rest

/-- The first item of an array is read without a separator in front. -/
theorem elements_first {bound : Nat} {done : List α} {text : List Char} (h : Begins text)
    (rest : List Char) :
    elements item (bound + 1) true done (text ++ rest)
      = fromItem item bound done (item (text ++ rest)) := by
  have hskip := h.skipBlank_append rest
  obtain ⟨c, text, rfl, -, hclose, -⟩ := h
  rw [List.cons_append] at hskip ⊢
  conv_lhs => rw [elements]
  rw [hskip]
  split
  case h_1 heq => exact nomatch heq
  case h_2 heq => exact absurd (List.cons.inj heq).1 hclose
  case h_3 heq =>
    obtain ⟨rfl, rfl⟩ := List.cons.inj heq
    rw [if_pos rfl]
    rfl

/-- Every other item is read with a separator in front. -/
theorem elements_next {bound : Nat} {done : List α} {text : List Char} (h : Begins text)
    (rest : List Char) :
    elements item (bound + 1) false done (',' :: (text ++ rest))
      = fromItem item bound done (item (text ++ rest)) := by
  have hskip := h.skipBlank_append rest
  obtain ⟨c, text, rfl, -, hclose, -⟩ := h
  rw [List.cons_append] at hskip ⊢
  conv_lhs => rw [elements]
  rw [show skipBlank (',' :: c :: (text ++ rest)) = ',' :: c :: (text ++ rest) from rfl]
  split
  case h_1 heq => exact nomatch heq
  case h_2 heq => exact absurd (List.cons.inj heq).1 (by decide)
  case h_3 heq =>
    obtain ⟨rfl, rfl⟩ := List.cons.inj heq
    rw [if_neg Bool.false_ne_true, if_pos rfl, hskip]
    split
    case h_1 heq => exact nomatch heq
    case h_2 heq => exact absurd (List.cons.inj heq).1 hclose
    case h_3 => rfl

theorem ends_flatMap {texts : List (List Char)} {rest : List Char} (h : Ends rest) :
    Ends (texts.flatMap (',' :: ·) ++ rest) := by
  cases texts with
  | nil => exact h
  | cons text texts => exact ends_comma _

/-- What remains of an array is read item by item. -/
theorem elements_flatMap (h : List.Forall₂ (Reads item) texts as) :
    ∀ {bound : Nat} (done : List α) (rest : List Char), texts.length < bound →
      elements item bound false done (texts.flatMap (',' :: ·) ++ ']' :: rest)
        = .ok (done.reverse ++ as, rest) := by
  induction h with
  | nil =>
    intro bound done rest hbound
    obtain ⟨bound, rfl⟩ := Nat.exists_eq_succ_of_ne_zero (Nat.ne_of_gt hbound)
    rw [List.append_nil]
    exact elements_close
  | @cons text a texts as hitem _ ih =>
    intro bound done rest hbound
    obtain ⟨bound, rfl⟩ := Nat.exists_eq_succ_of_ne_zero (Nat.ne_of_gt (Nat.zero_lt_of_lt hbound))
    rw [List.flatMap_cons, List.append_assoc, List.cons_append, elements_next hitem.1,
      hitem.2 _ (ends_flatMap (ends_bracket rest)), fromItem,
      ih _ _ (Nat.lt_of_succ_lt_succ hbound), List.reverse_cons, List.append_assoc,
      List.singleton_append]

/-- **The items of an array are read as they were written.** -/
theorem list_separated (h : List.Forall₂ (Reads item) texts as) (rest : List Char) :
    list item (separated ',' texts ++ ']' :: rest) = .ok (as, rest) := by
  unfold list
  cases h with
  | nil => rfl
  | @cons text a texts as hitem hrest =>
    -- the reader counts characters, of which every item has at least one
    have hbound : texts.length < (separated ',' (text :: texts) ++ ']' :: rest).length := by
      have hpos := hitem.1.length_pos
      have hle := length_le_flatMap ',' texts
      rw [separated_cons, List.length_append, List.length_append]
      omega
    generalize (separated ',' (text :: texts) ++ ']' :: rest).length = bound at hbound
    rw [separated_cons, List.append_assoc, elements_first hitem.1,
      hitem.2 _ (ends_flatMap (ends_bracket rest)), fromItem, elements_flatMap hrest _ _ hbound]
    rfl

end

/-! ## Objects -/

section
variable {σ α : Type} {field : σ → String → Reader σ}

/-- The text of a field. -/
abbrev fieldText (f : String × List Char) : List Char := printField f.1 f.2

theorem fieldText_append (f : String × List Char) (rest : List Char) :
    fieldText f ++ rest
      = '"' :: (f.1.toList.flatMap escapeChar ++ '"' :: ':' :: (f.2 ++ rest)) := by
  unfold fieldText printField printString
  simp only [List.cons_append, List.append_assoc, List.nil_append]

/-- **Fields are read one after another**, each from its colon on and from what those
before it have come to. -/
inductive ReadsFields (field : σ → String → Reader σ) :
    σ → List (String × List Char) → σ → Prop where
  /-- No fields come to nothing more. -/
  | nil {s : σ} : ReadsFields field s [] s
  /-- The first field is read, and then the others. -/
  | cons {s s' s'' : σ} {f : String × List Char} {fields : List (String × List Char)}
    (first : ∀ rest, Ends rest → field s f.1 (':' :: (f.2 ++ rest)) = .ok (s', rest))
    (others : ReadsFields field s' fields s'') : ReadsFields field s (f :: fields) s''

variable {fields fields' : List (String × List Char)} {s s' s'' : σ} {rest : List Char}

theorem ReadsFields.append (h : ReadsFields field s fields s')
    (h' : ReadsFields field s' fields' s'') : ReadsFields field s (fields ++ fields') s'' := by
  induction h with
  | nil => exact h'
  | cons first _ ih => exact .cons first (ih h')

theorem members_close {bound : Nat} {first : Bool} :
    members field (bound + 1) first s ('\x7d' :: rest) = .ok (s, '\x7d' :: rest) := rfl

/-- What an object comes to from what its next field has come to. -/
def fromField (field : σ → String → Reader σ) (bound : Nat) :
    Except Fault (σ × List Char) → Except Fault (σ × List Char)
  | .error fault => .error fault
  | .ok (s, rest) => members field bound false s rest

/-- What an object comes to from the name of a field on. -/
def fromName (field : σ → String → Reader σ) (bound : Nat) (s : σ) :
    Except Fault (String × List Char) → Except Fault (σ × List Char)
  | .error fault => .error fault
  | .ok (name, rest) => fromField field bound (field s name rest)

section
variable {bound : Nat} {f : String × List Char}

theorem members_first :
    members field (bound + 1) true s (fieldText f ++ rest)
      = fromField field bound (field s f.1 (':' :: (f.2 ++ rest))) := by
  rw [fieldText_append]
  conv_lhs => rw [members]
  show fromName field bound s
    (string (f.1.toList.flatMap escapeChar ++ '"' :: ':' :: (f.2 ++ rest))) = _
  rw [string_flatMap, fromName]

theorem members_next :
    members field (bound + 1) false s (',' :: (fieldText f ++ rest))
      = fromField field bound (field s f.1 (':' :: (f.2 ++ rest))) := by
  rw [fieldText_append]
  conv_lhs => rw [members]
  show fromName field bound s
    (string (f.1.toList.flatMap escapeChar ++ '"' :: ':' :: (f.2 ++ rest))) = _
  rw [string_flatMap, fromName]

end

/-- What remains of an object is read field by field. -/
theorem members_flatMap (h : ReadsFields field s fields s') :
    ∀ {bound : Nat} (rest : List Char), fields.length < bound →
      members field bound false s ((fields.map fieldText).flatMap (',' :: ·) ++ '\x7d' :: rest)
        = .ok (s', '\x7d' :: rest) := by
  induction h with
  | nil =>
    intro bound rest hbound
    obtain ⟨bound, rfl⟩ := Nat.exists_eq_succ_of_ne_zero (Nat.ne_of_gt hbound)
    exact members_close
  | cons hfirst _ ih =>
    intro bound rest hbound
    obtain ⟨bound, rfl⟩ := Nat.exists_eq_succ_of_ne_zero (Nat.ne_of_gt (Nat.zero_lt_of_lt hbound))
    rw [List.map_cons, List.flatMap_cons, List.append_assoc, List.cons_append, members_next,
      hfirst _ (ends_flatMap (ends_brace rest)), fromField, ih _ (Nat.lt_of_succ_lt_succ hbound)]

/-- **The fields of an object are read as they were written.** -/
theorem members_separated (h : ReadsFields field s fields s') (rest : List Char) {bound : Nat}
    (hbound : (separated ',' (fields.map fieldText)).length < bound) :
    members field bound true s (separated ',' (fields.map fieldText) ++ '\x7d' :: rest)
      = .ok (s', '\x7d' :: rest) := by
  obtain ⟨bound, rfl⟩ := Nat.exists_eq_succ_of_ne_zero (Nat.ne_of_gt (Nat.zero_lt_of_lt hbound))
  cases h with
  | nil => exact members_close
  | @cons _ s₁ _ f fields hfirst hothers =>
    have hlength : fields.length < bound := by
      have hle := length_le_flatMap ',' (fields.map fieldText)
      rw [List.length_map] at hle
      rw [List.map_cons, separated_cons, List.length_append] at hbound
      have hpos : 0 < (fieldText f).length := Nat.succ_pos _
      omega
    rw [List.map_cons, separated_cons, List.append_assoc, members_first,
      hfirst _ (ends_flatMap (ends_brace rest)), fromField, members_flatMap hothers _ hlength]

/-- **An object is read** when its fields are, and what they come to makes a whole. -/
theorem object_of_readsFields {β : Type} {start : σ} (h : ReadsFields field start fields s)
    {finish : σ → Except Cause β} {b : β} (hfinish : finish s = .ok b) (rest : List Char) :
    object start field finish (separated ',' (fields.map fieldText) ++ '\x7d' :: rest)
      = .ok (b, rest) := by
  have hbound : (separated ',' (fields.map fieldText)).length
      < (separated ',' (fields.map fieldText) ++ '\x7d' :: rest).length + 1 := by
    rw [List.length_append]
    omega
  unfold object
  rw [members_separated h rest hbound]
  dsimp only
  rw [hfinish]
  rfl

/-! ### Fields that may stand anywhere -/

/-- **A field is read**, from its colon on, whatever the fields before have come to: it
adds to that. -/
def ReadsField (field : σ → String → Reader σ) (add : σ → String × α → σ)
    (f : String × List Char) (a : α) : Prop :=
  ∀ s rest, Ends rest → field s f.1 (':' :: (f.2 ++ rest)) = .ok (add s (f.1, a), rest)

variable {add : σ → String × α → σ} {as : List α}

theorem readsFields_of_forall₂ (h : List.Forall₂ (ReadsField field add) fields as) :
    ∀ s, ReadsFields field s fields (((fields.map Prod.fst).zip as).foldl add s) := by
  induction h with
  | nil => exact fun s => .nil
  | cons hfield _ ih => exact fun s => .cons (hfield s) (ih _)

theorem object_separated {β : Type} (h : List.Forall₂ (ReadsField field add) fields as)
    {start : σ} {finish : σ → Except Cause β} {b : β}
    (hfinish : finish (((fields.map Prod.fst).zip as).foldl add start) = .ok b)
    (rest : List Char) :
    object start field finish (separated ',' (fields.map fieldText) ++ '\x7d' :: rest)
      = .ok (b, rest) :=
  object_of_readsFields (readsFields_of_forall₂ h start) hfinish rest

end

end InstructionStore.Json.Reader
