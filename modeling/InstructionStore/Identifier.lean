import InstructionStore.Text.Numeral
import InstructionStore.Text.Quoted

/-!
# Identifiers

An identifier is a name that can stand in an address as it is: an account
name, the name of an instruction, a tag. It has at least one and at most 128
characters, and each is an ASCII letter or digit, an underscore or a hyphen.

`Identifier.ofString` checks a text and says what is wrong with it. Of several
defects it reports emptiness first, then length, and then the leftmost
character that is not allowed; lengths and indices count characters.

Some identifiers name fixed places of the service and cannot be the name of an
account: `Identifier.isReserved`.
-/

namespace InstructionStore

namespace Identifier

/-- The greatest number of characters of an identifier. -/
def maxLength : Nat := 128

/-- The characters an identifier is made of. -/
def isAllowed (c : Char) : Bool := c.isAlphanum || c = '_' || c = '-'

/-- **The rule for identifiers.** -/
def IsValid (text : String) : Prop :=
  text ≠ "" ∧ text.length ≤ maxLength ∧ ∀ c ∈ text.toList, isAllowed c = true

instance (text : String) : Decidable (IsValid text) :=
  decidable_of_iff (text ≠ "" ∧ text.length ≤ maxLength ∧ text.toList.all isAllowed = true)
    (by simp [IsValid])

/-- **What can be wrong with an identifier.** -/
inductive Defect where
  /-- The text is empty. -/
  | empty
  /-- The text has more than 128 characters. -/
  | tooLong
  /-- A character is not allowed; it is the first such, at the given index. -/
  | invalidChar (c : Char) (index : Nat)
deriving DecidableEq

/-- The wording of a defect. -/
def Defect.message : Defect → String
  | .empty => "must not be empty"
  | .tooLong => "must be at most 128 characters"
  | .invalidChar c index =>
    "invalid character " ++ Text.quotedChar c ++ " at index " ++ Text.natural index

/-- The first character that is not allowed, with its index. -/
def firstInvalid : (index : Nat) → List Char → Option (Char × Nat)
  | _, [] => none
  | index, c :: rest => if isAllowed c then firstInvalid (index + 1) rest else some (c, index)

/-- The defect of a text, if it has one. -/
def defect? (text : String) : Option Defect :=
  if text = "" then some .empty
  else if maxLength < text.length then some .tooLong
  else (firstInvalid 0 text.toList).map fun (c, index) => .invalidChar c index

theorem firstInvalid_eq_none_iff {chars : List Char} {index : Nat} :
    firstInvalid index chars = none ↔ ∀ c ∈ chars, isAllowed c = true := by
  induction chars generalizing index with
  | nil => simp [firstInvalid]
  | cons c rest ih => by_cases h : isAllowed c = true <;> simp [firstInvalid, h, ih]

theorem defect?_eq_none_iff {text : String} : defect? text = none ↔ IsValid text := by
  unfold defect? IsValid
  split
  case isTrue h => simp [h]
  case isFalse h =>
    split
    case isTrue hl => simp [Nat.not_le.2 hl]
    case isFalse hl => simp [h, Nat.not_lt.1 hl, firstInvalid_eq_none_iff]

end Identifier

/-- **An identifier**: a text that obeys the rule. -/
structure Identifier where
  /-- The characters of the identifier. -/
  text : String
  /-- They obey the rule. -/
  valid : Identifier.IsValid text
deriving DecidableEq

namespace Identifier

/-- **Checks a text.** -/
def ofString (text : String) : Except Defect Identifier :=
  match h : defect? text with
  | some d => .error d
  | none => .ok ⟨text, defect?_eq_none_iff.1 h⟩

@[simp] theorem ofString_text (name : Identifier) : ofString name.text = .ok name := by
  unfold ofString
  split
  case h_1 d h => exact absurd (defect?_eq_none_iff.2 name.valid) (by simp [h])
  case h_2 => rfl

theorem text_of_ofString {text : String} {name : Identifier} (h : ofString text = .ok name) :
    name.text = text := by
  unfold ofString at h
  split at h
  · exact absurd h (by simp)
  · exact (Except.ok.inj h) ▸ rfl

/-- The names of places that accounts cannot take. -/
def reserved : List String := ["oauth", "instructions", "users", "proxy"]

/-- Whether an identifier names a fixed place of the service. -/
def isReserved (name : Identifier) : Bool := reserved.contains name.text

end Identifier

end InstructionStore
