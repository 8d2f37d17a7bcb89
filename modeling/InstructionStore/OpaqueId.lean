import InstructionStore.Unicode.Classes

/-!
# Opaque identifiers

Accounts and instructions carry **identifiers of their own** which are drawn
once and never shown a meaning. The rule for them is loose: up to 128 bytes of
any script, without blanks and control characters, and without the slash –
which separates the two identifiers of a history key.

The rule is enforced where an identifier is made of a text
(`OpaqueId.check`). A record that is decoded keeps the identifier it holds as
it is.
-/

namespace InstructionStore

namespace OpaqueId

/-- The greatest number of bytes of an opaque identifier. -/
def maxLength : Nat := 128

/-- **What can be wrong with an opaque identifier.** -/
inductive Defect where
  /-- The text is empty. -/
  | empty
  /-- The text has more than 128 bytes. -/
  | tooLong
  /-- The text holds a slash. -/
  | slash
  /-- The text holds a blank or a control character. -/
  | blankOrControl
deriving DecidableEq

/-- The wording of a defect. -/
def Defect.message : Defect → String
  | .empty => "id must not be empty"
  | .tooLong => "id is too long"
  | .slash => "id must not contain '/'"
  | .blankOrControl => "id contains whitespace or control characters"

/-- The defect of a text, if it has one. -/
def defect? (text : String) : Option Defect :=
  if text = "" then some .empty
  else if maxLength < text.utf8ByteSize then some .tooLong
  else if text.toList.contains '/' then some .slash
  else if text.toList.any fun c => Unicode.isControl c || Unicode.isSpace c then
    some .blankOrControl
  else none

/-- The rule for opaque identifiers. -/
def IsValid (text : String) : Prop := defect? text = none

instance (text : String) : Decidable (IsValid text) := by unfold IsValid; infer_instance

/-- **Checks a text.** -/
def check (text : String) : Except Defect String :=
  match defect? text with
  | some d => .error d
  | none => .ok text

end OpaqueId

/-- **The identifier of an account.** -/
structure AccountId where
  /-- The characters of the identifier. -/
  text : String
deriving DecidableEq

/-- **The identifier of an instruction.** -/
structure InstructionId where
  /-- The characters of the identifier. -/
  text : String
deriving DecidableEq

/-- The account identifier a text is, if it obeys the rule. -/
def AccountId.ofString (text : String) : Except OpaqueId.Defect AccountId :=
  (OpaqueId.check text).map AccountId.mk

/-- The instruction identifier a text is, if it obeys the rule. -/
def InstructionId.ofString (text : String) : Except OpaqueId.Defect InstructionId :=
  (OpaqueId.check text).map InstructionId.mk

end InstructionStore
