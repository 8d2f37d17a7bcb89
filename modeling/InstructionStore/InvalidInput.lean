import InstructionStore.Identifier
import InstructionStore.Instruction.Rejection

/-!
# Input that is refused

Input is checked before anything is stored. What is refused is named by the
field it was given for, shown as it was given, and accompanied by a reason.
-/

namespace InstructionStore

/-- **Why input is refused.** -/
inductive InvalidInput.Reason where
  /-- It is no identifier. -/
  | identifier (defect : Identifier.Defect)
  /-- It is a name that accounts cannot take. -/
  | reserved
  /-- It is blank. -/
  | empty
  /-- It is no email address. -/
  | email
  /-- It is no address of a web page. -/
  | url
  /-- It is no instruction. -/
  | grammar (rejection : Rejection)
  /-- It is not written as it must be. -/
  | malformed (text : String)
deriving DecidableEq

/-- The wording of a reason. -/
def InvalidInput.Reason.message : Reason → String
  | .identifier defect => defect.message
  | .reserved => "name is reserved"
  | .empty => "must not be empty"
  | .email => "not an email address"
  | .url => "not an http(s) URL"
  | .grammar rejection => rejection.message
  | .malformed text => text

/-- **Refused input.** -/
structure InvalidInput where
  /-- The field the input was given for. -/
  field : String
  /-- The input as it was given. -/
  value : String
  /-- Why it is refused. -/
  reason : InvalidInput.Reason
deriving DecidableEq

namespace InvalidInput

/-- **The wording of a refusal.** -/
def message (e : InvalidInput) : String :=
  "invalid " ++ e.field ++ " " ++ Text.quoted e.value ++ ": " ++ e.reason.message

end InvalidInput

namespace Identifier

/-- Checks the text given for a field. -/
def ofField (field text : String) : Except InvalidInput Identifier :=
  match ofString text with
  | .ok name => .ok name
  | .error defect => .error ⟨field, text, .identifier defect⟩

/-- Checks the text given for the name of an account: an identifier that is
not reserved. -/
def ofAccountName (text : String) : Except InvalidInput Identifier := do
  let name ← ofField "name" text
  if name.isReserved then throw ⟨"name", text, .reserved⟩
  return name

/-- **Checks tags** and drops repeated ones; of equal tags the first keeps its
place. -/
def normalizeTags (texts : List String) : Except InvalidInput (List Identifier) :=
  texts.foldlM (fun tags text => do
    let tag ← ofField "tags" text
    return if tags.contains tag then tags else tags ++ [tag]) []

end Identifier

end InstructionStore
