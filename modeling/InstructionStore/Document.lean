import InstructionStore.Account
import InstructionStore.Instruction.Grammar
import InstructionStore.Json.Reader

/-!
# Documents and requests to save them

A document is an instruction as an account keeps it: under a name of the
account's choice, with tags.

A `SaveRequest` is what somebody wants saved, and nothing in it is checked yet.
`SaveRequest.ofText` makes one of texts: the instruction may be any JSON, the
tags must be an array of strings. `SaveRequest.check` checks the request as a
whole – the name, then the tags, then the instruction – and depends on nothing
but the request.
-/

namespace InstructionStore

/-- **An instruction kept by an account.** -/
structure Document where
  /-- The identifier of the document. -/
  id : InstructionId
  /-- The account that keeps it. -/
  creatorId : AccountId
  /-- Its name, which no other document of the account has. -/
  name : Identifier
  /-- Its tags, each once. -/
  tags : List Identifier
  /-- The instruction. -/
  instruction : Instruction
deriving DecidableEq

namespace Document

/-- Whether a document has a tag. -/
def hasTag (d : Document) (tag : String) : Bool := d.tags.any fun t => t.text = tag

/-- The texts of the tags. -/
def tagTexts (d : Document) : List String := d.tags.map Identifier.text

end Document

/-- **A request to save an instruction.** -/
structure SaveRequest where
  /-- The name to save it under. -/
  name : String
  /-- The instruction. -/
  instruction : Json
  /-- The tags. -/
  tags : List String
deriving DecidableEq

namespace SaveRequest

/-- Reads a text given for a field as a value. -/
def parseField (field text : String) : Except InvalidInput Json :=
  match Json.parse text with
  | .ok v => .ok v
  | .error fault => .error ⟨field, text, .malformed ("invalid JSON: " ++ fault.message text)⟩

/-- The refusal of tags that are not an array of strings. -/
def tagsRefused (value : String) : InvalidInput :=
  ⟨"tags", value, .malformed "tags must be an array of strings"⟩

/-- The strings of an array given as a text for tags. -/
def tagsOf (text : String) (v : Json) : Except InvalidInput (List String) :=
  match v.items? with
  | none => .error (tagsRefused text)
  | some items => items.mapM fun item =>
    match item.string? with
    | some tag => .ok tag
    | none => .error (tagsRefused item.text)

/-- **Makes a request of texts.** -/
def ofText (name instruction tags : String) : Except InvalidInput SaveRequest := do
  let instruction ← parseField "instruction" instruction
  let tags ← tagsOf tags (← parseField "tags" tags)
  return { name, instruction, tags }

/-- What a request comes to when nothing is wrong with it. -/
structure Checked where
  /-- The name. -/
  name : Identifier
  /-- The tags, each once. -/
  tags : List Identifier
  /-- The instruction. -/
  instruction : Instruction
deriving DecidableEq

/-- Checks the instruction of a request; what is refused is shown as the part
that is wrong. -/
def checkInstruction (v : Json) : Except InvalidInput Instruction :=
  match Instruction.ofJson v with
  | .ok i => .ok i
  | .error r =>
    .error ⟨"instruction", ((v.at? r.path).getD v).text, .grammar r⟩

/-- **Checks a request.** -/
def check (request : SaveRequest) : Except InvalidInput Checked := do
  let name ← Identifier.ofField "name" request.name
  let tags ← Identifier.normalizeTags request.tags
  let instruction ← checkInstruction request.instruction
  return { name, tags, instruction }

end SaveRequest

end InstructionStore
