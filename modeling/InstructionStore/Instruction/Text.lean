import InstructionStore.Instruction.Grammar
import InstructionStore.Json.Reader

/-!
# Instructions as texts

A text is read as an instruction in two steps: as JSON first, and then by the
grammar. Either can fail, and the failure says which.
-/

namespace InstructionStore

/-- **Why a text is no instruction.** -/
inductive Instruction.TextFault where
  /-- It is not JSON. -/
  | notJson (text : String) (fault : Json.Fault)
  /-- It is JSON, but no instruction. -/
  | rejected (rejection : Rejection)

/-- The wording of a fault. -/
def Instruction.TextFault.message : TextFault → String
  | notJson text fault => "invalid JSON: " ++ fault.message text
  | rejected rejection => rejection.message

/-- **Reads a text as an instruction.** -/
def Instruction.ofText (text : String) : Except TextFault Instruction :=
  match Json.parse text with
  | .error fault => .error (.notJson text fault)
  | .ok v =>
    match Instruction.ofJson v with
    | .error rejection => .error (.rejected rejection)
    | .ok i => .ok i

end InstructionStore
