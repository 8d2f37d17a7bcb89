import InstructionStore.Instruction.Path
import InstructionStore.Text.Quoted

/-!
# Why a value is no instruction

A value outside the grammar is rejected with **a defect**, **the path** to the
part that has it, and **the branch** of the grammar that was being read there.
-/

namespace InstructionStore

/-- **A branch of the grammar.** -/
inductive Branch where
  /-- An instruction that stands alone. -/
  | instruction
  /-- An item of a sequence. -/
  | item
  /-- A step of which it is not known whether it loads or finds. -/
  | step
  /-- A step that loads. -/
  | loadStep
  /-- A step that finds. -/
  | findStep
deriving DecidableEq

namespace Branch

/-- How messages name a branch. -/
def text : Branch → String
  | .instruction => "instruction"
  | .item => "sequence item"
  | .step => "step"
  | .loadStep => "load step"
  | .findStep => "find step"

/-- All branches, the most general first. -/
def all : List Branch := [.instruction, .item, .step, .loadStep, .findStep]

end Branch

/-- **What a field of a step must hold.** -/
inductive Expectation where
  /-- A string. -/
  | string
  /-- A truth value. -/
  | boolean
  /-- A signed 64-bit integer. -/
  | integer
  /-- An object. -/
  | object
  /-- An object whose fields are strings. -/
  | strings
  /-- A string, or an object whose fields are strings. -/
  | stringOrStrings
deriving DecidableEq

/-- How messages name an expectation. -/
def Expectation.text : Expectation → String
  | .string => "a string"
  | .boolean => "a boolean"
  | .integer => "an integer"
  | .object => "an object"
  | .strings => "an object of strings"
  | .stringOrStrings => "a string or an object of strings"

/-- How messages name the kind of a value. -/
def Json.kindText : Json → String
  | .null => "null"
  | .bool _ => "a boolean"
  | .number _ => "a number"
  | .string _ => "a string"
  | .array _ _ => "an array"
  | .object _ _ => "an object"

/-- **What is wrong with a value.** -/
inductive Defect where
  /-- It is neither a string nor an array nor an object. -/
  | notAnInstruction (found : String)
  /-- It is an array and stands in an array. -/
  | nestedSequence
  /-- It has a field that no step has. -/
  | unknownField (name : String)
  /-- It has fields of both kinds of step. -/
  | ambiguousStep
  /-- It has fields of neither kind of step and inherits nothing. -/
  | missingTarget
  /-- It lacks its target or pattern and inherits nothing. -/
  | missingField (name : String)
  /-- A field holds something else than it must. -/
  | wrongType (name : String) (expected : Expectation)
  /-- A method is none of those there are. -/
  | invalidMethod (found : String)
  /-- It names one match and a range of matches. -/
  | matchWithRange
  /-- It stands too deep. -/
  | tooDeep (limit : Nat)
deriving DecidableEq

/-- The wording of a defect. -/
def Defect.message : Defect → String
  | .notAnInstruction found => "expected a string, an array or an object, found " ++ found
  | .nestedSequence => "a sequence may not directly contain another sequence"
  | .unknownField name => "unrecognized field `" ++ name ++ "`"
  | .ambiguousStep => "must contain either `load` or `find` fields, not both"
  | .missingTarget => "must contain either `load` or `find` (or `extends`), not neither"
  | .missingField name => "`" ++ name ++ "` is required unless `extends` is present"
  | .wrongType name expected => "`" ++ name ++ "` must be " ++ expected.text
  | .invalidMethod found => "`method` must be one of head, get, post; found " ++ Text.quoted found
  | .matchWithRange => "`match` is exclusive of `min` and `max`"
  | .tooDeep limit => "instruction nesting exceeds " ++ Text.natural limit ++ " levels"

/-- **A rejection**: what is wrong, where, and what was being read. -/
structure Rejection where
  /-- What is wrong. -/
  defect : Defect
  /-- The path to the part that is wrong. -/
  path : Path
  /-- The branch of the grammar that was being read. -/
  branch : Branch
deriving DecidableEq

namespace Rejection

/-- The rejection of a part, seen from one step further out. -/
def under (segment : Segment) (r : Rejection) : Rejection :=
  { r with path := segment :: r.path }

/-- **The wording of a rejection.** -/
def message (r : Rejection) : String :=
  "invalid " ++ r.branch.text ++ " at " ++ r.path.text ++ ": " ++ r.defect.message

@[simp] theorem under_path (segment : Segment) (r : Rejection) :
    (r.under segment).path = segment :: r.path := rfl

@[simp] theorem under_defect (segment : Segment) (r : Rejection) :
    (r.under segment).defect = r.defect := rfl

end Rejection

end InstructionStore
