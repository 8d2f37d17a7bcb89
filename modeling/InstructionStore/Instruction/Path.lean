import InstructionStore.Json.Basic
import InstructionStore.Text.Numeral

/-!
# Places inside a value

A path leads from a value to one of its parts, one field name or one index at a
time. `Json.at?` follows a path; it fails where the value has no such part.

A path is shown as `$.then[1].load`: the whole value is `$`, a field follows a
point and an index stands in brackets. Names are shown as they are, so the text
of a path need not determine the path.
-/

namespace InstructionStore

/-- One step of a path. -/
inductive Segment where
  /-- Into the field of an object. -/
  | field (name : String)
  /-- Into the item of an array. -/
  | index (i : Nat)
deriving DecidableEq

/-- **A path** into a value, outermost step first. -/
abbrev Path := List Segment

/-- The text of one step. -/
def Segment.text : Segment → String
  | .field name => "." ++ name
  | .index i => "[" ++ Text.natural i ++ "]"

/-- **The text of a path.** -/
def Path.text (path : Path) : String :=
  path.foldl (fun text segment => text ++ segment.text) "$"

namespace Json

/-- The part one step leads to. -/
def step? (value : Json) : Segment → Option Json
  | .field name => value.field? name
  | .index i => value.item? i

/-- **The part a path leads to.** -/
def at? (value : Json) : Path → Option Json
  | [] => some value
  | segment :: path => (value.step? segment).bind (·.at? path)

@[simp] theorem at?_nil (value : Json) : value.at? [] = some value := rfl

@[simp] theorem at?_cons (value : Json) (segment : Segment) (path : Path) :
    value.at? (segment :: path) = (value.step? segment).bind (·.at? path) := rfl

end Json

end InstructionStore
