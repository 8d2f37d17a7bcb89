import InstructionStore.Instruction.Basic
import InstructionStore.Json.Layout

/-!
# Instructions as JSON

An instruction has two written forms, which differ only in the order of the
fields.

* `InstructionAt.toJson` gives **the value**: an object has no order, and its
  text is written by the order of the names. This is the form in which bodies
  are stored.
* `InstructionAt.layout` gives **the record**: the notes of a step come first,
  then what it leads to and inherits from, then the fields of its action.

Neither form shows an option that is absent.
-/

namespace InstructionStore

/-- The object of given strings. -/
def Json.ofStrings (strings : Json.Fields String) : Json := .ofFields (strings.map .string)

namespace PostData

/-- Data sent along, as a value. -/
def toJson : PostData → Json
  | .raw body => .string body
  | .form fields => .ofStrings fields

end PostData

/-! ## The value of an instruction -/

/-- Sets the fields of notes. -/
def Notes.addTo (notes : Notes) (fields : Json.Fields Json) : Json.Fields Json :=
  fields.insert? "name" (notes.name.map .string)
    |>.insert? "description" (notes.description.map .string)
    |>.insert? "metadata" (notes.metadata.map .ofFields)

/-- Sets the fields of loading. -/
def Loading.addTo (l : Loading) (fields : Json.Fields Json) : Json.Fields Json :=
  fields.insert? "load" (l.target.map .string)
    |>.insert? "method" (l.method.map fun m => .string m.word)
    |>.insert? "posts" (l.posts.map PostData.toJson)
    |>.insert? "headers" (l.headers.map .ofStrings)
    |>.insert? "cookies" (l.cookies.map .ofStrings)

/-- Sets the fields of finding. -/
def Finding.addTo (f : Finding) (fields : Json.Fields Json) : Json.Fields Json :=
  fields.insert? "find" (f.pattern.map .string)
    |>.insert? "case_insensitive" (f.caseInsensitive.map .bool)
    |>.insert? "multiline" (f.multiline.map .bool)
    |>.insert? "dot_matches_all" (f.dotMatchesAll.map .bool)
    |>.insert? "replace" (f.replace.map .string)
    |>.insert? "match" (f.matchIndex.map fun n => .number (.ofInt64 n))
    |>.insert? "min" (f.min.map fun n => .number (.ofInt64 n))
    |>.insert? "max" (f.max.map fun n => .number (.ofInt64 n))

/-- Sets the fields of an action. -/
def Action.addTo : Action → Json.Fields Json → Json.Fields Json
  | .load l => l.addTo
  | .find f => f.addTo

namespace InstructionAt

variable {p : Place}

/-- **The value of an instruction.** -/
def toJson : {p : Place} → InstructionAt p → Json
  | _, .reference name => .string name
  | _, .sequence size item => .arrayOf size fun i => (item i).toJson
  | _, .step action notes next base =>
    let next : Option Json := match next with
      | none => none
      | some i => some i.toJson
    let base : Option Json := match base with
      | none => none
      | some i => some i.toJson
    .ofFields <| action.addTo <|
      (notes.addTo .empty).insert? "then" next |>.insert? "extends" base

/-- **The text of an instruction**, in which it is stored. -/
def text (i : InstructionAt p) : String := i.toJson.text

end InstructionAt

/-! ## The record of an instruction -/

namespace Json.Layout

/-- The layout of an object of strings. -/
def strings (fields : Json.Fields String) : Layout := .plain (.ofStrings fields)

end Json.Layout

open Json (Layout)

/-- The fields of notes. -/
def Notes.record (notes : Notes) : List (String × Layout) :=
  Layout.field? "name" .string notes.name ++
  Layout.field? "description" .string notes.description ++
  Layout.field? "metadata" (fun m => .plain (.ofFields m)) notes.metadata

/-- The fields of loading. -/
def Loading.record (l : Loading) : List (String × Layout) :=
  Layout.field? "load" .string l.target ++
  Layout.field? "method" (fun m => .string m.word) l.method ++
  Layout.field? "posts" (fun p => .plain p.toJson) l.posts ++
  Layout.field? "headers" .strings l.headers ++
  Layout.field? "cookies" .strings l.cookies

/-- The fields of finding. -/
def Finding.record (f : Finding) : List (String × Layout) :=
  Layout.field? "find" .string f.pattern ++
  Layout.field? "case_insensitive" .bool f.caseInsensitive ++
  Layout.field? "multiline" .bool f.multiline ++
  Layout.field? "dot_matches_all" .bool f.dotMatchesAll ++
  Layout.field? "replace" .string f.replace ++
  Layout.field? "match" .int64 f.matchIndex ++
  Layout.field? "min" .int64 f.min ++
  Layout.field? "max" .int64 f.max

/-- The fields of an action. -/
def Action.record : Action → List (String × Layout)
  | .load l => l.record
  | .find f => f.record

/-- **The record of an instruction.** -/
def InstructionAt.layout : {p : Place} → InstructionAt p → Layout
  | _, .reference name => .string name
  | _, .sequence size item =>
    .listOf (List.ofFn fun i : Fin size => (item i).layout)
  | _, .step action notes next base =>
    let next : List (String × Layout) := match next with
      | none => []
      | some i => [("then", i.layout)]
    let base : List (String × Layout) := match base with
      | none => []
      | some i => [("extends", i.layout)]
    .recordOf (notes.record ++ next ++ base ++ action.record)

end InstructionStore
