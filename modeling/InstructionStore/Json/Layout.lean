import InstructionStore.Json.Printer

/-!
# Records laid out for writing

An object has no order of its own and is written by the order of its names. A
**record** is written in the order its fields are declared in, and leaves out
the fields it has no value for. A `Layout` is a value laid out in this way:
plain values, lists, and records with their fields in the order of writing.

`Layout.print` writes a layout and `Layout.value` forgets the order. The two
agree on everything but that order, provided no record has a field twice –
`Layout.IsRegular`.
-/

namespace InstructionStore.Json

/-- **A value laid out for writing.** -/
inductive Layout where
  /-- A value whose fields are written by the order of their names. -/
  | plain (value : Json)
  /-- A list of layouts. -/
  | list (size : Nat) (item : Fin size → Layout)
  /-- A record, given by the name and the value at each place. -/
  | record (size : Nat) (name : Fin size → String) (value : Fin size → Layout)

namespace Layout

/-- The record with the given fields, in the given order. -/
def recordOf (fields : List (String × Layout)) : Layout :=
  let fields := fields.toArray
  .record fields.size (fun i => fields[i].1) (fun i => fields[i].2)

/-- The list of the given items. -/
def listOf (items : List Layout) : Layout :=
  let items := items.toArray
  .list items.size fun i => items[i]

/-- The layout of a text. -/
def string (s : String) : Layout := .plain (.string s)

/-- The layout of a truth value. -/
def bool (b : Bool) : Layout := .plain (.bool b)

/-- The layout of a signed 64-bit integer. -/
def int64 (n : Int64) : Layout := .plain (.number (.ofInt64 n))

/-- A field, if there is a value for it. -/
def field? (name : String) (layout : α → Layout) : Option α → List (String × Layout)
  | none => []
  | some a => [(name, layout a)]

/-- **The text of a layout.** -/
def print : Layout → List Char
  | .plain value => value.print
  | .list _ item => printItems (List.ofFn fun i => (item i).print)
  | .record _ name value => printFields (List.ofFn fun i => (name i, (value i).print))

/-- The text of a layout, as a string. -/
def text (layout : Layout) : String := String.ofList layout.print

/-- **The value that is laid out.** -/
def value : Layout → Json
  | .plain value => value
  | .list size item => arrayOf size fun i => (item i).value
  | .record _ name value =>
    ofFields (.ofEntries (List.ofFn fun i => (name i, (value i).value)))

/-- No record has two fields of one name. -/
def IsRegular : Layout → Prop
  | .plain _ => True
  | .list _ item => ∀ i, (item i).IsRegular
  | .record _ name value => (∀ i j, name i = name j → i = j) ∧ ∀ i, (value i).IsRegular

end Layout

end InstructionStore.Json
