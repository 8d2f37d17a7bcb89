import InstructionStore.Config.Fault

/-!
# Configurations from documents

A configuration is written as a mapping whose keys are the names of its fields.
`Config.ofText` reads one. The entries are read in their order, and the first that
is wrong is reported. A document without an entry is a configuration in which all
fields are missing; only the directory has to be there.
-/

namespace InstructionStore.Config

open Yaml

/-- **The fields met so far.** -/
structure Draft where
  /-- The directory of the stores. -/
  storageDirectory : Option String := none
  /-- The file of the records. -/
  recordsFile : Option String := none
  /-- The file of the history. -/
  historyFile : Option String := none
  /-- How long to wait for a database. -/
  busyTimeout : Option Nat := none
deriving DecidableEq

namespace Draft

/-- Whether a field has been met. -/
def has (d : Draft) : Field → Bool
  | .storageDirectory => d.storageDirectory.isSome
  | .recordsFile => d.recordsFile.isSome
  | .historyFile => d.historyFile.isSome
  | .busyTimeout => d.busyTimeout.isSome

/-- Adds a field, if a text can be its value. All texts can, but for that of the
time to wait. -/
def add? (d : Draft) (field : Field) (value : Scalar) : Option Draft :=
  match field with
  | .storageDirectory => some { d with storageDirectory := some value.text }
  | .recordsFile => some { d with recordsFile := some value.text }
  | .historyFile => some { d with historyFile := some value.text }
  | .busyTimeout => value.word?.map fun n => { d with busyTimeout := some n }

/-- The configuration with these fields. -/
def toConfig? (d : Draft) : Option Config :=
  d.storageDirectory.map fun directory =>
    let standard : Config := { storageDirectory := directory }
    { standard with
      recordsFile := d.recordsFile.getD standard.recordsFile
      historyFile := d.historyFile.getD standard.historyFile
      busyTimeout := d.busyTimeout.getD standard.busyTimeout }

end Draft

/-- The field a key names. -/
def fieldOf (key : Node) : Except Fault Field :=
  match key.content with
  | .scalar s =>
    match Field.ofKey? s.text with
    | some field => .ok field
    | none => .error (.misread (.unknownField s.text) key.mark)
  | found => .error (.misread (.key found) key.mark)

/-- Adds a field with its value. -/
def addField (d : Draft) (field : Field) (isAlias : Bool) (value : Node) : Except Fault Draft :=
  let problem := Problem.value field isAlias value.content
  let wrong : Except Fault Draft := .error (.misread problem value.mark)
  match value.content with
  | .scalar s =>
    match d.add? field s with
    | some d => .ok d
    | none => wrong
  | _ => wrong

/-- Adds the entries of a mapping, whose keys and values alternate. -/
def addEntries (start : Mark) (d : Draft) : List Child → Except Fault Draft
  | key :: value :: rest => do
    let field ← fieldOf key.node
    if d.has field then throw (.misread (.duplicateField field) start)
    addEntries start (← addField d field key.isAlias value.node) rest
  | _ => .ok d

/-- The entries of a document. The empty text has none. -/
def entriesOf (outline : Outline) : Except Fault (List Child) :=
  match outline.root.content with
  | .mapping => .ok outline.children
  | .sequence => .error (.misread (.root .sequence) outline.root.mark)
  | .scalar s =>
    if s.text = "" && s.style = .plain then .ok []
    else .error (.misread (.root (.scalar s)) outline.root.mark)

/-- **The configuration a document describes**, of which the outline is given. -/
def ofOutline (outline : Outline) : Except Fault Config := do
  let start := outline.root.mark
  let d ← addEntries start {} (← entriesOf outline)
  match d.toConfig? with
  | some config => return config
  | none => throw (.misread (.missingField .storageDirectory) start)

/-- **Reads a configuration.** -/
def ofText (text : String) : Except Fault Config :=
  match Outline.ofText? text with
  | some outline => ofOutline outline
  | none => .error .notADocument

end InstructionStore.Config
