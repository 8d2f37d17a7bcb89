import InstructionStore.Config.Basic
import InstructionStore.Json.Basic
import InstructionStore.Text.Quoted
import InstructionStore.Yaml.Meaning
import InstructionStore.Yaml.Outline

/-!
# What is wrong with a configuration

A text is refused as a configuration if it is no document, or if the document has
not got the form of a configuration. In the second case the wording says what was
found, what was expected in its place, under which key, and where.
-/

namespace InstructionStore

open Yaml

namespace Yaml

/-- The wording for what a text means. -/
def Meaning.description : Meaning → String
  | .null => "unit value"
  | .boolean b => "boolean `" ++ (if b then "true" else "false") ++ "`"
  | .integer n =>
    let width :=
      if Json.maxInteger < n then " as u128" else if n < Json.minInteger then " as i128" else ""
    "integer `" ++ Text.integer n ++ "`" ++ width
  | .number x => "floating point `" ++ String.ofList x.positional ++ "`"
  | .infinity negative => "floating point `" ++ (if negative then "-inf`" else "inf`")
  | .notANumber => "floating point `NaN`"
  | .text s => "string " ++ Text.quoted s

/-- The wording for a kind of value. -/
def Kind.description : Kind → String
  | boolean => "a boolean"
  | integer => "an integer"
  | number => "a float"
  | null => "null"

/-- The wording for a node that is not what was expected. A tag that asks in vain
for a kind of value decides what is expected. -/
def Content.mismatch (c : Content) (expected : String) : String :=
  match c with
  | .sequence => "invalid type: sequence, expected " ++ expected
  | .mapping => "invalid type: map, expected " ++ expected
  | .scalar s =>
    match s.meaning with
    | .ok meaning => "invalid type: " ++ meaning.description ++ ", expected " ++ expected
    | .error kind =>
      "invalid value: string " ++ Text.quoted s.text ++ ", expected " ++ kind.description

/-- The wording for a place; the beginning of the text goes without saying. -/
def Mark.suffix (m : Mark) : String :=
  if m = ⟨0, 0⟩ then ""
  else " at line " ++ Text.natural (m.line + 1) ++ " column " ++ Text.natural (m.column + 1)

end Yaml

namespace Config

/-- **The fields of a configuration.** -/
inductive Field where
  /-- The directory of the stores. -/
  | storageDirectory
  /-- The file of the records. -/
  | recordsFile
  /-- The file of the history. -/
  | historyFile
  /-- How long to wait for a database. -/
  | busyTimeout
deriving DecidableEq

namespace Field

/-- All fields, in the order in which they are listed. -/
def all : List Field := [storageDirectory, recordsFile, historyFile, busyTimeout]

/-- The key of a field. -/
def key : Field → String
  | storageDirectory => "storage_dir"
  | recordsFile => "records_file"
  | historyFile => "history_file"
  | busyTimeout => "busy_timeout_ms"

/-- The field with a given key. -/
def ofKey? (key : String) : Option Field := all.find? fun f => f.key = key

/-- The wording for what is expected as the value of a field. -/
def expected : Field → String
  | storageDirectory => "path string"
  | recordsFile | historyFile => "a string"
  | busyTimeout => "u64"

end Field

/-- **What is wrong with a document** that is no configuration. -/
inductive Problem where
  /-- The root is no mapping. -/
  | root (found : Content)
  /-- A key is no text. -/
  | key (found : Content)
  /-- There is no field of the key. -/
  | unknownField (key : String)
  /-- A field has two values. -/
  | duplicateField (field : Field)
  /-- A field that has to be there is not. -/
  | missingField (field : Field)
  /-- The value of a field is not what was expected. Its key may be given by the
  name of a node. -/
  | value (field : Field) (isAlias : Bool) (found : Content)
deriving DecidableEq

/-- The wording of a problem. -/
def Problem.message : Problem → String
  | root found => found.mismatch "struct StoreConfig"
  | key found => found.mismatch "field identifier"
  | unknownField name =>
    let keys := Field.all.map fun f => "`" ++ f.key ++ "`"
    "unknown field `" ++ name ++ "`, expected one of " ++ ", ".intercalate keys
  | duplicateField field => "duplicate field `" ++ field.key ++ "`"
  | missingField field => "missing field `" ++ field.key ++ "`"
  | value field isAlias found =>
    (if isAlias then "?" else field.key) ++ ": " ++ found.mismatch field.expected

/-- **Why a text is refused as a configuration.** -/
inductive Fault where
  /-- It is not one well-formed document. -/
  | notADocument
  /-- The document is no configuration, for what is at a place. -/
  | misread (problem : Problem) (mark : Mark)
deriving DecidableEq

/-- The wording of a fault, unless the text is no document. -/
def Fault.message? : Fault → Option String
  | notADocument => none
  | misread problem mark => some (problem.message ++ mark.suffix)

end Config

end InstructionStore
