import InstructionStore.Document
import InstructionStore.Instruction.Encoding
import InstructionStore.Json.Record

/-!
# Records as they are sent

Accounts, documents and their parts are exchanged as JSON. Each is written as
a record with its fields in the order of declaration; options that are absent
are left out. What the provider says about an account is written among the
fields of the account.

Reading accepts the fields in any order and skips those it does not know. The
records other than accounts can also be given as arrays, in the order of
declaration. Identifiers and instructions are checked as they are read; the
identifiers of accounts and documents are taken as they are.
-/

namespace InstructionStore

open Json (Layout)
open Json.Reader (Shape column require)

/-! ## Identifiers and methods -/

namespace Identifier

/-- An identifier, for writing. -/
def layout (name : Identifier) : Layout := .string name.text

/-- Reads an identifier. -/
def reader : Json.Reader Identifier :=
  Json.Reader.checked Json.Reader.text fun text => (ofString text).mapError Defect.message

end Identifier

namespace AccountId

/-- The identifier of an account, for writing. -/
def layout (id : AccountId) : Layout := .string id.text

/-- Reads the identifier of an account. -/
def reader : Json.Reader AccountId := fun input =>
  (Json.Reader.text input).map fun (text, rest) => (⟨text⟩, rest)

end AccountId

namespace InstructionId

/-- The identifier of an instruction, for writing. -/
def layout (id : InstructionId) : Layout := .string id.text

/-- Reads the identifier of an instruction. -/
def reader : Json.Reader InstructionId := fun input =>
  (Json.Reader.text input).map fun (text, rest) => (⟨text⟩, rest)

end InstructionId

namespace Method

/-- A method, for writing. -/
def layout (m : Method) : Layout := .string m.word

/-- Reads a method. -/
def reader : Json.Reader Method := fun input => do
  let (word, rest) ← Json.Reader.oneOf (all.map Method.word) input
  match ofWord? word with
  | some m => pure (m, rest)
  | none => throw (.loose (.refused word) rest)

end Method

namespace Instruction

/-- Reads an instruction inside which `room` arrays and objects may be open. -/
def reader (room : Nat) : Json.Reader Instruction :=
  Json.Reader.checked (Json.Reader.value room) fun v => (ofJson v).mapError Rejection.message

end Instruction

/-! ## Signatures -/

namespace Signature

/-- A signature, for writing. -/
def layout (s : Signature) : Layout :=
  .recordOf [("name", .string s.name), ("email", .string s.email)]

/-- The fields of a signature that have been read. -/
structure Slots where
  /-- The name. -/
  name : Option String
  /-- The email address. -/
  email : Option String

/-- The shape of signatures. -/
def shape : Shape Slots Signature where
  expected := "struct Signature"
  columns := [
    column "name" true Json.Reader.text Slots.name fun s v => { s with name := some v },
    column "email" true Json.Reader.text Slots.email fun s v => { s with email := some v }]
  start := ⟨none, none⟩
  finish s := do
    let name ← require "name" s.name
    let email ← require "email" s.email
    return { name, email }

/-- Reads a signature. -/
def reader : Json.Reader Signature := shape.read

end Signature

/-! ## Providers -/

namespace Provider

/-- The fields of a provider, for writing. -/
def record (p : Provider) : List (String × Layout) :=
  [("provider", .string p.provider), ("provider_id", .string p.userId)] ++
  Layout.field? "provider_url" .string p.url ++
  Layout.field? "provider_img" .string p.image ++
  Layout.field? "provider_name" .string p.displayName

/-- A provider, for writing. -/
def layout (p : Provider) : Layout := .recordOf p.record

/-- The fields of a provider that have been read. An option that is null was
read and is absent. -/
structure Slots where
  /-- The provider. -/
  provider : Option String
  /-- The owner's identifier. -/
  userId : Option String
  /-- The owner's page. -/
  url : Option (Option String)
  /-- The owner's picture. -/
  image : Option (Option String)
  /-- The owner's name. -/
  displayName : Option (Option String)

/-- No field is read. -/
def Slots.start : Slots := ⟨none, none, none, none, none⟩

/-- The provider, once all fields there are have been read. -/
def Slots.finish (s : Slots) : Except Json.Cause Provider := do
  let provider ← require "provider" s.provider
  let userId ← require "provider_id" s.userId
  return { provider, userId, url := s.url.join, image := s.image.join,
           displayName := s.displayName.join }

/-- The shape of providers. -/
def shape : Shape Slots Provider where
  expected := "struct ProviderInfo"
  columns := [
    column "provider" true Json.Reader.text Slots.provider
      fun s v => { s with provider := some v },
    column "provider_id" true Json.Reader.text Slots.userId
      fun s v => { s with userId := some v },
    column "provider_url" false (Json.Reader.nullable Json.Reader.text) Slots.url
      fun s v => { s with url := some v },
    column "provider_img" false (Json.Reader.nullable Json.Reader.text) Slots.image
      fun s v => { s with image := some v },
    column "provider_name" false (Json.Reader.nullable Json.Reader.text) Slots.displayName
      fun s v => { s with displayName := some v }]
  start := .start
  finish := Slots.finish

/-- Reads a provider. -/
def reader : Json.Reader Provider := shape.read

/-- The string a value is. -/
def stringOf : Json → Except Json.Cause String
  | .string s => .ok s
  | v => .error (.invalidType (Json.found v) "a string")

/-- The string a value is, or nothing for null. -/
def optionalStringOf : Json → Except Json.Cause (Option String)
  | .null => .ok none
  | v => (stringOf v).map some

/-- Takes up a field of an account, if it belongs to the provider. -/
def Slots.take (s : Slots) (field : String × Json) : Except Json.Cause Slots :=
  let repeated := Except.error (.repeatedField field.1)
  match field.1 with
  | "provider" =>
    if s.provider.isSome then repeated
    else (stringOf field.2).map fun v => { s with provider := some v }
  | "provider_id" =>
    if s.userId.isSome then repeated
    else (stringOf field.2).map fun v => { s with userId := some v }
  | "provider_url" =>
    if s.url.isSome then repeated
    else (optionalStringOf field.2).map fun v => { s with url := some v }
  | "provider_img" =>
    if s.image.isSome then repeated
    else (optionalStringOf field.2).map fun v => { s with image := some v }
  | "provider_name" =>
    if s.displayName.isSome then repeated
    else (optionalStringOf field.2).map fun v => { s with displayName := some v }
  | _ => .ok s

/-- The provider among the fields of an account, in the order they were read. -/
def ofFields (fields : List (String × Json)) : Except Json.Cause Provider := do
  (← fields.foldlM Slots.take Slots.start).finish

end Provider

/-! ## Accounts -/

namespace Account

/-- An account, for writing. -/
def layout (a : Account) : Layout :=
  .recordOf <|
    [("id", a.id.layout), ("name", a.name.layout), ("email", .string a.email)] ++
    a.provider.record ++
    [("deleted", .bool a.deleted), ("created_at_ms", .int64 a.createdAt)]

/-- The fields of an account that have been read. -/
structure Slots where
  /-- The identifier. -/
  id : Option AccountId
  /-- The name. -/
  name : Option Identifier
  /-- The email address. -/
  email : Option String
  /-- Whether it was deleted. -/
  deleted : Option Bool
  /-- When it was opened. -/
  createdAt : Option Int64
  /-- All other fields, last first. -/
  others : List (String × Json)

/-- The account, once all its fields have been read. -/
def Slots.finish (s : Slots) : Except Json.Cause Account := do
  let id ← require "id" s.id
  let name ← require "name" s.name
  let email ← require "email" s.email
  let deleted ← require "deleted" s.deleted
  let createdAt ← require "created_at_ms" s.createdAt
  let provider ← Provider.ofFields s.others.reverse
  return { id, name, email, provider, deleted, createdAt }

/-- The shape of the fields an account has besides those of the provider. -/
def shape : Shape Slots Account where
  expected := "struct Account"
  columns := [
    column "id" true AccountId.reader Slots.id fun s v => { s with id := some v },
    column "name" true Identifier.reader Slots.name fun s v => { s with name := some v },
    column "email" true Json.Reader.text Slots.email fun s v => { s with email := some v },
    column "deleted" true Json.Reader.boolean Slots.deleted
      fun s v => { s with deleted := some v },
    column "created_at_ms" true Json.Reader.int64 Slots.createdAt
      fun s v => { s with createdAt := some v }]
  start := ⟨none, none, none, none, none, []⟩
  finish := Slots.finish

/-- Reads one field of an account; a field that is not its own is kept as a
value for the provider. -/
def readField (s : Slots) (name : String) : Json.Reader Slots := fun input =>
  if shape.columns.any fun c => c.name = name then shape.field s name input
  else do
    let (v, rest) ← Json.Reader.value (Json.nestingLimit - 1) (← Json.Reader.colon input)
    pure ({ s with others := (name, v) :: s.others }, rest)

/-- Reads an account. -/
def reader : Json.Reader Account := fun input =>
  match Json.Reader.skipBlank input with
  | '\x7b' :: rest => Json.Reader.object shape.start readField shape.finish rest
  | rest => .error (Json.Reader.mismatch shape.expected rest)

end Account

/-! ## Documents -/

namespace Document

/-- A document, for writing. -/
def layout (d : Document) : Layout :=
  .recordOf [("id", d.id.layout), ("creator_id", d.creatorId.layout), ("name", d.name.layout),
    ("tags", .listOf (d.tags.map Identifier.layout)), ("instruction", d.instruction.layout)]

/-- The fields of a document that have been read. -/
structure Slots where
  /-- The identifier. -/
  id : Option InstructionId
  /-- The account that keeps it. -/
  creatorId : Option AccountId
  /-- The name. -/
  name : Option Identifier
  /-- The tags. -/
  tags : Option (List Identifier)
  /-- The instruction. -/
  instruction : Option Instruction

/-- The shape of documents. -/
def shape : Shape Slots Document where
  expected := "struct InstructionDocument"
  columns := [
    column "id" true InstructionId.reader Slots.id fun s v => { s with id := some v },
    column "creator_id" true AccountId.reader Slots.creatorId
      fun s v => { s with creatorId := some v },
    column "name" true Identifier.reader Slots.name fun s v => { s with name := some v },
    column "tags" true (Json.Reader.array Identifier.reader) Slots.tags
      fun s v => { s with tags := some v },
    column "instruction" true (Instruction.reader (Json.nestingLimit - 1)) Slots.instruction
      fun s v => { s with instruction := some v }]
  start := ⟨none, none, none, none, none⟩
  finish s := do
    let id ← require "id" s.id
    let creatorId ← require "creator_id" s.creatorId
    let name ← require "name" s.name
    let tags ← require "tags" s.tags
    let instruction ← require "instruction" s.instruction
    return { id, creatorId, name, tags, instruction }

/-- Reads a document. -/
def reader : Json.Reader Document := shape.read

end Document

end InstructionStore
