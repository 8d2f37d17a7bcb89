import InstructionStore.Instruction.Basic
import InstructionStore.Instruction.Rejection

/-!
# The grammar of instructions

`Instruction.ofJson` reads a value as an instruction, or rejects it.

* A **string** is a reference, an **array** is a sequence – unless it stands in
  an array – and an **object** is a step. Nothing else is an instruction.
* A step has **fields of one kind**: those of loading or those of finding,
  besides the five that every step may have. No other field is allowed. A step
  with nothing but an inheritance is read as one that finds.
* A step has its own target (`load`) or pattern (`find`), or inherits.
* Everything lies within 64 **levels**. The whole value is at level zero; the
  items of a sequence, and the instructions a step leads to or inherits from,
  are one level below it, references included; metadata counts one level for
  its object and one for every array or object inside.

When several things are wrong the first of a fixed order is reported: mixed
kinds, an unknown field, then whatever is wrong with what follows the step, with
what it inherits from, with its notes, and with the fields of its action.
-/

namespace InstructionStore

namespace Grammar

/-- The deepest level anything may stand at. -/
def maxLevel : Nat := 64

/-- The fields every step may have. -/
def commonFields : List String := ["name", "description", "metadata", "then", "extends"]

/-- The fields of a step that loads. -/
def loadFields : List String := ["load", "method", "posts", "headers", "cookies"]

/-- The fields of a step that finds. -/
def findFields : List String :=
  ["find", "case_insensitive", "multiline", "dot_matches_all", "replace", "match", "min", "max"]

/-- The rejection of a field that holds something else than it must. -/
def wrongType (name : String) (expected : Expectation) (branch : Branch) : Rejection :=
  ⟨.wrongType name expected, [.field name], branch⟩

/-- The rejection of what stands too deep. -/
def tooDeep (path : Path) (branch : Branch) : Rejection := ⟨.tooDeep maxLevel, path, branch⟩

/-- Puts a value in front of finitely many. -/
def inFront (first : α) (rest : Fin n → α) : Fin (n + 1) → α
  | ⟨0, _⟩ => first
  | ⟨i + 1, h⟩ => rest ⟨i, Nat.lt_of_succ_lt_succ h⟩

/-- All results of finitely many computations, or the first error among them. -/
def collect : {n : Nat} → (Fin n → Except ε α) → Except ε (Fin n → α)
  | 0, _ => .ok nofun
  | n + 1, f =>
    match f ⟨0, n.succ_pos⟩ with
    | .error e => .error e
    | .ok first =>
      match collect fun i => f i.succ with
      | .error e => .error e
      | .ok rest => .ok (inFront first rest)

/-! ## Fields -/

/-- A field that may be absent and that `read` makes sense of. -/
def optional (fields : Json.Fields Json) (branch : Branch) (name : String)
    (expected : Expectation) (read : Json → Option α) : Except Rejection (Option α) :=
  match fields.get? name with
  | none => .ok none
  | some v =>
    match read v with
    | some a => .ok (some a)
    | none => .error (wrongType name expected branch)

/-- The truth value a value is. -/
def boolean? : Json → Option Bool
  | .bool b => some b
  | _ => none

/-- The signed 64-bit integer a value is. -/
def integer? : Json → Option Int64
  | .number n => n.toInt64?
  | _ => none

/-- A string that may be absent. -/
def optionalString (fields : Json.Fields Json) (branch : Branch) (name : String) :
    Except Rejection (Option String) :=
  optional fields branch name .string Json.string?

/-- A truth value that may be absent. -/
def optionalBoolean (fields : Json.Fields Json) (branch : Branch) (name : String) :
    Except Rejection (Option Bool) :=
  optional fields branch name .boolean boolean?

/-- An integer that may be absent. -/
def optionalInteger (fields : Json.Fields Json) (branch : Branch) (name : String) :
    Except Rejection (Option Int64) :=
  optional fields branch name .integer integer?

/-- The strings of an object, which is the value of a field; the first field of
the object that is no string is reported under both names. -/
def strings (branch : Branch) (name : String) (object : Json.Fields Json) :
    Except Rejection (Json.Fields String) :=
  match (List.finRange object.keys.size).find? fun i => (object.value i).string?.isNone with
  | some i =>
    let key := object.keys.name i
    .error ⟨.wrongType (name ++ "." ++ key) .string, [.field name, .field key], branch⟩
  | none => .ok (object.map fun v => v.string?.getD "")

/-- An object of strings that may be absent. -/
def optionalStrings (fields : Json.Fields Json) (branch : Branch) (name : String) :
    Except Rejection (Option (Json.Fields String)) :=
  match fields.get? name with
  | none => .ok none
  | some (.object keys value) => (strings branch name ⟨keys, value⟩).map some
  | some _ => .error (wrongType name .strings branch)

/-! ## Metadata -/

/-- How many values pending ones are made of. -/
def pendingNodes : List (Json × Nat) → Nat
  | [] => 0
  | (v, _) :: pending => v.nodes + pendingNodes pending

@[simp] theorem pendingNodes_append (a b : List (Json × Nat)) :
    pendingNodes (a ++ b) = pendingNodes a + pendingNodes b := by
  induction a with
  | nil => simp [pendingNodes]
  | cons e a ih => simp [pendingNodes, ih, Nat.add_assoc]

@[simp] theorem pendingNodes_ofFn {n : Nat} (f : Fin n → Json) (level : Nat) :
    pendingNodes (List.ofFn fun i => (f i, level)) = Json.total fun i => (f i).nodes := by
  induction n with
  | zero => simp [pendingNodes, Json.total]
  | succ n ih => simp [List.ofFn_succ, pendingNodes, Json.total, ih]

/-- Whether every array and object among pending values, each with the level it
stands at, and inside them stands at an allowed level. Values wait on a stack;
what is inside a value waits one level below it. -/
def staysWithin (limit : Nat) : List (Json × Nat) → Bool
  | [] => true
  | (.array size item, level) :: pending =>
    level ≤ limit &&
      staysWithin limit ((List.ofFn fun i : Fin size => (item i, level + 1)) ++ pending)
  | (.object keys value, level) :: pending =>
    level ≤ limit &&
      staysWithin limit ((List.ofFn fun i : Fin keys.size => (value i, level + 1)) ++ pending)
  | (_v, _) :: pending => staysWithin limit pending
termination_by pending => pendingNodes pending
decreasing_by
  · simp only [pendingNodes, pendingNodes_append, pendingNodes_ofFn, Json.nodes]; omega
  · simp only [pendingNodes, pendingNodes_append, pendingNodes_ofFn, Json.nodes]; omega
  · have := _v.nodes_pos
    simp only [pendingNodes]
    omega

/-- **Checks the levels of free-form data** that stands at a given level. Wherever in it
something stands too deep, the data as a whole is reported. -/
def checkLevels (path : Path) (branch : Branch) (level : Nat) (object : Json.Fields Json) :
    Except Rejection Unit :=
  if level ≤ maxLevel &&
      staysWithin maxLevel (List.ofFn fun i => (object.value i, level + 1)) then .ok ()
  else .error (tooDeep path branch)

/-- Free-form data at a given level, within the levels there are. -/
def metadata (fields : Json.Fields Json) (branch : Branch) (level : Nat) :
    Except Rejection (Option (Json.Fields Json)) :=
  match fields.get? "metadata" with
  | none => .ok none
  | some (.object keys value) =>
    (checkLevels [.field "metadata"] branch level ⟨keys, value⟩).map fun _ => some ⟨keys, value⟩
  | some _ => .error (wrongType "metadata" .object branch)

/-! ## Steps -/

/-- The method of a request, which may be absent. -/
def optionalMethod (fields : Json.Fields Json) : Except Rejection (Option Method) := do
  match ← optionalString fields .loadStep "method" with
  | none => return none
  | some word =>
    match Method.ofWord? word with
    | some m => return some m
    | none => throw ⟨.invalidMethod word, [.field "method"], .loadStep⟩

/-- Data sent along with a request, which may be absent. -/
def optionalPosts (fields : Json.Fields Json) : Except Rejection (Option PostData) :=
  match fields.get? "posts" with
  | none => .ok none
  | some (.string body) => .ok (some (.raw body))
  | some (.object keys value) =>
    (strings .loadStep "posts" ⟨keys, value⟩).map fun form => some (.form form)
  | some _ => .error (wrongType "posts" .stringOrStrings .loadStep)

/-- The fields of a step that loads, which may leave out its target if it
inherits. -/
def loading (fields : Json.Fields Json) (inherits : Bool) : Except Rejection Loading := do
  let target ← optionalString fields .loadStep "load"
  if target.isNone && !inherits then
    throw ⟨.missingField "load", [], .loadStep⟩
  let method ← optionalMethod fields
  let posts ← optionalPosts fields
  let headers ← optionalStrings fields .loadStep "headers"
  let cookies ← optionalStrings fields .loadStep "cookies"
  return { target, method, posts, headers, cookies }

/-- The fields of a step that finds, which may leave out its pattern if it
inherits. -/
def finding (fields : Json.Fields Json) (inherits : Bool) : Except Rejection Finding := do
  let pattern ← optionalString fields .findStep "find"
  if pattern.isNone && !inherits then
    throw ⟨.missingField "find", [], .findStep⟩
  let matchIndex ← optionalInteger fields .findStep "match"
  let min ← optionalInteger fields .findStep "min"
  let max ← optionalInteger fields .findStep "max"
  if matchIndex.isSome && (min.isSome || max.isSome) then
    throw ⟨.matchWithRange, [], .findStep⟩
  let caseInsensitive ← optionalBoolean fields .findStep "case_insensitive"
  let multiline ← optionalBoolean fields .findStep "multiline"
  let dotMatchesAll ← optionalBoolean fields .findStep "dot_matches_all"
  let replace ← optionalString fields .findStep "replace"
  return { pattern, caseInsensitive, multiline, dotMatchesAll, replace, matchIndex, min, max }

/-- Whether an object has a field of a list of names. -/
def hasAny (fields : Json.Fields Json) (names : List String) : Bool :=
  fields.keys.names.any names.contains

/-- The first field, in the order of names, that no step has. -/
def unknown? (fields : Json.Fields Json) : Option String :=
  fields.keys.names.find? fun name =>
    !(commonFields.contains name || loadFields.contains name || findFields.contains name)

/-- The fields that tell what a step does. -/
def action (fields : Json.Fields Json) (inherits : Bool) : Except Rejection Action := do
  if hasAny fields loadFields then
    return .load (← loading fields inherits)
  else if hasAny fields findFields || inherits then
    return .find (← finding fields inherits)
  else
    throw ⟨.missingTarget, [], .step⟩

/-- The fields of what may be noted on a step at a given level. -/
def notes (fields : Json.Fields Json) (branch : Branch) (level : Nat) :
    Except Rejection Notes := do
  let name ← optionalString fields branch "name"
  let description ← optionalString fields branch "description"
  let metadata ← metadata fields branch (level + 1)
  return { name, description, metadata }

/-- **Reads a step** at a given level. `next` and `base` are what the reading of
its `then` and `extends` came to. -/
def step (level : Nat) (fields : Json.Fields Json)
    (next base : Except Rejection (Option Instruction)) :
    Except Rejection (InstructionAt p) := do
  let loads := hasAny fields loadFields
  let finds := hasAny fields findFields
  if loads && finds then
    throw ⟨.ambiguousStep, [], .step⟩
  let branch := if loads then .loadStep else if finds then .findStep else .step
  if let some name := unknown? fields then
    throw ⟨.unknownField name, [], branch⟩
  let next ← next
  let base ← base
  let notes ← notes fields branch level
  return .step (← action fields base.isSome) notes next base

/-- The branch an instruction at a place is read as. -/
def branchAt : Place → Branch
  | .alone => .instruction
  | .inSequence => .item

/-- What the field of a name leads to, if it is there, from what the reading of
each value comes to. -/
def linked (keys : Json.Keys) (read : Fin keys.size → Except Rejection Instruction)
    (name : String) : Except Rejection (Option Instruction) :=
  match keys.find? name with
  | none => .ok none
  | some i => ((read i).mapError (·.under (.field name))).map some

/-- **Reads a value as an instruction** at a given place and level. -/
def read : (p : Place) → (level : Nat) → Json → Except Rejection (InstructionAt p)
  | p, level, v =>
    if maxLevel < level then .error (tooDeep [] (branchAt p))
    else match v with
      | .string name => .ok (.reference name)
      | .array size item =>
        match p with
        | .inSequence => .error ⟨.nestedSequence, [], .item⟩
        | .alone =>
          (collect fun i : Fin size =>
            (read .inSequence (level + 1) (item i)).mapError (·.under (.index i))).map
              (.sequenceOf size)
      | .object keys value =>
        let linked := linked keys fun i => read .alone (level + 1) (value i)
        step level ⟨keys, value⟩ (linked "then") (linked "extends")
      | v => .error ⟨.notAnInstruction v.kindText, [], branchAt p⟩

end Grammar

/-- **Reads a value as an instruction.** -/
def Instruction.ofJson (v : Json) : Except Rejection Instruction := Grammar.read .alone 0 v

end InstructionStore
