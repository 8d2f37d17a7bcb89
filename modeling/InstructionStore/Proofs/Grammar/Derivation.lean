import InstructionStore.Proofs.Grammar.Levels

/-!
# The grammar as a system of rules

`Derives level v i` says that the value `v`, standing at the level `level`, is
written for the instruction `i`. It is given by rules, one for each form an
instruction can have, and does not read anything: nothing is tried, no order of
checks is fixed, and there are no errors.

A field that may be absent is described by a relation between a value and what
it is written for, such as `IsString` or `IsMethod`; `Option.Rel` says that the
field is there exactly when there is something to write, and that it is written
as it should be.

That the reader accepts exactly what the rules derive is proved in
`InstructionStore.Proofs.Grammar.Reading`.
-/

namespace InstructionStore.Grammar

open Json (StandsWithin)

/-! ## The names of fields -/

/-- **The fields every step may have.** -/
inductive CommonField : String → Prop where
  /-- The name of the result. -/
  | name : CommonField "name"
  /-- The description. -/
  | description : CommonField "description"
  /-- The free-form data. -/
  | metadata : CommonField "metadata"
  /-- What follows the step. -/
  | next : CommonField "then"
  /-- What the step inherits from. -/
  | base : CommonField "extends"

/-- **The fields of a step that loads.** -/
inductive LoadField : String → Prop where
  /-- The address. -/
  | target : LoadField "load"
  /-- The method. -/
  | method : LoadField "method"
  /-- The data sent along. -/
  | posts : LoadField "posts"
  /-- The header fields. -/
  | headers : LoadField "headers"
  /-- The cookies. -/
  | cookies : LoadField "cookies"

/-- **The fields of a step that finds.** -/
inductive FindField : String → Prop where
  /-- The pattern. -/
  | pattern : FindField "find"
  /-- Whether letters match in either case. -/
  | caseInsensitive : FindField "case_insensitive"
  /-- Whether start and end match at every line. -/
  | multiline : FindField "multiline"
  /-- Whether the dot matches a line break. -/
  | dotMatchesAll : FindField "dot_matches_all"
  /-- What is made of a match. -/
  | replace : FindField "replace"
  /-- The one match to use. -/
  | matchIndex : FindField "match"
  /-- The first match to use. -/
  | min : FindField "min"
  /-- The last match to use. -/
  | max : FindField "max"

/-! ## What fields are written as -/

/-- A string is written for a text. -/
inductive IsString : Json → String → Prop where
  /-- The string of the text. -/
  | string (s : String) : IsString (.string s) s

/-- A truth value is written for itself. -/
inductive IsBoolean : Json → Bool → Prop where
  /-- The truth value. -/
  | bool (b : Bool) : IsBoolean (.bool b) b

/-- An integer is written for a signed 64-bit integer. -/
inductive IsInteger : Json → Int64 → Prop where
  /-- The integer, which is never a float. -/
  | integer (n : Int64) (inRange : Json.minInteger ≤ n.toInt ∧ n.toInt ≤ Json.maxInteger) :
    IsInteger (.number (.integer n.toInt inRange)) n

/-- One of three words is written for a method. -/
inductive IsMethod : Json → Method → Prop where
  /-- Only the header of the page. -/
  | head : IsMethod (.string "head") .head
  /-- The page. -/
  | get : IsMethod (.string "get") .get
  /-- The page, in answer to data sent along. -/
  | post : IsMethod (.string "post") .post

/-- An object of strings is written for texts under names. -/
inductive IsStrings : Json → Json.Fields String → Prop where
  /-- The object with the string of the text under each name. -/
  | object (keys : Json.Keys) (text : Fin keys.size → String) :
    IsStrings (.object keys fun i => .string (text i)) ⟨keys, text⟩

/-- A string or an object of strings is written for data sent along. -/
inductive IsPostData : Json → PostData → Prop where
  /-- A body. -/
  | raw (body : String) : IsPostData (.string body) (.raw body)
  /-- Form fields. -/
  | form {v : Json} {fields : Json.Fields String} (h : IsStrings v fields) :
    IsPostData v (.form fields)

/-- An object within the levels is written for free-form data. -/
inductive IsMetadata (level : Nat) : Json → Json.Fields Json → Prop where
  /-- The object itself. -/
  | object {keys : Json.Keys} {value : Fin keys.size → Json}
    (within : StandsWithin 64 level (.object keys value)) :
    IsMetadata level (.object keys value) ⟨keys, value⟩

/-! ## What steps are written as -/

variable {fields : Json.Fields Json}

/-- **The fields of notes.** -/
structure IsNotes (level : Nat) (fields : Json.Fields Json) (notes : Notes) : Prop where
  /-- The name is a string. -/
  name : Option.Rel IsString (fields.get? "name") notes.name
  /-- The description is a string. -/
  description : Option.Rel IsString (fields.get? "description") notes.description
  /-- The free-form data is an object within the levels. -/
  metadata : Option.Rel (IsMetadata level) (fields.get? "metadata") notes.metadata

/-- **The fields of loading.** -/
structure IsLoading (fields : Json.Fields Json) (l : Loading) : Prop where
  /-- The address is a string. -/
  target : Option.Rel IsString (fields.get? "load") l.target
  /-- The method is one of three words. -/
  method : Option.Rel IsMethod (fields.get? "method") l.method
  /-- The data sent along is a string or an object of strings. -/
  posts : Option.Rel IsPostData (fields.get? "posts") l.posts
  /-- The header fields are an object of strings. -/
  headers : Option.Rel IsStrings (fields.get? "headers") l.headers
  /-- The cookies are an object of strings. -/
  cookies : Option.Rel IsStrings (fields.get? "cookies") l.cookies

/-- **The fields of finding.** -/
structure IsFinding (fields : Json.Fields Json) (f : Finding) : Prop where
  /-- The pattern is a string. -/
  pattern : Option.Rel IsString (fields.get? "find") f.pattern
  /-- The three flags are truth values. -/
  caseInsensitive : Option.Rel IsBoolean (fields.get? "case_insensitive") f.caseInsensitive
  /-- The three flags are truth values. -/
  multiline : Option.Rel IsBoolean (fields.get? "multiline") f.multiline
  /-- The three flags are truth values. -/
  dotMatchesAll : Option.Rel IsBoolean (fields.get? "dot_matches_all") f.dotMatchesAll
  /-- What is made of a match is a string. -/
  replace : Option.Rel IsString (fields.get? "replace") f.replace
  /-- Matches are told by integers. -/
  matchIndex : Option.Rel IsInteger (fields.get? "match") f.matchIndex
  /-- Matches are told by integers. -/
  min : Option.Rel IsInteger (fields.get? "min") f.min
  /-- Matches are told by integers. -/
  max : Option.Rel IsInteger (fields.get? "max") f.max
  /-- One match and a range of matches exclude each other. -/
  exclusive : f.matchIndex = none ∨ f.min = none ∧ f.max = none

/-- **The fields of an action.** A step loads when it has a field of loading, and
it has none of finding then; otherwise it finds. Either way it has its own target
or pattern, or it inherits. -/
inductive IsAction (fields : Json.Fields Json) : Action → Prop where
  /-- A step that loads. -/
  | load {l : Loading} (loads : ∃ name ∈ fields.keys.names, LoadField name)
    (pure : ∀ name ∈ fields.keys.names, ¬FindField name)
    (complete : "load" ∈ fields.keys.names ∨ "extends" ∈ fields.keys.names)
    (written : IsLoading fields l) : IsAction fields (.load l)
  /-- A step that finds. -/
  | find {f : Finding} (pure : ∀ name ∈ fields.keys.names, ¬LoadField name)
    (complete : "find" ∈ fields.keys.names ∨ "extends" ∈ fields.keys.names)
    (written : IsFinding fields f) : IsAction fields (.find f)

/-! ## The rules -/

mutual

/-- **The value is written for the instruction**, standing at the given level. -/
inductive Derives : {p : Place} → (level : Nat) → Json → InstructionAt p → Prop where
  /-- A string is a reference. -/
  | reference {p : Place} {level : Nat} {name : String} (here : level ≤ 64) :
    Derives level (.string name) (.reference (p := p) name)
  /-- An array is a sequence, with its items one level below. Only an instruction
  that stands alone can be a sequence. -/
  | sequence {level size : Nat} {item : Fin size → Json}
    {part : Fin size → InstructionAt .inSequence} (here : level ≤ 64)
    (items : ∀ i, Derives (level + 1) (item i) (part i)) :
    Derives level (.array size item) (.sequence size part)
  /-- An object is a step. It has none but the known fields; what follows it and
  what it inherits from stand one level below, as does its free-form data. -/
  | step {p : Place} {level : Nat} {keys : Json.Keys} {value : Fin keys.size → Json}
    {action : Action} {notes : Notes} {next base : Option Instruction} (here : level ≤ 64)
    (known : ∀ name ∈ keys.names, CommonField name ∨ LoadField name ∨ FindField name)
    (does : IsAction ⟨keys, value⟩ action) (notes_ok : IsNotes (level + 1) ⟨keys, value⟩ notes)
    (leads : Links (level + 1) (Json.Fields.get? ⟨keys, value⟩ "then") next)
    (inherits : Links (level + 1) (Json.Fields.get? ⟨keys, value⟩ "extends") base) :
    Derives level (.object keys value) (.step (p := p) action notes next base)

/-- An instruction that may be absent, as the field it is written in. -/
inductive Links : (level : Nat) → Option Json → Option Instruction → Prop where
  /-- There is neither a field nor an instruction. -/
  | absent {level : Nat} : Links level none none
  /-- The field is written for the instruction. -/
  | present {level : Nat} {v : Json} {i : Instruction} (h : Derives level v i) :
    Links level (some v) (some i)

end

theorem isString_iff {v : Json} {s : String} : IsString v s ↔ v = .string s :=
  ⟨fun | .string _ => rfl, fun h => h ▸ .string s⟩

theorem IsMethod.exists_string {v : Json} {m : Method} (h : IsMethod v m) :
    ∃ word, v = .string word := by
  cases h <;> exact ⟨_, rfl⟩

/-! ## Fields by the lists of their names -/

theorem mem_commonFields_iff {name : String} : name ∈ commonFields ↔ CommonField name := by
  refine ⟨fun h => ?_, fun h => by cases h <;> decide⟩
  simp only [commonFields, List.mem_cons, List.not_mem_nil, or_false] at h
  rcases h with rfl | rfl | rfl | rfl | rfl <;> constructor

theorem mem_loadFields_iff {name : String} : name ∈ loadFields ↔ LoadField name := by
  refine ⟨fun h => ?_, fun h => by cases h <;> decide⟩
  simp only [loadFields, List.mem_cons, List.not_mem_nil, or_false] at h
  rcases h with rfl | rfl | rfl | rfl | rfl <;> constructor

theorem mem_findFields_iff {name : String} : name ∈ findFields ↔ FindField name := by
  refine ⟨fun h => ?_, fun h => by cases h <;> decide⟩
  simp only [findFields, List.mem_cons, List.not_mem_nil, or_false] at h
  rcases h with rfl | rfl | rfl | rfl | rfl | rfl | rfl | rfl <;> constructor

end InstructionStore.Grammar
