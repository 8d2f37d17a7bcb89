import InstructionStore.Json.Basic

/-!
# Instructions

An instruction says how to get something off the web. It is one of three
things:

* **a reference** to another instruction, by name;
* **a step**, which either *loads* a page or *finds* a pattern in what was
  loaded before;
* **a sequence** of references and steps.

A step can name what follows it (`next`) and what it inherits from
(`base`); either is an instruction again. A step that inherits may leave out
its target or its pattern. Nothing here resolves a reference or an
inheritance: an instruction is kept as it was written, and an option that was
not written is kept as absent rather than filled with its default.

Sequences do not nest directly: the items of a sequence are references and
steps, although what follows an item may be a sequence again. The type keeps
this by recording the `Place` an instruction stands in, and only an
instruction that stands alone can be a sequence.
-/

namespace InstructionStore

/-! ## What a step does -/

/-- How a page is asked for. -/
inductive Method where
  /-- Only the header of the page. -/
  | head
  /-- The page. -/
  | get
  /-- The page, in answer to data sent along. -/
  | post
deriving DecidableEq

namespace Method

/-- The word for a method. -/
def word : Method → String
  | .head => "head"
  | .get => "get"
  | .post => "post"

/-- All methods, in the order messages list them. -/
def all : List Method := [.head, .get, .post]

/-- The method a word stands for. -/
def ofWord? (word : String) : Option Method := all.find? fun m => m.word = word

@[simp] theorem ofWord?_word (m : Method) : ofWord? m.word = some m := by
  cases m <;> decide

theorem ofWord?_eq_some_iff {word : String} {m : Method} :
    ofWord? word = some m ↔ m.word = word := by
  constructor
  · intro h
    simpa using List.find?_some h
  · rintro rfl
    exact ofWord?_word m

end Method

/-- Data sent along with a request. -/
inductive PostData where
  /-- A body that is sent as it is. -/
  | raw (body : String)
  /-- Form fields. -/
  | form (fields : Json.Fields String)
deriving DecidableEq

/-- **Loading a page.** -/
structure Loading where
  /-- The address of the page; absent on a step that inherits it. -/
  target : Option String
  /-- How the page is asked for. -/
  method : Option Method
  /-- Data sent along. -/
  posts : Option PostData
  /-- Header fields of the request. -/
  headers : Option (Json.Fields String)
  /-- Cookies of the request. -/
  cookies : Option (Json.Fields String)
deriving DecidableEq

/-- Which matches of a pattern are used. Zero and positive numbers count
forward from the first match, negative numbers back from the last. -/
inductive Selection where
  /-- One match. -/
  | single (index : Int64)
  /-- All matches from one to another. -/
  | range (min max : Int64)
deriving DecidableEq

/-- **Finding a pattern** in what was loaded before. -/
structure Finding where
  /-- The pattern; absent on a step that inherits it. -/
  pattern : Option String
  /-- Whether letters match in either case. -/
  caseInsensitive : Option Bool
  /-- Whether the marks for start and end match at every line. -/
  multiline : Option Bool
  /-- Whether the dot matches a line break. -/
  dotMatchesAll : Option Bool
  /-- What is made of a match. -/
  replace : Option String
  /-- The one match to use. -/
  matchIndex : Option Int64
  /-- The first match to use. -/
  min : Option Int64
  /-- The last match to use. -/
  max : Option Int64
deriving DecidableEq

namespace Finding

/-- What is made of a match when nothing is said: the match itself. -/
def defaultReplace : String := "$0"

/-- The first match used when nothing is said: the first there is. -/
def defaultMin : Int64 := 0

/-- The last match used when nothing is said: the last there is. -/
def defaultMax : Int64 := -1

/-- Whether letters match in either case; by default they do not. -/
def isCaseInsensitive (f : Finding) : Bool := f.caseInsensitive.getD false

/-- Whether start and end match at every line; by default they do not. -/
def isMultiline (f : Finding) : Bool := f.multiline.getD false

/-- Whether the dot matches a line break; by default it does. -/
def doesDotMatchAll (f : Finding) : Bool := f.dotMatchesAll.getD true

/-- What is made of a match, or the default. -/
def replacement (f : Finding) : String := f.replace.getD defaultReplace

/-- **Which matches are used**: one, if one is named, and otherwise a range
whose missing ends are the first and the last match. -/
def selection (f : Finding) : Selection :=
  match f.matchIndex with
  | some index => .single index
  | none => .range (f.min.getD defaultMin) (f.max.getD defaultMax)

end Finding

/-- **What a step does.** -/
inductive Action where
  /-- It loads a page. -/
  | load (loading : Loading)
  /-- It finds a pattern. -/
  | find (finding : Finding)
deriving DecidableEq

/-- What may be noted on any step. -/
structure Notes where
  /-- The name under which the result of the step is kept. -/
  name : Option String
  /-- A description for readers. -/
  description : Option String
  /-- Free-form data of the author. -/
  metadata : Option (Json.Fields Json)
deriving DecidableEq

/-! ## Instructions -/

/-- Where an instruction stands. -/
inductive Place where
  /-- On its own: as a whole, or as what a step leads to or inherits from. -/
  | alone
  /-- As an item of a sequence. -/
  | inSequence
deriving DecidableEq

/-- **An instruction** at a given place. -/
inductive InstructionAt : Place → Type where
  /-- A reference to another instruction. -/
  | reference {p : Place} (name : String) : InstructionAt p
  /-- A sequence, given by the item at each index. -/
  | sequence (size : Nat) (item : Fin size → InstructionAt .inSequence) : InstructionAt .alone
  /-- A step with what follows it and what it inherits from. -/
  | step {p : Place} (action : Action) (notes : Notes)
      (next base : Option (InstructionAt .alone)) : InstructionAt p

/-- **An instruction** that stands alone. -/
abbrev Instruction := InstructionAt .alone

namespace InstructionAt

variable {p : Place}

instance : Inhabited (InstructionAt p) := ⟨.reference ""⟩

/-- The sequence of given items, each computed once. -/
def sequenceOf (size : Nat) (item : Fin size → InstructionAt .inSequence) : Instruction :=
  let items := Array.ofFn item
  have same : items.size = size := by simp [items]
  .sequence size fun i => items[i.cast same.symm]

@[simp] theorem sequenceOf_eq (size : Nat) (item : Fin size → InstructionAt .inSequence) :
    sequenceOf size item = .sequence size item := by
  simp [sequenceOf]

/-- **Induction over instructions**: through the items of a sequence, and
through what follows a step and what it inherits from. -/
theorem induct {motive : ∀ {p : Place}, InstructionAt p → Prop}
    (reference : ∀ {p : Place} (name : String), motive (.reference (p := p) name))
    (sequence : ∀ (size : Nat) (item : Fin size → InstructionAt .inSequence),
      (∀ i, motive (item i)) → motive (.sequence size item))
    (step : ∀ {p : Place} (action : Action) (notes : Notes)
      (next base : Option (InstructionAt .alone)),
      (∀ i ∈ next, motive i) → (∀ i ∈ base, motive i) →
        motive (.step (p := p) action notes next base)) :
    ∀ {p : Place} (i : InstructionAt p), motive i
  | _, .reference name => reference name
  | _, .sequence size item =>
    sequence size item fun i => induct reference sequence step (item i)
  | _, .step action notes next base =>
    step action notes next base
      (match next with
        | none => nofun
        | some i => fun _ h => by cases h; exact induct reference sequence step i)
      (match base with
        | none => nofun
        | some i => fun _ h => by cases h; exact induct reference sequence step i)

/-- Decides equality, part by part. -/
def decEq : {p : Place} → (a b : InstructionAt p) → Decidable (a = b)
  | _, .reference x, b => match b with
    | .reference y => decidable_of_iff (x = y) ⟨congrArg _, fun h => by injection h⟩
    | .sequence _ _ | .step .. => isFalse nofun
  | _, .sequence n item, b => match b with
    | .sequence m item' =>
      if hn : n = m then
        haveI : DecidablePred fun i => item i = item' (i.cast hn) := fun i => decEq (item i) _
        decidable_of_iff (∀ i, item i = item' (i.cast hn)) (by
          subst hn
          exact ⟨fun h => congrArg _ (funext h), fun h i => by injection h with _ h; rw [h]; rfl⟩)
      else isFalse fun h => hn (by injection h)
    | .reference _ | .step .. => isFalse nofun
  | _, .step action notes next base, b => match b with
    | .step action' notes' next' base' =>
      haveI : Decidable (next = next') := match next, next' with
        | none, none => isTrue rfl
        | none, some _ | some _, none => isFalse nofun
        | some x, some y =>
          haveI := decEq x y
          decidable_of_iff (x = y) ⟨congrArg _, fun h => by injection h⟩
      haveI : Decidable (base = base') := match base, base' with
        | none, none => isTrue rfl
        | none, some _ | some _, none => isFalse nofun
        | some x, some y =>
          haveI := decEq x y
          decidable_of_iff (x = y) ⟨congrArg _, fun h => by injection h⟩
      decidable_of_iff (action = action' ∧ notes = notes' ∧ next = next' ∧ base = base')
        ⟨fun ⟨h₁, h₂, h₃, h₄⟩ => by rw [h₁, h₂, h₃, h₄],
          fun h => by injection h with _ h₁ h₂ h₃ h₄; exact ⟨h₁, h₂, h₃, h₄⟩⟩
    | .reference _ | .sequence _ _ => isFalse nofun

instance : DecidableEq (InstructionAt p) := decEq

/-- The word for the kind of an instruction. -/
def kind : InstructionAt p → String
  | .reference _ => "reference"
  | .sequence _ _ => "sequence"
  | .step (.load _) _ _ _ => "load"
  | .step (.find _) _ _ _ => "find"

end InstructionAt

end InstructionStore
