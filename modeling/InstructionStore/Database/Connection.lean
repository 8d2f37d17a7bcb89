import InstructionStore.Database.Contents

/-!
# Connections and transactions

A connection leads to the contents of a database inside some larger state `σ`:
all that the work with the database depends on and can change. It also tells the
time and draws identifiers, which are taken from `σ` as well, and it says before
each statement whether the database refuses to carry it out for a reason of its
own.

Work on a state may fail and changes the state nevertheless: `Task`. Changes to
a database are made in one of two ways. `Connection.execute` carries out one
statement. `Connection.transact` carries out several on a copy of the contents,
which takes the place of the contents at the end, and only if nothing failed.
-/

namespace InstructionStore

/-- **Work on a state that may fail.** The state is changed whether or not it
does. -/
abbrev Task (σ ε α : Type) := ExceptT ε (StateM σ) α

namespace Task

variable {σ ε α : Type}

/-- Work that only fails or gives a value. -/
def ofExcept (result : Except ε α) : Task σ ε α := fun s => (result, s)

/-- Work with another kind of failure. -/
def mapError {ε' : Type} (f : ε → ε') (task : Task σ ε α) : Task σ ε' α := fun s =>
  match task s with
  | (.ok a, s) => (.ok a, s)
  | (.error e, s) => (.error (f e), s)

/-- Work that cannot fail. -/
def ofState (f : σ → α × σ) : Task σ ε α := fun s => (.ok (f s).1, (f s).2)

end Task

namespace Database

/-- **A connection to a database** in a state of type `σ`. -/
structure Connection (σ : Type) where
  /-- The contents of the database, if it is one. -/
  contents : σ → Option Contents
  /-- Replaces the contents. -/
  replace : Contents → σ → σ
  /-- The time. -/
  now : σ → Int64
  /-- Draws an identifier. -/
  draw : σ → String × σ
  /-- Whether the next statement is refused for no reason of its own. -/
  disturbed : σ → Bool × σ

/-- **A statement**: what it gives and the contents after it. -/
abbrev Statement (α : Type) := Contents → Except Refusal (α × Contents)

/-- Work inside a transaction: on a state and on a copy of the contents. -/
abbrev Transaction (σ ε α : Type) := Task (σ × Contents) ε α

namespace Connection

variable {σ ε α : Type} (c : Connection σ)

/-- Draws an identifier. -/
def drawId : Task σ ε String := .ofState c.draw

/-- **Looks something up.** -/
def query (failed : ε) (look : Contents → Except ε α) : Task σ ε α := fun s =>
  let (disturbed, s) := c.disturbed s
  if disturbed then (.error failed, s)
  else match c.contents s with
    | none => (.error failed, s)
    | some db => (look db, s)

/-- **Carries out one statement.** -/
def execute (failed : Refusal → ε) (statement : Statement α) : Task σ ε α := fun s =>
  let (disturbed, s) := c.disturbed s
  if disturbed then (.error (failed .failure), s)
  else match c.contents s with
    | none => (.error (failed .failure), s)
    | some db =>
      match statement db with
      | .error refusal => (.error (failed refusal), s)
      | .ok (a, db) => (.ok a, c.replace db s)

/-- Carries out one statement inside a transaction. -/
def step (failed : Refusal → ε) (statement : Statement α) : Transaction σ ε α := fun (s, db) =>
  let (disturbed, s) := c.disturbed s
  if disturbed then (.error (failed .failure), (s, db))
  else match statement db with
    | .error refusal => (.error (failed refusal), (s, db))
    | .ok (a, db) => (.ok a, (s, db))

/-- **Carries out a transaction.** Its changes are made all at once at the end,
and not at all if a statement fails or the end itself does. -/
def transact (failed : ε) (body : Transaction σ ε α) : Task σ ε α := fun s =>
  match c.contents s with
  | none => (.error failed, s)
  | some db =>
    match body (s, db) with
    | (.error e, (s, _)) => (.error e, s)
    | (.ok a, (s, db)) =>
      let (disturbed, s) := c.disturbed s
      if disturbed then (.error failed, s) else (.ok a, c.replace db s)

end Connection

end Database

end InstructionStore
