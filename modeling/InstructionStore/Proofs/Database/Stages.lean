import InstructionStore.Proofs.Database.Outline

/-!
# Openings that have come some way

Between two statements of an opening anything can happen to the database, so an opening that
is under way is told by what it has left to do (`Stage`): to list the tables, to read the
state, to make parts. It goes on by one statement (`Connection.advance`), and to go on until it
is done is to open the database (`Connection.openAs_eq_goOn`, `Connection.goOn_apply`).

What one statement can do is said once (`Connection.advances`): unless it makes a part, the
contents stay as they are.
-/

namespace InstructionStore.Database

/-- **How far an opening has come.** -/
inductive Stage where
  /-- The tables are inspected next. -/
  | tables
  /-- There are tables. The state is inspected next. -/
  | state
  /-- Parts are made. -/
  | making (rest : List Part)
deriving DecidableEq

/-- How many statements are left at the most. -/
def Stage.left (kind : Kind) : Stage → Nat
  | .tables => kind.parts.length + 2
  | .state => kind.parts.length + 1
  | .making rest => rest.length

namespace Connection

variable {σ : Type}

/-- **One statement of an opening.** Nothing is left to do when no part is to be made. -/
def advance (c : Connection σ) (kind : Kind) : Stage → Task σ OpeningFailure Stage
  | .tables => do
    let areThere ← c.query .sql kind.inspectTables
    return if areThere then .state else .making kind.parts
  | .state => do
    c.query .sql kind.inspectState
    return .making kind.parts
  | .making [] => return .making []
  | .making (part :: rest) => do
    c.make kind part
    return .making rest

/-- **The rest of an opening** from a stage on. -/
def goOn (c : Connection σ) (kind : Kind) : Stage → Task σ OpeningFailure Unit
  | .tables => c.openAs kind
  | .state => do
    c.query .sql kind.inspectState
    kind.parts.forM (c.make kind)
  | .making rest => rest.forM (c.make kind)

variable {c : Connection σ} {kind : Kind} {s s' : σ}

theorem advance_tables_apply (s : σ) :
    c.advance kind .tables s = match c.query .sql kind.inspectTables s with
      | (.ok areThere, s') => (.ok (if areThere then .state else .making kind.parts), s')
      | (.error e, s') => (.error e, s') := by
  show (c.query .sql kind.inspectTables >>= fun areThere =>
    pure (if areThere then Stage.state else Stage.making kind.parts)) s = _
  rw [Task.bind_apply]
  rcases c.query OpeningFailure.sql kind.inspectTables s with ⟨_ | _, s'⟩ <;> rfl

theorem advance_state_apply (s : σ) :
    c.advance kind .state s = match c.query .sql kind.inspectState s with
      | (.ok _, s') => (.ok (.making kind.parts), s')
      | (.error e, s') => (.error e, s') := by
  show (c.query .sql kind.inspectState >>= fun _ => pure (Stage.making kind.parts)) s = _
  rw [Task.bind_apply]
  rcases c.query OpeningFailure.sql kind.inspectState s with ⟨_ | _, s'⟩ <;> rfl

theorem advance_making_apply (part : Part) (rest : List Part) (s : σ) :
    c.advance kind (.making (part :: rest)) s = match c.make kind part s with
      | (.ok _, s') => (.ok (.making rest), s')
      | (.error e, s') => (.error e, s') := by
  show (c.make kind part >>= fun _ => pure (Stage.making rest)) s = _
  rw [Task.bind_apply]
  rcases c.make kind part s with ⟨_ | _, s'⟩ <;> rfl

/-- An opening lists the tables first. -/
theorem openAs_eq_goOn (c : Connection σ) (kind : Kind) : c.openAs kind = c.goOn kind .tables := rfl

/-- **An opening goes on one statement after another**, until there is nothing to make. -/
theorem goOn_apply {stage : Stage} (h : stage ≠ .making []) (s : σ) :
    c.goOn kind stage s = match c.advance kind stage s with
      | (.ok stage', s') => c.goOn kind stage' s'
      | (.error e, s') => (.error e, s') := by
  cases stage with
  | tables =>
    show (c.inspect kind >>= fun _ => kind.parts.forM (c.make kind)) s = _
    unfold inspect
    rw [advance_tables_apply, Task.bind_apply, Task.bind_apply]
    rcases c.query OpeningFailure.sql kind.inspectTables s with ⟨_ | _ | _, s'⟩
    · rfl
    · rfl
    · show _ = (c.query OpeningFailure.sql kind.inspectState >>= fun _ =>
        kind.parts.forM (c.make kind)) s'
      rw [Task.bind_apply]
      rfl
  | state =>
    rw [advance_state_apply]
    show (c.query OpeningFailure.sql kind.inspectState >>= fun _ => kind.parts.forM (c.make kind)) s
      = _
    rw [Task.bind_apply]
    rcases c.query OpeningFailure.sql kind.inspectState s with ⟨_ | _, s'⟩ <;> rfl
  | making rest =>
    cases rest with
    | nil => exact absurd rfl h
    | cons part rest =>
      show (c.make kind part >>= fun _ => rest.forM (c.make kind)) s = _
      rw [advance_making_apply, Task.bind_apply]
      rcases c.make kind part s with ⟨_ | _, s'⟩ <;> rfl

/-- **What one statement of an opening can come to**: by the contents before it, the stage, its
result and the contents after it. -/
inductive Advances (kind : Kind) (before : Option Contents) :
    Stage → Except OpeningFailure Stage → Option Contents → Prop
  /-- The statement fails. -/
  | failed (stage : Stage) (failure : OpeningFailure) :
    Advances kind before stage (.error failure) before
  /-- There are no tables. -/
  | none {db : Contents} (contents : before = some db)
    (passes : kind.inspectTables db = .ok false) :
    Advances kind before .tables (.ok (.making kind.parts)) before
  /-- The tables are those of the kind. -/
  | tables {db : Contents} (contents : before = some db)
    (passes : kind.inspectTables db = .ok true) : Advances kind before .tables (.ok .state) before
  /-- The state tells this version. -/
  | state : Advances kind before .state (.ok (.making kind.parts)) before
  /-- There is nothing left to do. -/
  | done : Advances kind before (.making []) (.ok (.making [])) before
  /-- A part is made. -/
  | made {db db' : Contents} {now : Int64} {part : Part} {rest : List Part}
    (contents : before = some db) (makes : kind.make now part db = .ok ((), db')) :
    Advances kind before (.making (part :: rest)) (.ok (.making rest)) (some db')

/-- Every statement that is carried out is one less. -/
theorem Advances.left_lt {before after : Option Contents} {stage stage' : Stage}
    (h : Advances kind before stage (.ok stage') after) (more : stage ≠ .making []) :
    stage'.left kind < stage.left kind := by
  cases h with
  | none | tables | state => simp only [Stage.left]; omega
  | done => exact absurd rfl more
  | made => exact Nat.lt_succ_self _

/-- No opening is done with the tables. -/
theorem Advances.ne_tables {before after : Option Contents} {stage : Stage}
    (h : Advances kind before stage (.ok (.making [])) after) : stage ≠ .tables := by
  rintro rfl
  generalize hdone : Stage.making [] = stage' at h
  cases h with
  | none => cases kind <;> exact nomatch hdone
  | tables => exact nomatch hdone

/-- Where there is a database, there is one then. -/
theorem Advances.isSome {before after : Option Contents} {stage : Stage}
    {result : Except OpeningFailure Stage} (h : Advances kind before stage result after)
    (hs : before.isSome = true) : after.isSome = true := by
  cases h with
  | made => rfl
  | _ => exact hs

/-- No part is made where there is no database. -/
theorem make_of_none (hc : c.IsLawful) (hs : c.contents s = none) (part : Part) :
    c.make kind part s = (.error .sql, (c.disturbed s).2) := by
  have hstill := (hc.disturbed s).trans hs
  show c.execute (fun _ => OpeningFailure.sql) (kind.make (c.now s) part) s = _
  unfold execute
  dsimp only
  rw [hstill]
  split <;> rfl

/-- Where there is no database, a statement changes nothing that reading does not. -/
theorem advance_of_none {τ : Type} {view : σ → τ} (hc : c.IsLawful) (h : c.ReadsPast view)
    (kind : Kind) (stage : Stage) (hs : c.contents s = none) :
    view (c.advance kind stage s).2 = view s := by
  cases stage with
  | tables => exact ((h.query _ _).bind fun _ => .pure _).eq s
  | state => exact ((h.query _ _).bind fun _ => .pure _).eq s
  | making rest =>
    cases rest with
    | nil => rfl
    | cons part rest =>
      rw [advance_making_apply, make_of_none hc hs]
      exact h.disturbed s

/-- **One statement of an opening** comes to one of these. -/
theorem advances (hc : c.IsLawful) (kind : Kind) (stage : Stage) (s : σ) :
    Advances kind (c.contents s) stage (c.advance kind stage s).1
      (c.contents (c.advance kind stage s).2) := by
  have hread {α : Type} (look : Contents → Except OpeningFailure α) :
      c.contents (c.query .sql look s).2 = c.contents s :=
    (hc.readsPast.query _ _).eq s
  cases stage with
  | tables =>
    have hsame := hread kind.inspectTables
    rw [advance_tables_apply]
    rcases hrun : c.query OpeningFailure.sql kind.inspectTables s with ⟨failure | areThere, s'⟩ <;>
      rw [hrun] at hsame
    · rw [show c.contents s' = c.contents s from hsame]
      exact .failed _ failure
    · obtain ⟨-, db, hs', hpasses⟩ := query_eq_ok hrun
      have hs : c.contents s = some db := hsame.symm.trans hs'
      rw [show c.contents s' = c.contents s from hsame]
      cases areThere with
      | false => exact .none hs hpasses
      | true => exact .tables hs hpasses
  | state =>
    have hsame := hread kind.inspectState
    rw [advance_state_apply]
    rcases hrun : c.query OpeningFailure.sql kind.inspectState s with ⟨failure | _, s'⟩ <;>
      rw [hrun] at hsame
    · rw [show c.contents s' = c.contents s from hsame]
      exact .failed _ failure
    · rw [show c.contents s' = c.contents s from hsame]
      exact .state
  | making rest =>
    cases rest with
    | nil => exact .done
    | cons part rest =>
      rw [advance_making_apply]
      rcases hrun : c.make kind part s with ⟨result, s'⟩
      cases hs : c.contents s with
      | none =>
        rw [make_of_none hc hs] at hrun
        cases hrun
        rw [(hc.disturbed s).trans hs]
        exact .failed _ _
      | some db =>
        rcases make_isAtomic hc kind part s db hs with
          ⟨e, hfail, hs'⟩ | ⟨_, db', hok, hs', now, hmakes⟩
        · rw [hrun] at hfail hs'
          obtain rfl : result = .error e := hfail
          rw [show c.contents s' = some db from hs']
          exact .failed _ _
        · rw [hrun] at hok hs'
          obtain rfl : result = .ok _ := hok
          rw [show c.contents s' = some db' from hs']
          exact .made rfl hmakes

/-- **Each statement is carried out on a complete database** of the kind, on a calm
connection. -/
theorem advance_of_isFor {db : Contents} (hc : c.IsLawful) (calm : c.IsCalm) (h : db.IsFor kind)
    (hs : c.contents s = some db) {stage : Stage}
    (hstage : ∀ {rest}, stage = .making rest → ∀ part ∈ rest, part ∈ kind.parts) :
    (c.advance kind stage s).1.isOk = true := by
  cases stage with
  | tables =>
    have htables := (calm.query hc hs OpeningFailure.sql kind.inspectTables).trans h.inspectTables
    rw [advance_tables_apply]
    rcases hrun : c.query OpeningFailure.sql kind.inspectTables s with ⟨result, s'⟩
    rw [hrun] at htables
    obtain rfl : result = .ok true := htables
    rfl
  | state =>
    have hstate := (calm.query hc hs OpeningFailure.sql kind.inspectState).trans h.inspectState
    rw [advance_state_apply]
    rcases hrun : c.query OpeningFailure.sql kind.inspectState s with ⟨result, s'⟩
    rw [hrun] at hstate
    obtain rfl : result = .ok () := hstate
    rfl
  | making rest =>
    cases rest with
    | nil => rfl
    | cons part rest =>
      rw [advance_making_apply, make_of_isFor hc calm h (hstage rfl part List.mem_cons_self) hs]
      rfl

/-- **Openings of the other kind are refused** because of the tables. -/
theorem advance_of_ne {db : Contents} {other : Kind} (hc : c.IsLawful) (calm : c.IsCalm)
    (h : db.IsFor kind) (hs : c.contents s = some db) (hne : kind ≠ other) :
    (c.advance other .tables s).1 = .error (.refused other.foreignTable) := by
  have htables := (calm.query hc hs OpeningFailure.sql other.inspectTables).trans
    (h.inspectTables_of_ne hne)
  rw [advance_tables_apply]
  rcases hrun : c.query OpeningFailure.sql other.inspectTables s with ⟨result, s'⟩
  rw [hrun] at htables
  obtain rfl : result = .error _ := htables
  rfl

/-- One statement of an opening leaves alone what work with the database does. -/
theorem advance_keeps {τ : Type} {view : σ → τ} (h : c.WorksPast view) (kind : Kind)
    (stage : Stage) : (c.advance kind stage).Keeps view := by
  cases stage with
  | tables => exact (h.query _ _).bind fun _ => .pure _
  | state => exact (h.query _ _).bind fun _ => .pure _
  | making rest =>
    cases rest with
    | nil => exact .pure _
    | cons part rest => exact (make_keeps h kind part).bind fun _ => .pure _

end Connection

end InstructionStore.Database
