import InstructionStore.Database.Opening
import InstructionStore.Proofs.Database.Apart
import InstructionStore.Proofs.Outcome

/-!
# What opening a database does

The parts of a database are made one by one, each by a statement of its own
(`Connection.make_isAtomic`). An opening that fails may therefore have made some of them, and
whoever looks on sees a database to which tables are added, one after another. But whatever
comes of an opening, tables that were there before stay as they are, those of state apart
(`Connection.openAs_extends`), and if it succeeds no table of the kind is missing
(`Connection.openAs_eq_ok`).
-/

namespace InstructionStore.Database

/-- The places of the state. -/
def Place.ofState : List Place := [recordsState, historyState]

namespace Slot

variable {Row : Type}

theorem install_of_isTaken {slot : Slot Row} (h : slot.isTaken = true) : slot.install = slot := by
  cases slot with
  | vacant => exact nomatch h
  | _ => rfl

theorem isTaken_install (slot : Slot Row) : slot.install.isTaken = true := by
  cases slot <;> rfl

end Slot

namespace Contents

variable {db db' db'' : Contents}

theorem slot_put_self (p : Place) (slot : Slot p.Row) : (db.put p slot).slot p = slot := by
  cases p <;> rfl

theorem slot_put_of_ne {p q : Place} (h : q ≠ p) (slot : Slot p.Row) :
    (db.put p slot).slot q = db.slot q := by
  cases p <;> cases q <;> first | rfl | exact absurd rfl h

theorem slot_setState {p : Place} (h : p ∉ Place.ofState) (kind : Kind) (slot : Slot StateRow) :
    (kind.setState slot db).slot p = db.slot p := by
  cases kind <;> cases p <;> first | rfl | exact absurd (by decide) h

/-- **Tables are added to a database.** Those that are there stay as they are. Of the tables
of state nothing is said. -/
structure Extends (db db' : Contents) : Prop where
  /-- A table is as it was, or was made if it was missing. -/
  slots : ∀ p ∉ Place.ofState, db'.slot p = db.slot p ∨ db'.slot p = (db.slot p).install
  /-- The numbering of the archive goes on. -/
  archived : db'.archived = db.archived

namespace Extends

theorem refl (db : Contents) : db.Extends db := ⟨fun _ _ => .inl rfl, rfl⟩

theorem slot_of_isTaken (h : db.Extends db') {p : Place} (hp : p ∉ Place.ofState)
    (htaken : (db.slot p).isTaken = true) : db'.slot p = db.slot p :=
  (h.slots p hp).elim id fun hmade => hmade.trans (Slot.install_of_isTaken htaken)

/-- A table that is there has the rows it had. -/
theorem rows (h : db.Extends db') {p : Place} (hp : p ∉ Place.ofState) {rows : List p.Row}
    (hrows : db.slot p = .rows rows) : db'.slot p = .rows rows :=
  (h.slot_of_isTaken hp (hrows ▸ rfl)).trans hrows

theorem trans (h : db.Extends db') (h' : db'.Extends db'') : db.Extends db'' where
  slots p hp := by
    rcases h.slots p hp with hsame | hmade
    · rw [← hsame]
      exact h'.slots p hp
    · refine .inr ((h'.slot_of_isTaken hp ?_).trans hmade)
      rw [hmade]
      exact Slot.isTaken_install _
  archived := h'.archived.trans h.archived

/-- A table that is there at the end was made if it was missing. -/
theorem install (h : db.Extends db') {p : Place} (hp : p ∉ Place.ofState)
    (htaken : (db'.slot p).isTaken = true) : db'.slot p = (db.slot p).install := by
  rcases h.slots p hp with hsame | hmade
  · exact hsame.trans (Slot.install_of_isTaken (hsame ▸ htaken)).symm
  · exact hmade

end Extends

/-- **A database with empty tables of a kind.** -/
structure IsNew (db : Contents) (kind : Kind) : Prop where
  /-- There is nothing in the tables. -/
  slots : ∀ p ∉ Place.ofState, p ∈ kind.places → db.slot p = .rows []
  /-- The archive has no numbers yet. -/
  archived : db.archived = 0

/-- A table is made where there is none. -/
theorem extends_put_install (db : Contents) (p : Place) :
    db.Extends (db.put p (db.slot p).install) where
  slots q _ := by
    by_cases hq : q = p
    · subst hq
      exact .inr (slot_put_self _ _)
    · exact .inl (slot_put_of_ne hq _)
  archived := by
    cases p with
    | archive => exact if_pos (Slot.isTaken_install _)
    | _ => rfl

/-- **Making a part** adds a table at the most. -/
theorem extends_of_make {kind : Kind} {now : Int64} {part : Part}
    (h : kind.make now part db = .ok ((), db')) : db.Extends db' := by
  cases part with
  | table p =>
    cases h
    exact db.extends_put_install p
  | index p =>
    obtain ⟨_, -, h⟩ := Outcome.bind_eq_ok_iff.1 h
    cases h
    exact .refl db
  | state =>
    obtain ⟨_, -, h⟩ := Outcome.bind_eq_ok_iff.1 h
    cases h
    exact ⟨fun p hp => .inl (slot_setState hp _ _), by cases kind <;> rfl⟩

end Contents

namespace Connection

variable {σ : Type} {c : Connection σ} {kind : Kind} {s s' : σ} {db : Contents}

/-- **A part is made** as a whole or not at all. -/
theorem make_isAtomic (hc : c.IsLawful) (kind : Kind) (part : Part) :
    c.IsAtomic (c.make kind part) fun db _ db' =>
      ∃ now, kind.make now part db = .ok ((), db') :=
  .bind_of_isQuiet (fun _ => .get) fun _ => (hc.execute _ _).imp fun _ _ _ hrun => ⟨_, hrun⟩

/-- An inspection leaves alone what reading does. -/
theorem inspect_keeps {τ : Type} {view : σ → τ} (h : c.ReadsPast view) (kind : Kind) :
    (c.inspect kind).Keeps view := by
  unfold inspect
  refine (h.query _ _).bind fun areThere => ?_
  split
  · exact h.query _ _
  · exact .pure _

theorem make_keeps {τ : Type} {view : σ → τ} (h : c.WorksPast view) (kind : Kind) (part : Part) :
    (c.make kind part).Keeps view :=
  Task.Keeps.get.bind fun _ => h.execute _ _

/-- Opening a database leaves alone what work with it does. -/
theorem openAs_keeps {τ : Type} {view : σ → τ} (h : c.WorksPast view) (kind : Kind) :
    (c.openAs kind).Keeps view :=
  (inspect_keeps h.toReadsPast kind).bind fun _ => .forM (make_keeps h kind) _

/-- **Parts are made one after another.** However far that comes, it adds tables, and if it
comes to the end they are all there. -/
theorem forM_make (hc : c.IsLawful) (kind : Kind) (parts : List Part)
    (hs : c.contents s = some db) :
    ∃ db', c.contents (parts.forM (c.make kind) s).2 = some db' ∧ db.Extends db' ∧
      ((parts.forM (c.make kind) s).1.isOk = true →
        ∀ p ∉ Place.ofState, .table p ∈ parts → (db'.slot p).isTaken = true) := by
  induction parts generalizing s db with
  | nil => exact ⟨db, hs, .refl db, fun _ _ _ => nofun⟩
  | cons part parts ih =>
    rw [show (part :: parts).forM (c.make kind) = c.make kind part >>= fun _ =>
      parts.forM (c.make kind) from rfl, Task.bind_apply]
    rcases make_isAtomic hc kind part s db hs with ⟨e, hfail, hs'⟩ | ⟨_, db₁, hok, hs', now, hmake⟩
    · rcases hrun : c.make kind part s with ⟨result, s'⟩
      rw [hrun] at hfail hs'
      obtain rfl : result = .error e := hfail
      exact ⟨db, hs', .refl db, nofun⟩
    · rcases hrun : c.make kind part s with ⟨result, s'⟩
      rw [hrun] at hok hs'
      obtain rfl : result = .ok _ := hok
      obtain ⟨db', hs'', hextends, hall⟩ := ih hs'
      refine ⟨db', hs'', (Contents.extends_of_make hmake).trans hextends, fun hdone p hp hmem => ?_⟩
      rcases List.mem_cons.1 hmem with rfl | hmem
      · cases hmake
        have htaken : ((db.put p (db.slot p).install).slot p).isTaken = true := by
          rw [Contents.slot_put_self]
          exact Slot.isTaken_install _
        rw [hextends.slot_of_isTaken hp htaken]
        exact htaken
      · exact hall hdone p hp hmem

/-- **Whatever comes of an opening, it adds tables** and leaves those that are there. -/
theorem openAs_cases (hc : c.IsLawful) (kind : Kind) (hs : c.contents s = some db) :
    ∃ db', c.contents (c.openAs kind s).2 = some db' ∧ db.Extends db' ∧
      ((c.openAs kind s).1.isOk = true →
        ∀ p ∉ Place.ofState, .table p ∈ kind.parts → (db'.slot p).isTaken = true) := by
  have hs' := ((inspect_keeps hc.readsPast kind).eq s).trans hs
  unfold openAs
  rw [Task.bind_apply]
  rcases hrun : c.inspect kind s with ⟨e | _, s'⟩
  · rw [hrun] at hs'
    exact ⟨db, hs', .refl db, nofun⟩
  · rw [hrun] at hs'
    exact forM_make hc kind kind.parts hs'

theorem openAs_extends (hc : c.IsLawful) (kind : Kind) (hs : c.contents s = some db) :
    ∃ db', c.contents (c.openAs kind s).2 = some db' ∧ db.Extends db' := by
  obtain ⟨db', hs', hextends, -⟩ := openAs_cases hc kind hs
  exact ⟨db', hs', hextends⟩

/-- **An opening that succeeds leaves no table of the kind missing.** -/
theorem openAs_eq_ok (hc : c.IsLawful) (hs : c.contents s = some db)
    (h : c.openAs kind s = (.ok (), s')) :
    ∃ db', c.contents s' = some db' ∧ db.Extends db' ∧
      ∀ p ∉ Place.ofState, p ∈ kind.places → db'.slot p = (db.slot p).install := by
  obtain ⟨db', hs', hextends, hall⟩ := openAs_cases hc kind hs
  rw [h] at hs' hall
  refine ⟨db', hs', hextends, fun p hp hmem => hextends.install hp (hall rfl p hp ?_)⟩
  exact List.mem_append_left _ (List.mem_flatMap.2 ⟨p, hmem, List.mem_cons_self⟩)

/-- **A database that is opened without tables** has empty ones then. -/
theorem isNew_of_openAs (hc : c.IsLawful) (new : c.contents s = some .empty)
    (opens : c.openAs kind s = (.ok (), s')) :
    ∃ db, c.contents s' = some db ∧ db.IsNew kind := by
  obtain ⟨db, hs', hextends, hmade⟩ := openAs_eq_ok hc new opens
  refine ⟨db, hs', fun p hp hmem => (hmade p hp hmem).trans ?_, hextends.archived⟩
  cases p <;> rfl

end Connection

end InstructionStore.Database
