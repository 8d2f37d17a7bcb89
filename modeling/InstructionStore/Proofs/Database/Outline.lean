import InstructionStore.Proofs.Database.Gate
import InstructionStore.Proofs.Database.Table

/-!
# Databases that have been opened

Making a database of a kind takes several statements, and others may look on or work with it
between any two of them. From the first statement on the database is **begun** for the kind: it
has none but tables of the kind, and its state tells this version or nothing
(`Contents.IsBegun`). Every part that is made is there from then on (`Contents.IsBegun.make`),
whoever makes it, so when all parts have been made nothing is missing
(`Contents.IsFor.of_hasPart`).

A database that is complete can be **opened again**, and that changes nothing: each part is
there already (`Contents.IsFor.make`). Whatever rows are put into the tables then, or taken from
them, this stays so (`Contents.IsFor.refills`). As the other kind it is refused, since its table
of state is foreign there (`Contents.IsFor.inspect_of_ne`). So is every database that is begun
and has a table (`Contents.IsBegun.eq_of_inspectTables`).
-/

namespace InstructionStore.Database

namespace Kind

variable {kind other : Kind} {db : Contents}

/-- The place of the state. -/
def statePlace : Kind → Place
  | records => .recordsState
  | history => .historyState

theorem statePlace_mem_iff : kind.statePlace ∈ other.places ↔ kind = other := by
  cases kind <;> cases other <;> decide

/-- The tables of a kind have names that no table of the other kind has. -/
theorem name_mem_iff {p : Place} (hp : p ∈ kind.places) :
    p.name ∈ other.places.map Place.name ↔ kind = other := by
  cases kind <;> cases other <;> cases p <;> first | decide | exact absurd hp (by decide)

theorem table_mem_parts_iff {p : Place} : .table p ∈ kind.parts ↔ p ∈ kind.places := by
  cases kind <;> cases p <;> decide

theorem mem_places_of_index {p : Place} (h : .index p ∈ kind.parts) : p ∈ kind.places := by
  cases kind <;> cases p <;> first | decide | exact absurd h (by decide)

theorem slot_setState_of_ne {p : Place} (h : p ≠ kind.statePlace) (slot : Slot StateRow) :
    (kind.setState slot db).slot p = db.slot p := by
  cases kind <;> cases p <;> first | rfl | exact absurd rfl h

theorem slot_setState_self (rows : List StateRow) :
    ∃ rows', (kind.setState (.rows rows) db).slot kind.statePlace = .rows rows' := by
  cases kind <;> exact ⟨rows, rfl⟩

theorem state_setState (slot : Slot StateRow) : kind.state (kind.setState slot db) = slot := by
  cases kind <;> rfl

theorem setState_state : kind.setState (kind.state db) db = db := by
  cases kind <;> rfl

theorem others_setState (slot : Slot StateRow) : (kind.setState slot db).others = db.others := by
  cases kind <;> rfl

/-- The state is in a table like others. -/
theorem exists_state_iff :
    (∃ rows, kind.state db = .rows rows) ↔ ∃ rows, db.slot kind.statePlace = .rows rows := by
  cases kind <;> exact Iff.rfl

/-- The version is told by the state. -/
theorem HasVersion.congr {db' : Contents} (h : kind.HasVersion db)
    (hstate : kind.state db' = kind.state db) : kind.HasVersion db' := by
  unfold HasVersion at h ⊢
  rwa [hstate]

theorem HasVersion.exists_state (h : kind.HasVersion db) :
    ∃ rows, kind.state db = .rows rows ∧ ∀ now, addState now rows = rows := by
  obtain ⟨rows, row, hread, hfind, -⟩ := h
  have hany : rows.any isState = true :=
    List.any_eq_true.2 ⟨row, List.mem_of_find?_eq_some hfind, List.find?_some hfind⟩
  exact ⟨rows, Slot.read_eq_ok_iff.1 hread, fun _ => if_pos hany⟩

end Kind

theorem Place.mem_all (p : Place) : p ∈ all := by
  cases p <;> decide

/-! ## Tables with other rows -/

/-- **A slot is filled anew**: a table stays a table, and no table is made or dropped. -/
inductive Slot.Refills {Row : Type} : Slot Row → Slot Row → Prop where
  /-- There is still no table. -/
  | vacant : Refills .vacant .vacant
  /-- There is still a table of another shape. -/
  | foreign : Refills .foreign .foreign
  /-- There is still the table. -/
  | rows (before after : List Row) : Refills (.rows before) (.rows after)

namespace Slot.Refills

variable {Row : Type} {s s' s'' : Slot Row}

theorem refl (s : Slot Row) : s.Refills s := by
  cases s
  · exact .vacant
  · exact .foreign
  · exact .rows _ _

theorem trans (h : s.Refills s') (h' : s'.Refills s'') : s.Refills s'' := by
  cases h <;> cases h'
  · exact .vacant
  · exact .foreign
  · exact .rows _ _

theorem of_rows {before after : List Row} (h : s = .rows before) : s.Refills (.rows after) :=
  h ▸ .rows before after

end Slot.Refills

namespace Contents

variable {db db' db'' : Contents} {kind other : Kind}

/-- **The tables are filled anew.** The tables of state stay as they are. -/
structure Refills (db db' : Contents) : Prop where
  /-- No table is made or dropped. -/
  slots : ∀ p, (db.slot p).Refills (db'.slot p)
  /-- The state of records stays. -/
  recordsState : db'.recordsState = db.recordsState
  /-- The state of a history stays. -/
  historyState : db'.historyState = db.historyState
  /-- The other tables stay. -/
  others : db'.others = db.others

namespace Refills

theorem refl (db : Contents) : db.Refills db := ⟨fun _ => .refl _, rfl, rfl, rfl⟩

theorem trans (h : db.Refills db') (h' : db'.Refills db'') : db.Refills db'' where
  slots p := (h.slots p).trans (h'.slots p)
  recordsState := h'.recordsState.trans h.recordsState
  historyState := h'.historyState.trans h.historyState
  others := h'.others.trans h.others

/-- A kind reads its state from its own table of state. -/
theorem state (h : db.Refills db') (kind : Kind) : kind.state db' = kind.state db := by
  cases kind
  · exact h.recordsState
  · exact h.historyState

end Refills

/-- **A database without tables** has none in any place, and no other. -/
theorem tableNames_eq_nil_iff :
    db.tableNames = [] ↔ (∀ p, db.slot p = .vacant) ∧ db.others = [] := by
  have hvacant (p : Place) : (db.slot p).isTaken = false ↔ db.slot p = .vacant := by
    cases db.slot p with
    | vacant => exact iff_of_true rfl rfl
    | _ => exact iff_of_false nofun nofun
  unfold tableNames
  rw [List.append_eq_nil_iff, List.map_eq_nil_iff, List.filter_eq_nil_iff]
  refine and_congr_left fun _ => ⟨fun h p => ?_, fun h p _ => ?_⟩
  · exact (hvacant p).1 (Bool.eq_false_iff.2 (h p p.mem_all))
  · exact Bool.eq_false_iff.1 ((hvacant p).2 (h p))

/-! ## Databases that are begun -/

/-- **A database that is begun for a kind.** Some of its tables may be missing. -/
structure IsBegun (db : Contents) (kind : Kind) : Prop where
  /-- The tables of the kind are missing or have their shapes. -/
  tables : ∀ p ∈ kind.places, db.slot p = .vacant ∨ ∃ rows, db.slot p = .rows rows
  /-- Those of the other kind are not there. -/
  vacant : ∀ p, p ∉ kind.places → db.slot p = .vacant
  /-- And there are no other tables. -/
  others : db.others = []
  /-- The state is empty or tells this version. -/
  version : ∀ rows, kind.state db = .rows rows → rows = [] ∨ kind.HasVersion db

/-- **A part is there.** An index leaves no trace in the contents. -/
def HasPart (db : Contents) (kind : Kind) : Part → Prop
  | .table p => ∃ rows, db.slot p = .rows rows
  | .index _ => True
  | .state => kind.HasVersion db

/-- A database without tables is begun for either kind. -/
theorem IsBegun.of_new (hnew : db.tableNames = []) (kind : Kind) : db.IsBegun kind := by
  obtain ⟨hslots, hothers⟩ := tableNames_eq_nil_iff.1 hnew
  refine ⟨fun p _ => .inl (hslots p), fun p _ => hslots p, hothers, fun rows hstate => ?_⟩
  obtain ⟨_, hrows⟩ := Kind.exists_state_iff.1 ⟨rows, hstate⟩
  exact nomatch hrows.symm.trans (hslots _)

namespace IsBegun

/-- The tables that count are those of the kind that are there. -/
theorem mem_userTables_iff (h : db.IsBegun kind) {name : String} :
    name ∈ db.userTables ↔
      ∃ p ∈ kind.places, (∃ rows, db.slot p = .rows rows) ∧ p.name = name := by
  have hcounts : ∀ p : Place, looksReserved p.name = false := fun p => by cases p <;> rfl
  have htaken (p : Place) : (db.slot p).isTaken = true ↔
      p ∈ kind.places ∧ ∃ rows, db.slot p = .rows rows := by
    by_cases hp : p ∈ kind.places
    · rcases h.tables p hp with hvacant | ⟨rows, hrows⟩
      · rw [hvacant]
        exact iff_of_false nofun nofun
      · rw [hrows]
        exact iff_of_true rfl ⟨hp, rows, rfl⟩
    · rw [h.vacant p hp]
      exact iff_of_false nofun nofun
  unfold userTables tableNames
  rw [h.others, List.append_nil, List.mem_filter]
  simp only [List.mem_map, List.mem_filter, htaken]
  constructor
  · rintro ⟨⟨p, ⟨-, hp, hrows⟩, rfl⟩, -⟩
    exact ⟨p, hp, hrows, rfl⟩
  · rintro ⟨p, hp, hrows, rfl⟩
    exact ⟨⟨p, ⟨p.mem_all, hp, hrows⟩, rfl⟩, by rw [hcounts]; rfl⟩

/-- If no table counts there is none. -/
theorem tableNames_eq_nil (h : db.IsBegun kind) (hnone : db.userTables = []) :
    db.tableNames = [] := by
  refine tableNames_eq_nil_iff.2 ⟨fun p => ?_, h.others⟩
  by_cases hp : p ∈ kind.places
  · refine (h.tables p hp).resolve_right fun hrows => ?_
    exact List.not_mem_nil (hnone ▸ h.mem_userTables_iff.2 ⟨p, hp, hrows, rfl⟩)
  · exact h.vacant p hp

/-- **What passes as a database with tables of a kind** was begun for this kind. -/
theorem eq_of_inspectTables (h : db.IsBegun kind) (hpass : other.inspectTables db = .ok true) :
    kind = other := by
  unfold Kind.inspectTables at hpass
  dsimp only at hpass
  split at hpass
  case isTrue => exact nomatch hpass
  case isFalse hsome =>
  split at hpass
  case isTrue => exact nomatch hpass
  case isFalse hnone =>
  obtain ⟨name, hname⟩ := List.exists_mem_of_ne_nil _ (mt List.isEmpty_iff.2 hsome)
  obtain ⟨p, hp, -, rfl⟩ := h.mem_userTables_iff.1 hname
  refine (Kind.name_mem_iff hp).1 (Decidable.byContradiction fun hforeign => hnone ?_)
  exact List.any_eq_true.2 ⟨_, hname, by rw [List.contains_eq_mem, decide_eq_false hforeign]; rfl⟩

/-- **What passes as a database without tables** has none. -/
theorem tableNames_of_inspectTables (h : db.IsBegun kind)
    (hpass : other.inspectTables db = .ok false) : db.tableNames = [] := by
  refine h.tableNames_eq_nil (List.isEmpty_iff.1 (Decidable.byContradiction fun hsome => ?_))
  unfold Kind.inspectTables at hpass
  dsimp only at hpass
  rw [if_neg hsome] at hpass
  split at hpass
  · exact nomatch hpass
  · split at hpass <;> exact nomatch hpass

/-! ### Making parts -/

/-- The state is as it was when a table is made, unless it is that of the state. -/
theorem state_put_install (db : Contents) (kind : Kind) (p : Place) :
    kind.state (db.put p (db.slot p).install) = kind.state db ∨
    kind.state (db.put p (db.slot p).install) = (kind.state db).install := by
  cases kind <;> cases p <;> first | exact .inl rfl | exact .inr rfl

/-- A version that is told goes on to be told when a table is made. -/
theorem hasVersion_put_install (p : Place) (h : kind.HasVersion db) :
    kind.HasVersion (db.put p (db.slot p).install) := by
  obtain ⟨rows, hstate, -⟩ := h.exists_state
  refine h.congr ((state_put_install db kind p).elim id fun hmade => ?_)
  rw [hmade, hstate]
  rfl

/-- **A table is made.** -/
theorem put_install (h : db.IsBegun kind) {p : Place} (hp : p ∈ kind.places) :
    (db.put p (db.slot p).install).IsBegun kind where
  tables q hq := by
    by_cases hqp : q = p
    · subst hqp
      rw [slot_put_self]
      rcases h.tables q hq with hvacant | ⟨rows, hrows⟩
      · exact .inr ⟨[], by rw [hvacant]; rfl⟩
      · exact .inr ⟨rows, by rw [hrows]; rfl⟩
    · rw [slot_put_of_ne hqp]
      exact h.tables q hq
  vacant q hq := by
    have hqp : q ≠ p := by
      rintro rfl
      exact hq hp
    rw [slot_put_of_ne hqp]
    exact h.vacant q hq
  others := by
    rw [← h.others]
    cases p <;> rfl
  version rows hrows := by
    rcases state_put_install db kind p with hsame | hmade
    · exact (h.version rows (hsame ▸ hrows)).imp_right (hasVersion_put_install p)
    · rw [hmade] at hrows
      cases hstate : kind.state db with
      | vacant => exact .inl (by rw [hstate] at hrows; cases hrows; rfl)
      | foreign => exact nomatch (congrArg Slot.install hstate).symm.trans hrows
      | rows before =>
        rw [hstate] at hrows
        obtain rfl : before = rows := Slot.rows.inj hrows
        exact (h.version before hstate).imp_right (hasVersion_put_install p)

/-- The row of state that is added tells this version. -/
theorem hasVersion_addState (h : db.IsBegun kind) {rows : List StateRow}
    (hstate : kind.state db = .rows rows) (now : Int64) :
    kind.HasVersion (kind.setState (.rows (addState now rows)) db) := by
  rcases h.version rows hstate with rfl | hversion
  · refine ⟨addState now [], ⟨.integer 1, .integer Database.version, .integer now⟩, ?_, rfl, rfl⟩
    rw [Kind.state_setState]
    rfl
  · obtain ⟨rows', hrows', hadd⟩ := hversion.exists_state
    obtain rfl : rows = rows' := Slot.rows.inj (hstate.symm.trans hrows')
    rwa [hadd, ← hstate, Kind.setState_state]

/-- **The row of state is added.** -/
theorem setState (h : db.IsBegun kind) {rows : List StateRow}
    (hstate : kind.state db = .rows rows) (now : Int64) :
    (kind.setState (.rows (addState now rows)) db).IsBegun kind where
  tables p hp := by
    by_cases hps : p = kind.statePlace
    · subst hps
      exact .inr (Kind.slot_setState_self _)
    · rw [Kind.slot_setState_of_ne hps]
      exact h.tables p hp
  vacant p hp := by
    have hps : p ≠ kind.statePlace := by
      rintro rfl
      exact hp (Kind.statePlace_mem_iff.2 rfl)
    rw [Kind.slot_setState_of_ne hps]
    exact h.vacant p hp
  others := (Kind.others_setState _).trans h.others
  version _ _ := .inr (h.hasVersion_addState hstate now)

/-- **A part is made**: the database is begun as before, the part is there now, and so are those
that were. -/
theorem make (h : db.IsBegun kind) {part : Part} (hpart : part ∈ kind.parts) {now : Int64}
    (hmake : kind.make now part db = .ok ((), db')) :
    db'.IsBegun kind ∧ db'.HasPart kind part ∧
      ∀ other, db.HasPart kind other → db'.HasPart kind other := by
  cases part with
  | table p =>
    cases hmake
    have hp := Kind.table_mem_parts_iff.1 hpart
    refine ⟨h.put_install hp, ?_, fun other hother => ?_⟩
    · refine ((h.put_install hp).tables p hp).resolve_left fun hvacant => ?_
      rw [slot_put_self] at hvacant
      exact nomatch (congrArg Slot.isTaken hvacant).symm.trans (Slot.isTaken_install _)
    · cases other with
      | table q =>
        obtain ⟨rows, hrows⟩ := hother
        by_cases hqp : q = p
        · subst hqp
          refine ⟨rows, ?_⟩
          rw [slot_put_self, hrows]
          rfl
        · exact ⟨rows, (slot_put_of_ne hqp _).trans hrows⟩
      | index q => exact hother
      | state => exact hasVersion_put_install p hother
  | index p =>
    obtain ⟨_, -, hmake⟩ := Outcome.bind_eq_ok_iff.1 hmake
    cases hmake
    exact ⟨h, trivial, fun _ => id⟩
  | state =>
    obtain ⟨rows, hread, hmake⟩ := Outcome.bind_eq_ok_iff.1 hmake
    cases hmake
    have hstate := Slot.read_eq_ok_iff.1 hread
    refine ⟨h.setState hstate now, h.hasVersion_addState hstate now, fun other hother => ?_⟩
    cases other with
    | table q =>
      by_cases hqs : q = kind.statePlace
      · subst hqs
        exact Kind.slot_setState_self _
      · obtain ⟨rows, hrows⟩ := hother
        exact ⟨rows, (Kind.slot_setState_of_ne hqs _).trans hrows⟩
    | index q => exact hother
    | state => exact h.hasVersion_addState hstate now

end IsBegun

/-! ## What an opening leaves -/

/-- **A database as an opening leaves it**: it is complete. -/
structure IsFor (db : Contents) (kind : Kind) : Prop where
  /-- The tables of the kind are there. -/
  tables : ∀ p ∈ kind.places, ∃ rows, db.slot p = .rows rows
  /-- Those of the other kind are not. -/
  vacant : ∀ p, p ∉ kind.places → db.slot p = .vacant
  /-- And there are no other tables. -/
  others : db.others = []
  /-- The row of state tells this version. -/
  version : kind.HasVersion db

namespace IsFor

/-- **A database in which no part is missing** is complete. -/
theorem of_hasPart (h : db.IsBegun kind) (hparts : ∀ part ∈ kind.parts, db.HasPart kind part) :
    db.IsFor kind :=
  ⟨fun p hp => hparts (.table p) (Kind.table_mem_parts_iff.2 hp), h.vacant, h.others,
    hparts .state (List.mem_append_right _ List.mem_cons_self)⟩

theorem isBegun (h : db.IsFor kind) : db.IsBegun kind :=
  ⟨fun p hp => .inr (h.tables p hp), h.vacant, h.others, fun _ _ => .inr h.version⟩

theorem hasPart (h : db.IsFor kind) : ∀ part ∈ kind.parts, db.HasPart kind part
  | .table p, hp => h.tables p (Kind.table_mem_parts_iff.1 hp)
  | .index _, _ => trivial
  | .state, _ => h.version

/-- **Rows come and go**, and the database is still what it was opened for. -/
theorem refills (h : db.IsFor kind) (hrefills : db.Refills db') : db'.IsFor kind := by
  refine ⟨fun p hp => ?_, fun p hp => ?_, hrefills.others.trans h.others,
    h.version.congr (hrefills.state kind)⟩
  · obtain ⟨rows, hrows⟩ := h.tables p hp
    have hslot := hrefills.slots p
    rw [hrows] at hslot
    generalize db'.slot p = slot at hslot
    cases hslot with
    | rows _ after => exact ⟨after, rfl⟩
  · have hslot := hrefills.slots p
    rw [h.vacant p hp] at hslot
    generalize db'.slot p = slot at hslot
    cases hslot
    rfl

/-- The tables that count are those of the kind. -/
theorem areTables (h : db.IsFor kind) : kind.AreTables db.userTables := by
  intro name
  rw [h.isBegun.mem_userTables_iff, List.mem_map]
  constructor
  · rintro ⟨p, hp, -, hname⟩
    exact ⟨p, hp, hname⟩
  · rintro ⟨p, hp, hname⟩
    exact ⟨p, hp, h.tables p hp, hname⟩

/-- It is begun for one kind only. -/
theorem eq_of_isBegun (h : db.IsFor kind) (h' : db.IsBegun other) : kind = other := by
  refine Kind.statePlace_mem_iff.1 (Decidable.byContradiction fun hnot => ?_)
  obtain ⟨rows, hrows⟩ := h.tables _ (Kind.statePlace_mem_iff.2 rfl)
  exact nomatch hrows.symm.trans (h'.vacant _ hnot)

/-- Its table of state counts. -/
theorem statePlace_mem_userTables (h : db.IsFor kind) : kind.statePlace.name ∈ db.userTables :=
  (h.areTables _).2 (List.mem_map_of_mem (Kind.statePlace_mem_iff.2 rfl))

theorem userTables_ne_nil (h : db.IsFor kind) : ¬db.userTables.isEmpty = true := fun hempty =>
  List.not_mem_nil (List.isEmpty_iff.1 hempty ▸ h.statePlace_mem_userTables)

/-- **It passes the inspection of its kind**: its tables do. -/
theorem inspectTables (h : db.IsFor kind) : kind.inspectTables db = .ok true := by
  obtain ⟨hforeign, hmissing⟩ := Kind.areTables_iff_not_any.1 h.areTables
  unfold Kind.inspectTables
  dsimp only
  rw [if_neg h.userTables_ne_nil, if_neg hforeign, if_neg hmissing]

/-- And its state does. -/
theorem inspectState (h : db.IsFor kind) : kind.inspectState db = .ok () := by
  obtain ⟨rows, row, hread, hfind, hversion⟩ := h.version
  unfold Kind.inspectState
  rw [hread]
  dsimp only
  rw [hfind]
  dsimp only
  rw [hversion]
  exact if_pos rfl

theorem inspect (h : db.IsFor kind) : kind.inspect db = .ok () := by
  unfold Kind.inspect
  rw [h.inspectTables]
  exact h.inspectState

/-- **It is refused as the other kind**, because of a table that is foreign there. -/
theorem inspectTables_of_ne (h : db.IsFor kind) (hne : kind ≠ other) :
    other.inspectTables db = .error (.refused other.foreignTable) := by
  have hforeign : kind.statePlace.name ∉ other.places.map Place.name :=
    mt (Kind.name_mem_iff (Kind.statePlace_mem_iff.2 rfl)).1 hne
  unfold Kind.inspectTables
  dsimp only
  rw [if_neg h.userTables_ne_nil, if_pos]
  exact List.any_eq_true.2 ⟨_, h.statePlace_mem_userTables, by
    rw [List.contains_eq_mem, decide_eq_false hforeign]; rfl⟩

theorem inspect_of_ne (h : db.IsFor kind) (hne : kind ≠ other) :
    other.inspect db = .error (.refused other.foreignTable) := by
  unfold Kind.inspect
  rw [h.inspectTables_of_ne hne]
  rfl

/-- A table that is put where it is changes nothing. -/
theorem put_install {p : Place} {rows : List p.Row} (h : db.slot p = .rows rows) :
    db.put p (db.slot p).install = db := by
  have hsame : (db.slot p).install = db.slot p := Slot.install_of_isTaken (h ▸ rfl)
  rw [hsame]
  cases p with
  | archive =>
    have htaken : db.archive.isTaken = true := (show db.archive = .rows rows from h) ▸ rfl
    show { db with archived := if db.archive.isTaken then db.archived else 0 } = db
    rw [if_pos htaken]
  | _ => rfl

/-- **Making a part of it changes nothing.** -/
theorem make (h : db.IsFor kind) {part : Part} (hpart : part ∈ kind.parts) (now : Int64) :
    kind.make now part db = .ok ((), db) := by
  cases part with
  | table p =>
    obtain ⟨rows, hrows⟩ := h.tables p (Kind.table_mem_parts_iff.1 hpart)
    show Except.ok ((), db.put p (db.slot p).install) = _
    rw [put_install hrows]
  | index p =>
    obtain ⟨rows, hrows⟩ := h.tables p (Kind.mem_places_of_index hpart)
    show ((db.slot p).read >>= fun _ => pure ((), db)) = Except.ok ((), db)
    rw [hrows]
    rfl
  | state =>
    obtain ⟨rows, hstate, hadd⟩ := h.version.exists_state
    show ((kind.state db).read >>= fun rows =>
      pure ((), kind.setState (.rows (addState now rows)) db)) = Except.ok ((), db)
    rw [hstate]
    show Except.ok ((), kind.setState (.rows (addState now rows)) db) = _
    rw [hadd, ← hstate, Kind.setState_state]

end IsFor

end Contents

/-! ## Opening once more -/

namespace Connection

variable {σ : Type} {c : Connection σ} {s : σ} {db : Contents} {kind other : Kind}

/-- On a calm connection a part that is there is made once more, which changes nothing. -/
theorem make_of_isFor (hc : c.IsLawful) (calm : c.IsCalm) (h : db.IsFor kind) {part : Part}
    (hpart : part ∈ kind.parts) (hs : c.contents s = some db) :
    c.make kind part s = (.ok (), c.replace db (c.disturbed s).2) := by
  have hstill := (hc.disturbed s).trans hs
  show c.execute (fun _ => OpeningFailure.sql) (kind.make (c.now s) part) s = _
  unfold execute
  dsimp only
  rw [calm, hstill]
  dsimp only
  rw [h.make hpart]
  rfl

/-- So it is with one part after another. -/
theorem forM_make_of_isFor (hc : c.IsLawful) (calm : c.IsCalm) (h : db.IsFor kind)
    {parts : List Part} (hparts : ∀ part ∈ parts, part ∈ kind.parts)
    (hs : c.contents s = some db) :
    ∃ s', parts.forM (c.make kind) s = (.ok (), s') ∧ c.contents s' = some db := by
  induction parts generalizing s with
  | nil => exact ⟨s, rfl, hs⟩
  | cons part parts ih =>
    obtain ⟨hpart, hrest⟩ := List.forall_mem_cons.1 hparts
    have hstill := (hc.disturbed s).trans hs
    obtain ⟨s', hrun, hs'⟩ := ih hrest (hc.replaced _ db db hstill)
    exact ⟨s', Task.bind_eq_ok_iff.2 ⟨(), _, make_of_isFor hc calm h hpart hs, hrun⟩, hs'⟩

/-- **A database is opened again** as what it is, on a calm connection, and stays as it is. -/
theorem openAs_of_isFor (hc : c.IsLawful) (calm : c.IsCalm) (hs : c.contents s = some db)
    (h : db.IsFor kind) :
    (c.openAs kind s).1 = .ok () ∧ c.contents (c.openAs kind s).2 = some db := by
  have hs' := ((inspect_keeps hc.readsPast kind).eq s).trans hs
  have hok : (c.inspect kind s).1 = .ok () :=
    ((inspect_cases hc kind hs).resolve_right fun hnot => hnot.2 calm).trans h.inspect
  obtain ⟨s', hrun, hdone⟩ :=
    forM_make_of_isFor hc calm h (fun _ (hpart : _ ∈ kind.parts) => hpart) hs'
  unfold openAs
  rw [Task.bind_apply, show c.inspect kind s = (.ok (), (c.inspect kind s).2) from
    Prod.ext hok rfl]
  dsimp only
  rw [hrun]
  exact ⟨rfl, hdone⟩

/-- **It is not opened as the other kind**, and stays as it is. -/
theorem openAs_of_ne (hc : c.IsLawful) (calm : c.IsCalm) (hs : c.contents s = some db)
    (h : db.IsFor kind) (hne : kind ≠ other) :
    (c.openAs other s).1 = .error (.refused other.foreignTable) ∧
    c.contents (c.openAs other s).2 = some db :=
  have hrefused := openAs_of_inspect hc hs (h.inspect_of_ne hne)
  ⟨hrefused.2.2 calm, hrefused.2.1⟩

end Connection

end InstructionStore.Database
