import InstructionStore.Database.Editing
import InstructionStore.Proofs.Database.Calm
import InstructionStore.Proofs.Database.Opening

/-!
# Which databases are opened

Before a database is opened its tables are inspected and then, if there are any, its state.
What this comes to if nothing happens in between is one of three things (`Kind.Verdict`): the
database is admitted, it is refused with a defect, or its state cannot be read. Whoever opens
it gets the answer of the inspection, and unless it was admitted the contents stay as they are
(`Connection.openAs_of_inspect`).

A kind admits a database without tables, and one that has exactly the tables of the kind
and a row of state with this version (`Kind.Admits`). The tables are told by a list of
names, because there are two lists to tell them by. The inspection takes the tables that
count when a database is opened. A user has made all those tables whose names the database
does not keep for itself (`Contents.tablesOfUsers`), and these are more: a name that goes on
otherwise than with an underscore behind its first six letters is not kept, and does not
count nevertheless. Where there is no such table the two are the same
(`Contents.userTables_eq`).
-/

namespace InstructionStore.Database

/-! ## The tables of users -/

/-- A name that is kept does not count. -/
theorem looksReserved_of_isReserved {name : String} (h : isReserved name = true) :
    looksReserved name = true := by
  have hseven : (name.toList.map Char.toLower).take 7 = "sqlite_".toList := by
    have hname : (name.map Char.toLower).toList.take 7 = "sqlite_".toList := of_decide_eq_true h
    rwa [String.toList_map] at hname
  have hlength : 6 < name.toList.length := by
    have hlen := congrArg List.length hseven
    rw [List.length_take, List.length_map, show "sqlite_".toList.length = 7 from rfl] at hlen
    omega
  have hsix : (name.toList.take 6).map Char.toLower = "sqlite".toList := by
    have htake := congrArg (List.take 6) hseven
    rwa [List.take_take, ← List.map_take] at htake
  unfold looksReserved
  dsimp only
  rw [hsix, decide_eq_true rfl, Bool.true_and]
  exact decide_eq_true hlength

namespace Contents

/-- **The tables of users**: all those whose names the database does not keep for
itself. -/
def tablesOfUsers (db : Contents) : List String :=
  db.tableNames.filter fun name => !isReserved name

/-- **The tables that count are those of users**, if no other name is taken for one that is
kept. -/
theorem userTables_eq {db : Contents}
    (h : ∀ name ∈ db.tableNames, looksReserved name = true → isReserved name = true) :
    db.userTables = db.tablesOfUsers := by
  refine List.filter_congr fun name hname => congrArg not (Bool.eq_iff_iff.2 ?_)
  exact ⟨h name hname, looksReserved_of_isReserved⟩

end Contents

/-! ## The verdict of an inspection -/

namespace Kind

variable (kind : Kind) (db : Contents)

/-- **The whole inspection** of a database that stays as it is meanwhile. -/
def inspect : Except OpeningFailure Unit := do
  if ← kind.inspectTables db then kind.inspectState db

/-- The names are exactly those of the tables of the kind. -/
def AreTables (names : List String) : Prop :=
  ∀ name, name ∈ names ↔ name ∈ kind.places.map Place.name

/-- **The row of state tells this version.** -/
def HasVersion : Prop :=
  ∃ rows row, (kind.state db).read = .ok rows ∧ rows.find? isState = some row ∧
    row.version = .integer version

/-- The state cannot be read: its table has another shape, or the version is no number. -/
def HidesVersion : Prop :=
  (∃ refusal, (kind.state db).read = .error refusal) ∨
  ∃ rows row, (kind.state db).read = .ok rows ∧ rows.find? isState = some row ∧
    row.version.integer? = none

/-- **A kind admits a database** with tables of given names: if there are none, or if they
are those of the kind and the state tells this version. -/
def Admits (names : List String) : Prop :=
  names = [] ∨ kind.AreTables names ∧ kind.HasVersion db

/-- **What an inspection comes to.** -/
inductive Verdict : Except OpeningFailure Unit → Prop where
  /-- The database is admitted. -/
  | admitted (admits : kind.Admits db db.userTables) : Verdict (.ok ())
  /-- It is refused. -/
  | refused (admitsNot : ¬kind.Admits db db.userTables) (defect : SchemaDefect) :
    Verdict (.error (.refused defect))
  /-- The tables are those of the kind, and the state cannot be read. -/
  | unreadable (admitsNot : ¬kind.Admits db db.userTables)
    (tables : kind.AreTables db.userTables) (hides : kind.HidesVersion db) :
    Verdict (.error .sql)

variable {kind}

/-- A kind does not admit a table that is none of its own. -/
theorem not_admits_of_foreign {name : String} {names : List String} (hname : name ∈ names)
    (hother : name ∉ kind.places.map Place.name) : ¬kind.Admits db names := by
  rintro (rfl | ⟨htables, -⟩)
  · exact nomatch hname
  · exact hother ((htables name).1 hname)

variable {db}

theorem integer?_eq_some_iff {cell : Cell} {n : Int64} :
    cell.integer? = some n ↔ cell = .integer n := by
  cases cell <;> simp [Cell.integer?]

/-- What the rows of state that were read tell of the version. -/
theorem hasVersion_iff_of_read {rows : List StateRow}
    (hread : (kind.state db).read = .ok rows) :
    kind.HasVersion db ↔ ∃ row, rows.find? isState = some row ∧
      row.version.integer? = some version := by
  constructor
  · rintro ⟨rows', row, hread', hfind, hversion⟩
    obtain rfl : rows = rows' := Except.ok.inj (hread.symm.trans hread')
    exact ⟨row, hfind, integer?_eq_some_iff.2 hversion⟩
  · rintro ⟨row, hfind, hversion⟩
    exact ⟨rows, row, hread, hfind, integer?_eq_some_iff.1 hversion⟩

theorem HidesVersion.not_hasVersion (h : kind.HidesVersion db) : ¬kind.HasVersion db := by
  rcases h with ⟨refusal, hrefusal⟩ | ⟨rows, row, hread, hfind, hnone⟩
  · rintro ⟨rows, row, hread, -⟩
    exact nomatch hread.symm.trans hrefusal
  · rw [hasVersion_iff_of_read hread, hfind]
    rintro ⟨_, ⟨⟩, hversion⟩
    exact nomatch hnone.symm.trans hversion

/-- The names are those of the kind if none is foreign and none is missing. -/
theorem areTables_iff_not_any {names : List String} :
    kind.AreTables names ↔
      ¬(names.any fun name => !(kind.places.map Place.name).contains name) = true ∧
      ¬((kind.places.map Place.name).any fun name => !names.contains name) = true := by
  simp only [List.any_eq_true, Bool.not_eq_true', List.contains_eq_mem, decide_eq_false_iff_not,
    not_exists, not_and, Decidable.not_not]
  constructor
  · exact fun h => ⟨fun name => (h name).1, fun name => (h name).2⟩
  · exact fun h name => ⟨h.1 name, h.2 name⟩

/-- **An inspection admits what the kind admits, and nothing else.** -/
theorem verdict_inspect (kind : Kind) (db : Contents) : kind.Verdict db (kind.inspect db) := by
  unfold inspect inspectTables
  dsimp only
  split
  case isTrue hempty => exact .admitted (.inl (List.isEmpty_iff.1 hempty))
  case isFalse hempty =>
  have hsome : db.userTables ≠ [] := fun h => hempty (List.isEmpty_iff.2 h)
  have hnot (h : ¬(kind.AreTables db.userTables ∧ kind.HasVersion db)) :
      ¬kind.Admits db db.userTables := fun hadmits => hadmits.elim hsome h
  split
  case isTrue hforeign =>
    exact .refused (hnot fun h => (areTables_iff_not_any.1 h.1).1 hforeign) _
  case isFalse hforeign =>
  split
  case isTrue hmissing =>
    exact .refused (hnot fun h => (areTables_iff_not_any.1 h.1).2 hmissing) _
  case isFalse hmissing =>
  have htables : kind.AreTables db.userTables := areTables_iff_not_any.2 ⟨hforeign, hmissing⟩
  -- The state is read only now, so what it hides is hidden behind tables of the kind.
  show kind.Verdict db (kind.inspectState db)
  unfold inspectState
  split
  case h_1 refusal hread =>
    have hhides : kind.HidesVersion db := .inl ⟨refusal, hread⟩
    exact .unreadable (hnot fun h => hhides.not_hasVersion h.2) htables hhides
  case h_2 rows hread =>
  split
  case h_1 hfind =>
    refine .refused (hnot fun h => ?_) _
    obtain ⟨row, hrow, -⟩ := (hasVersion_iff_of_read hread).1 h.2
    exact nomatch hfind.symm.trans hrow
  case h_2 row hfind =>
  split
  case h_1 hversion =>
    have hhides : kind.HidesVersion db := .inr ⟨rows, row, hread, hfind, hversion⟩
    exact .unreadable (hnot fun h => hhides.not_hasVersion h.2) htables hhides
  case h_2 v hversion =>
  split
  case isTrue hv =>
    subst hv
    exact .admitted (.inr ⟨htables, (hasVersion_iff_of_read hread).2 ⟨row, hfind, hversion⟩⟩)
  case isFalse hv =>
    refine .refused (hnot fun h => ?_) _
    obtain ⟨row', hrow, hversion'⟩ := (hasVersion_iff_of_read hread).1 h.2
    obtain rfl : row = row' := Option.some.inj (hfind.symm.trans hrow)
    exact hv (Option.some.inj (hversion.symm.trans hversion'))

end Kind

/-! ## Opening -/

namespace Connection

variable {σ : Type} {c : Connection σ} {kind : Kind} {s : σ} {db : Contents}

/-- **An inspection gives the verdict**, unless one of its statements is refused for a reason
of its own. -/
theorem inspect_cases (hc : c.IsLawful) (kind : Kind) (hs : c.contents s = some db) :
    (c.inspect kind s).1 = kind.inspect db ∨
    (c.inspect kind s).1 = .error .sql ∧ ¬c.IsCalm := by
  have hstill := (hc.disturbed s).trans hs
  unfold inspect Kind.inspect
  rw [Task.bind_apply, query_apply hc _ _ hs]
  cases hdisturbed : (c.disturbed s).1 with
  | true => exact .inr ⟨rfl, fun calm => nomatch hdisturbed.symm.trans (calm s)⟩
  | false =>
    rcases htables : kind.inspectTables db with failure | _ | _
    · exact .inl rfl
    · exact .inl rfl
    · show (c.query .sql kind.inspectState (c.disturbed s).2).1 = kind.inspectState db ∨
        (c.query .sql kind.inspectState (c.disturbed s).2).1 = .error .sql ∧ _
      rw [query_apply hc _ _ hstill]
      cases hagain : (c.disturbed (c.disturbed s).2).1 with
      | true => exact .inr ⟨rfl, fun calm => nomatch hagain.symm.trans (calm _)⟩
      | false => exact .inl rfl

/-- **A database that does not pass the inspection is not opened and stays as it is.** If
the connection is calm, what is wrong with it is reported. -/
theorem openAs_of_inspect (hc : c.IsLawful) (hs : c.contents s = some db)
    {failure : OpeningFailure} (h : kind.inspect db = .error failure) :
    (∃ e, (c.openAs kind s).1 = .error e) ∧ c.contents (c.openAs kind s).2 = some db ∧
    (c.IsCalm → (c.openAs kind s).1 = .error failure) := by
  have hs' := ((inspect_keeps hc.readsPast kind).eq s).trans hs
  obtain ⟨e, he, hcalm⟩ : ∃ e, (c.inspect kind s).1 = .error e ∧ (c.IsCalm → e = failure) := by
    rcases inspect_cases hc kind hs with hverdict | ⟨hsql, hnot⟩
    · exact ⟨failure, hverdict.trans h, fun _ => rfl⟩
    · exact ⟨.sql, hsql, fun calm => absurd calm hnot⟩
  unfold openAs
  rw [Task.bind_apply]
  rcases hrun : c.inspect kind s with ⟨result, s'⟩
  rw [hrun] at he hs'
  obtain rfl : result = .error e := he
  exact ⟨⟨e, rfl⟩, hs', fun calm => congrArg Except.error (hcalm calm)⟩

end Connection

end InstructionStore.Database
