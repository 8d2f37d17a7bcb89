import InstructionStore.Proofs.Database.Gate
import InstructionStore.Proofs.Store.World

/-!
# Stores are opened on databases of their own only

A store is opened in the surroundings: its directory is made, its file is found, and the
database in the file is inspected. Nothing but the inspection decides about a file that is
reached (`Surroundings.Reaches`), and so an opening **fails closed** (`FailsClosed`): a
database that the kind does not admit is refused for its schema, and stays as it is.

This is said of the tables of users. It needs that no other name is taken for one that the
database keeps for itself. A table called `sqlitething` is a table of a user that does not
count, and a database with no other table is taken for an empty one: the tables of the store
are made beside it.
-/

namespace InstructionStore

open Database

/-! ## Files -/

namespace Files

/-- Making directories changes no file. -/
theorem makeDirectories_preserves (files : List (FilePath × FileData)) (dotted : Bool)
    (names : List String) :
    ∀ path, (makeDirectories dotted path names).Preserves fun t => t.files = files := by
  induction names with
  | nil => exact fun _ => .pure ()
  | cons name names ih =>
    intro path
    unfold makeDirectories
    split
    · exact ih _
    · refine (Task.Preserves.ofExcept _).bind fun _ => Task.Preserves.get.bind fun t => ?_
      split
      · exact .throw _
      · exact ih _
      · split
        · exact .throw _
        · exact .bind (fun _ h => h) fun _ => ih _

theorem files_createDirectoriesFrom (start : FilePath) (names : List String) (dotted : Bool)
    (t : Files) : (createDirectoriesFrom start names dotted t).2.files = t.files := by
  have hpreserves : (createDirectoriesFrom start names dotted).Preserves
      fun t' => t'.files = t.files := by
    unfold createDirectoriesFrom
    split
    · exact .throw _
    · exact makeDirectories_preserves _ _ _ _
  exact hpreserves t rfl

/-- A file that is there is not made. -/
theorem touch_of_contents {t : Files} {path : FilePath} {db : Contents}
    (hallows : t.allowsFile path = true) (h : t.contents path = some db) :
    t.touch path = (true, t) := by
  have hthere : (t.get? path).isSome = true := by
    unfold contents at h
    obtain ⟨data, hdata, -⟩ := Option.bind_eq_some_iff.1 h
    unfold get?
    split
    · rfl
    · rw [hdata]
      rfl
  unfold touch
  rw [if_pos hallows, if_pos hthere]

end Files

/-! ## Reaching a file -/

namespace Surroundings

variable {σ : Type} {e : Surroundings σ} {s : σ} {db : Contents}

/-- **A file can be reached**: its directory can be made, and then there can be a file at
its place. -/
structure Reaches (e : Surroundings σ) (s : σ) (directory file : String) (path : FilePath) :
    Prop where
  /-- The directory can be made. -/
  folder : (e.makeFolder directory (e.files s)).1 = .ok () ∧
    (e.makeFolder directory (e.files s)).2.allowsFile path = true
  /-- The text of the file names its place. -/
  place : e.placeOf file = path

/-- **A file is reached** as far as its directory can be made and there can be a file. -/
theorem reach_apply (he : e.IsLawful) (directory file : String) (s : σ) :
    e.reach directory file s = match e.makeFolder directory (e.files s) with
      | (.error failure, t) => (.error (.file failure), e.setFiles t s)
      | (.ok (), t) =>
        (if (t.touch (e.placeOf file)).1 then .ok (e.placeOf file) else .error .sql,
          e.setFiles (t.touch (e.placeOf file)).2 (e.setFiles t s)) := by
  unfold reach
  rw [Task.bind_apply, show (e.onFiles (e.makeFolder directory)).mapError OpeningFailure.file s
    = (match e.makeFolder directory (e.files s) with
      | (.error failure, t) => (.error (.file failure), e.setFiles t s)
      | (.ok (), t) => (.ok (), e.setFiles t s)) by
    unfold Task.mapError onFiles
    rcases e.makeFolder directory (e.files s) with ⟨_ | _, t⟩ <;> rfl]
  rcases e.makeFolder directory (e.files s) with ⟨failure | _, t⟩
  · rfl
  · dsimp only
    rw [Task.bind_apply, show e.onFiles (ε := OpeningFailure)
      (Task.ofState fun t => t.touch (e.placeOf file)) (e.setFiles t s)
        = (.ok (t.touch (e.placeOf file)).1,
          e.setFiles (t.touch (e.placeOf file)).2 (e.setFiles t s)) by
      unfold onFiles Task.ofState
      rw [he.replaced]]
    dsimp only
    cases (t.touch (e.placeOf file)).1 <;> rfl

/-- **A file is opened** as the database it holds, once its directory is made and the file
is there. -/
theorem openAt_eq (he : e.IsLawful) {directory file : String} {path : FilePath} {t : Files}
    (hmade : e.makeFolder directory (e.files s) = (.ok (), t)) (hplace : e.placeOf file = path)
    (htouch : t.touch path = (true, t))
    (openDatabase : Connection σ → Task σ OpeningFailure Unit) :
    e.openAt directory file openDatabase s
      = (openDatabase (e.connect path) >>= fun _ => pure ⟨directory, path⟩)
        (e.setFiles t (e.setFiles t s)) := by
  subst hplace
  unfold openAt
  rw [Task.bind_apply, reach_apply he, hmade]
  dsimp only
  rw [htouch]
  rfl

theorem Reaches.exists_openAt_eq (he : e.IsLawful) {directory file : String} {path : FilePath}
    (h : e.Reaches s directory file path) (hdb : (e.files s).contents path = some db) :
    ∃ s', (e.files s').contents path = some db ∧
      ∀ openDatabase : Connection σ → Task σ OpeningFailure Unit,
        e.openAt directory file openDatabase s
          = (openDatabase (e.connect path) >>= fun _ => pure ⟨directory, path⟩) s' := by
  obtain ⟨⟨hmade, hallows⟩, hplace⟩ := h
  have hfiles : (e.makeFolder directory (e.files s)).2.files = (e.files s).files :=
    Files.files_createDirectoriesFrom _ _ _ _
  rcases hrun : e.makeFolder directory (e.files s) with ⟨result, t⟩
  rw [hrun] at hmade hallows hfiles
  dsimp only at hmade hallows hfiles
  subst hmade
  have ht : t.contents path = some db :=
    (Files.contents_congr (congrArg (List.lookup path) hfiles)).trans hdb
  refine ⟨e.setFiles t (e.setFiles t s), by rw [he.replaced]; exact ht, ?_⟩
  exact openAt_eq he hrun hplace (Files.touch_of_contents hallows ht)

end Surroundings

/-! ## Failing closed -/

/-- **An opening fails closed**, by its result and what is in the file after it: it succeeds
only on a database whose tables of users the kind admits, and otherwise the file is as it
was, and its schema is reported – unless the tables are those of the kind and their state
cannot be read. -/
structure FailsClosed {ε α : Type} (kind : Kind) (db : Contents) (names : List String)
    (invalid : SchemaDefect → ε) (sql : ε) (result : Except ε α) (after : Option Contents) :
    Prop where
  /-- What is opened is admitted. -/
  admits : result.isOk = true → kind.Admits db names
  /-- What is not admitted stays as it is. -/
  kept : ¬kind.Admits db names → after = some db
  /-- And it is refused. -/
  refused : ¬kind.Admits db names → (∃ defect, result = .error (invalid defect)) ∨
    result = .error sql ∧ kind.AreTables names ∧ kind.HidesVersion db

/-- A database with a table of another kind is refused and stays as it is. -/
theorem FailsClosed.of_foreign {ε α : Type} {kind : Kind} {db : Contents} {names : List String}
    {invalid : SchemaDefect → ε} {sql : ε} {result : Except ε α} {after : Option Contents}
    (h : FailsClosed kind db names invalid sql result after) {name : String}
    (hname : name ∈ names) (hother : name ∉ kind.places.map Place.name) :
    (∃ defect, result = .error (invalid defect)) ∧ after = some db := by
  have hnot := Kind.not_admits_of_foreign db hname hother
  refine ⟨(h.refused hnot).resolve_right fun hunreadable => ?_, h.kept hnot⟩
  exact hother ((hunreadable.2.1 name).1 hname)

namespace Surroundings

variable {σ : Type} {e : Surroundings σ} {s : σ} {db : Contents}

/-- **Every opening fails closed**, by the tables that count. -/
theorem openAt_failsClosed (he : e.IsLawful) (calm : ∀ s, (e.disturbed s).1 = false)
    {directory file : String} {path : FilePath} (h : e.Reaches s directory file path)
    (hdb : (e.files s).contents path = some db) (kind : Kind) :
    FailsClosed kind db db.userTables OpeningFailure.refused OpeningFailure.sql
      (e.openAt directory file (fun c => c.openAs kind) s).1
      ((e.files (e.openAt directory file (fun c => c.openAs kind) s).2).contents path) := by
  obtain ⟨s', hs', hopen⟩ := h.exists_openAt_eq he hdb
  have hfails {failure : OpeningFailure} (hinspect : kind.inspect db = .error failure) :
      (e.openAt directory file (fun c => c.openAs kind) s).1 = .error failure ∧
      (e.files (e.openAt directory file (fun c => c.openAs kind) s).2).contents path
        = some db := by
    obtain ⟨-, hkept, hresult⟩ := Connection.openAs_of_inspect (connect_isLawful he path) hs'
      hinspect
    have hresult := hresult calm
    rw [hopen, Task.bind_apply]
    rcases hrun : (e.connect path).openAs kind s' with ⟨result, s''⟩
    rw [hrun] at hkept hresult
    dsimp only at hresult
    subst hresult
    exact ⟨rfl, hkept⟩
  have hverdict := kind.verdict_inspect db
  generalize hinspect : kind.inspect db = outcome at hverdict
  cases hverdict with
  | admitted hadmits =>
    exact ⟨fun _ => hadmits, fun hnot => absurd hadmits hnot, fun hnot => absurd hadmits hnot⟩
  | refused _ defect =>
    obtain ⟨hresult, hkept⟩ := hfails hinspect
    rw [hresult]
    exact ⟨nofun, fun _ => hkept, fun _ => .inl ⟨defect, rfl⟩⟩
  | unreadable _ htables hhides =>
    obtain ⟨hresult, hkept⟩ := hfails hinspect
    rw [hresult]
    exact ⟨nofun, fun _ => hkept, fun _ => .inr ⟨rfl, htables, hhides⟩⟩

end Surroundings

/-- An opening fails closed with other names for its failures as well. -/
theorem FailsClosed.mapError {σ ε ε' α : Type} {kind : Kind} {db : Contents}
    {names : List String} {invalid : SchemaDefect → ε} {sql : ε} {task : Task σ ε α} {s : σ}
    (after : σ → Option Contents)
    (h : FailsClosed kind db names invalid sql (task s).1 (after (task s).2)) {f : ε → ε'}
    {invalid' : SchemaDefect → ε'} {sql' : ε'}
    (hinvalid : ∀ defect, f (invalid defect) = invalid' defect) (hsql : f sql = sql') :
    FailsClosed kind db names invalid' sql' (task.mapError f s).1
      (after (task.mapError f s).2) := by
  obtain ⟨hadmits, hkept, hrefused⟩ := h
  unfold Task.mapError
  rcases hrun : task s with ⟨e | a, s'⟩
  · rw [hrun] at hkept hrefused
    refine ⟨nofun, hkept, fun hnot => (hrefused hnot).imp ?_ ?_⟩
    · rintro ⟨defect, heq⟩
      rw [Except.error.inj heq]
      exact ⟨defect, congrArg Except.error (hinvalid defect)⟩
    · rintro ⟨heq, hunreadable⟩
      rw [Except.error.inj heq]
      exact ⟨congrArg Except.error hsql, hunreadable⟩
  · rw [hrun] at hadmits
    have hdone := hadmits rfl
    exact ⟨fun _ => hdone, fun hnot => absurd hdone hnot, fun hnot => absurd hdone hnot⟩

namespace Surroundings

variable {σ : Type} {e : Surroundings σ} {s : σ} {db : Contents}

/-- **The stores fail closed.** A store is opened only on a database in which users have no
table, or exactly those of the store with a state of this version. Any other database stays
as it is and is refused for its schema, unless its tables are those of the store and the
state cannot be read. It is asked that no table of a user has a name that is taken for one
the database keeps for itself. -/
theorem open_failsClosed (he : e.IsLawful) (calm : ∀ s, (e.disturbed s).1 = false)
    {path : FilePath} (hdb : (e.files s).contents path = some db)
    (hcount : ∀ name ∈ db.tableNames, looksReserved name = true → isReserved name = true)
    (config : Config) :
    (e.Reaches s config.storageDirectory config.recordsPath path →
      FailsClosed Kind.records db db.tablesOfUsers DatabaseFailure.invalidSchema
        DatabaseFailure.sql (e.openRecords config s).1
        ((e.files (e.openRecords config s).2).contents path)) ∧
    (e.Reaches s config.storageDirectory config.historyPath path →
      FailsClosed Kind.history db db.tablesOfUsers HistoryFailure.invalidSchema
        HistoryFailure.sql (e.openHistory config s).1
        ((e.files (e.openHistory config s).2).contents path)) := by
  rw [← Contents.userTables_eq hcount]
  constructor
  · intro hreach
    have hclosed := openAt_failsClosed he calm hreach hdb Kind.records
    exact hclosed.mapError (fun s => (e.files s).contents path) (fun _ => rfl) rfl
  · intro hreach
    have hclosed := openAt_failsClosed he calm hreach hdb Kind.history
    exact hclosed.mapError (fun s => (e.files s).contents path) (fun _ => rfl) rfl

end Surroundings

/-! ### Databases of others in a tree of files -/

namespace Store.World

/-- Where the stores of a tree of files live. -/
def stores : Config := { storageDirectory := "data" }

/-- The place of the records. -/
def recordsPlace : FilePath := ["data", "instructions.db"]

/-- The place of the history. -/
def historyPlace : FilePath := ["data", "history.db"]

/-- A tree of files with a database in the place of either store. -/
def holding (records history : Contents) : World :=
  ⟨⟨[["data"]], [(recordsPlace, .database records), (historyPlace, .database history)]⟩, 0⟩

theorem names_directory : FilePath.names stores.storageDirectory = ["data"] := by
  show FilePath.names "data" = ["data"]
  simp +decide [FilePath.names, String.splitOn, String.splitOnAux]

theorem names_recordsPath : FilePath.names stores.recordsPath = recordsPlace := by
  rw [show stores.recordsPath = "data/instructions.db" by decide +kernel]
  simp +decide [FilePath.names, String.splitOn, String.splitOnAux]

theorem names_historyPath : FilePath.names stores.historyPath = historyPlace := by
  rw [show stores.historyPath = "data/history.db" by decide +kernel]
  simp +decide [FilePath.names, String.splitOn, String.splitOnAux]

/-- All texts start from the root. -/
theorem startOf_eq (text : String) : surroundings.startOf text = [] := by
  unfold Surroundings.startOf
  split <;> rfl

theorem placeOf_recordsPath : surroundings.placeOf stores.recordsPath = recordsPlace := by
  unfold Surroundings.placeOf
  rw [startOf_eq, names_recordsPath]
  rfl

theorem placeOf_historyPath : surroundings.placeOf stores.historyPath = historyPlace := by
  unfold Surroundings.placeOf
  rw [startOf_eq, names_historyPath]
  rfl

/-- A database with a table of somebody else. -/
def notes : Contents := { others := ["notes"] }

/-- A database with a table of a name that does not count. -/
def sqlitething : Contents := { others := ["sqlitething"] }

variable (records history : Contents)

/-- The directory is there. -/
theorem makeFolder_holding :
    surroundings.makeFolder stores.storageDirectory (holding records history).files
      = (.ok (), (holding records history).files) := by
  unfold Surroundings.makeFolder
  rw [startOf_eq, names_directory]
  generalize FilePath.endsInDot stores.storageDirectory = dotted
  cases dotted <;> rfl

theorem reaches_records :
    surroundings.Reaches (holding records history) stores.storageDirectory stores.recordsPath
      recordsPlace := by
  refine ⟨?_, placeOf_recordsPath⟩
  rw [show surroundings.files (holding records history) = (holding records history).files from rfl,
    makeFolder_holding]
  exact ⟨rfl, rfl⟩

theorem reaches_history :
    surroundings.Reaches (holding records history) stores.storageDirectory stores.historyPath
      historyPlace := by
  refine ⟨?_, placeOf_historyPath⟩
  rw [show surroundings.files (holding records history) = (holding records history).files from rfl,
    makeFolder_holding]
  exact ⟨rfl, rfl⟩

theorem contents_recordsPlace :
    (surroundings.files (holding records history)).contents recordsPlace = some records := rfl

theorem contents_historyPlace :
    (surroundings.files (holding records history)).contents historyPlace = some history := rfl

end Store.World

open Store.World in
/-- The stores refuse a database of somebody else. -/
theorem Surroundings.open_failsClosed_notes :
    ((∃ defect, (surroundings.openRecords stores (holding notes notes)).1
        = .error (.invalidSchema defect)) ∧
      (surroundings.files (surroundings.openRecords stores (holding notes notes)).2).contents
        recordsPlace = some notes) ∧
    (∃ defect, (surroundings.openHistory stores (holding notes notes)).1
        = .error (.invalidSchema defect)) ∧
      (surroundings.files (surroundings.openHistory stores (holding notes notes)).2).contents
        historyPlace = some notes := by
  have hcount : ∀ name ∈ notes.tableNames, looksReserved name = true → isReserved name = true := by
    decide +kernel
  have hname : "notes" ∈ notes.tablesOfUsers := by decide +kernel
  have hrecords := (open_failsClosed surroundings_isLawful (fun _ => rfl)
    (contents_recordsPlace notes notes) hcount stores).1 (reaches_records notes notes)
  have hhistory := (open_failsClosed surroundings_isLawful (fun _ => rfl)
    (contents_historyPlace notes notes) hcount stores).2 (reaches_history notes notes)
  exact ⟨hrecords.of_foreign hname (by decide), hhistory.of_foreign hname (by decide)⟩

open Store.World in
/-- **A table that does not count opens the gate.** A database with no other table than one
called `sqlitething` is no store, and is made one. -/
theorem Surroundings.isOk_open_sqlitething :
    ("sqlitething" ∈ sqlitething.tablesOfUsers ∧
      ¬Kind.records.Admits sqlitething sqlitething.tablesOfUsers ∧
      ¬Kind.history.Admits sqlitething sqlitething.tablesOfUsers) ∧
    ((surroundings.openRecords stores (holding sqlitething sqlitething)).1.isOk = true ∧
      (surroundings.files
        (surroundings.openRecords stores (holding sqlitething sqlitething)).2).contents
        recordsPlace ≠ some sqlitething) ∧
    (surroundings.openHistory stores (holding sqlitething sqlitething)).1.isOk = true ∧
      (surroundings.files
        (surroundings.openHistory stores (holding sqlitething sqlitething)).2).contents
        historyPlace ≠ some sqlitething := by
  have hname : "sqlitething" ∈ sqlitething.tablesOfUsers := by decide +kernel
  refine ⟨⟨hname, Kind.not_admits_of_foreign _ hname (by decide),
    Kind.not_admits_of_foreign _ hname (by decide)⟩, ?_, ?_⟩
  · unfold Surroundings.openRecords Task.mapError
    rw [openAt_eq surroundings_isLawful (makeFolder_holding _ _) placeOf_recordsPath rfl]
    decide +kernel
  · unfold Surroundings.openHistory Task.mapError
    rw [openAt_eq surroundings_isLawful (makeFolder_holding _ _) placeOf_historyPath rfl]
    decide +kernel

end InstructionStore
