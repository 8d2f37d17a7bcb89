import InstructionStore.Proofs.Store.Keeping

/-!
# Stores are opened again, and never as one another

A file that had no tables at first, and was opened as a store of records or as a history, is
that store from then on. So it is **opened again** as what it is, by the configuration it was
opened with and by every other one that gets to it (`Surroundings.GetsTo`), any number of times,
and nothing in it changes. As the other kind it is **refused**, even if one configuration names
it for both (`Surroundings.opens_again`).

This is said of runs (`Surroundings.Run`) in which openings come between each other statement by
statement, fail halfway and are given up, and in which everything else goes on between two of
their statements. It needs that the file is kept apart (`Surroundings.Moment.IsApart`). A history
that is named as the journal of the records goes when these are opened again. A directory of that
name, were it only made by the configuration that asks for the records, keeps them from being
opened. And a file that two openings make a store of records and a history at one time is
neither.

The database may refuse any statement of a run for a reason of its own. Only when it is said
that an opening succeeds it has none (`Surroundings.calmed`).

What is in the tree at first is arbitrary, but for the file itself and those beside it. Nothing
is said of a file with tables of somebody else, except that whatever comes of it does not touch
the files of the stores.
-/

namespace InstructionStore

open Database

variable {σ : Type}

/-! ## Answers -/

namespace Store

/-- **Every lookup of a store answers alike** in two states. -/
structure AnswersAlike (c : Connection σ) (s s' : σ) : Prop where
  /-- Accounts by their identifiers. -/
  getAccount : ∀ id, (getAccount c id s').1 = (getAccount c id s).1
  /-- Accounts by their names and email addresses. -/
  findAccount : ∀ needle, (findAccount c needle s').1 = (findAccount c needle s).1
  /-- Deleted accounts. -/
  deletedAccounts : ∀ name, (deletedAccounts c name s').1 = (deletedAccounts c name s).1
  /-- Documents by their owners and names. -/
  findDocument : ∀ owner name, (findDocument c owner name s').1 = (findDocument c owner name s).1
  /-- The documents of an owner. -/
  documentsOf : ∀ owner, (documentsOf c owner s').1 = (documentsOf c owner s).1
  /-- Those with a tag. -/
  documentsTagged : ∀ owner tag,
    (documentsTagged c owner tag s').1 = (documentsTagged c owner tag s).1

end Store

/-- **Every lookup of a history answers alike** in two states. -/
structure History.AnswersAlike (c : Connection σ) (s s' : σ) : Prop where
  /-- The latest commits of keys. -/
  head : ∀ key, (head c key s').1 = (head c key s).1
  /-- The logs of keys. -/
  log : ∀ key limit, (log c key limit s').1 = (log c key limit s).1
  /-- Single commits. -/
  find : ∀ id, (find c id s').1 = (find c id s).1

section
variable {c : Connection σ} {s s' : σ} {db : Contents} (hc : c.IsLawful) (calm : c.IsCalm)
  (hs : c.contents s = some db) (hs' : c.contents s' = some db)
include hc calm hs hs'

theorem Store.answersAlike : Store.AnswersAlike c s s' :=
  have alike {α : Type} (look : Contents → Except DatabaseFailure α) :
      (lookUp c look s').1 = (lookUp c look s).1 := calm.query_congr hc hs hs' _ _
  ⟨fun _ => alike _, fun _ => alike _, fun _ => alike _, fun _ _ => alike _, fun _ => alike _,
    fun _ _ => alike _⟩

theorem History.answersAlike : History.AnswersAlike c s s' :=
  ⟨fun _ => calm.query_congr hc hs hs' _ _, fun _ _ => calm.query_congr hc hs hs' _ _,
    fun _ => calm.query_congr hc hs hs' _ _⟩

end

namespace Surroundings

variable {ε : Type} {e : Surroundings σ} {s : σ} {path : FilePath} {m m' : Moment σ}

/-! ## Configurations that get to a file -/

/-- **A configuration gets to a file** and makes no directory beside it. -/
structure GetsTo (e : Surroundings σ) (s : σ) (config : Config) (kind : Kind) (path : FilePath) :
    Prop where
  /-- It names a file. -/
  named : NamesFile (config.fileFor kind)
  /-- It leads to this one. -/
  reaches : e.Reaches s config.storageDirectory (config.fileFor kind) path
  /-- Neither its directory nor one that this lies in is beside the file. -/
  apart : ∀ side ∈ path.sides,
    (e.makeFolder config.storageDirectory (e.files s)).2.get? side ≠ some .directory

/-- So does the configuration of a store in a file with nothing beside it. -/
theorem Opened.IsKept.getsTo {o : Opened} {kind : Kind} (h : o.IsKept e (e.files s) kind)
    (alone : (e.files s).IsAlone o.handle.path) : e.GetsTo s o.config o.kind o.handle.path where
  named := h.named
  reaches := h.leads.reaches
  apart side hside := by
    rw [h.leads.makeFolder]
    exact (Files.get?_eq_none_iff.1 (alone side hside)).1

/-- A configuration that names one file for both stores gets to it for either. -/
theorem GetsTo.shared {config : Config} {kind : Kind} (h : e.GetsTo s config kind path)
    (shared : config.historyFile = config.recordsFile) (other : Kind) :
    e.GetsTo s config other path := by
  have hfile : config.fileFor other = config.fileFor kind := by
    have hpaths : config.historyPath = config.recordsPath := by
      unfold Config.historyPath
      rw [shared]
      rfl
    cases kind <;> cases other
    · rfl
    · exact hpaths
    · exact hpaths.symm
    · rfl
  exact ⟨hfile ▸ h.named, hfile ▸ h.reaches, h.apart⟩

/-! ## Stores that stay -/

/-- **A store of records stays** in its file from one moment to another. -/
structure RecordsStay (e : Surroundings σ) (config : Config) (path : FilePath)
    (m m' : Moment σ) : Prop where
  /-- No row has changed. -/
  contents : ∃ db, (e.files m.state).contents path = some db ∧
    (e.files m'.state).contents path = some db
  /-- Every lookup answers as before. -/
  answers : Store.AnswersAlike (e.connect path) m.state m'.state
  /-- The configuration gets to the file. -/
  getsTo : e.GetsTo m'.state config .records path
  /-- It is opened again by every configuration that gets to it, and stays as it is. -/
  opens : ∀ config' : Config, e.GetsTo m'.state config' .records path →
    (e.openRecords config' m'.state).1 = .ok ⟨config'.storageDirectory, path⟩ ∧
    (e.files (e.openRecords config' m'.state).2).contents path
      = (e.files m'.state).contents path
  /-- It is opened by none as a history, and stays as it is. -/
  refuses : ∀ config' : Config, e.GetsTo m'.state config' .history path →
    (e.openHistory config' m'.state).1 = .error (.invalidSchema .unexpectedHistoryTables) ∧
    (e.files (e.openHistory config' m'.state).2).contents path
      = (e.files m'.state).contents path
  /-- Openings of it that are under way go on. -/
  goesOn : ∀ u ∈ m'.underway, u.path = path → u.kind = .records →
    ((e.connect path).advance .records u.stage m'.state).1.isOk = true
  /-- Those of a history are refused. -/
  stops : ∀ u ∈ m'.underway, u.path = path → u.kind = .history →
    ((e.connect path).advance .history u.stage m'.state).1
      = .error (.refused .unexpectedHistoryTables)

/-- **A history stays** in its file from one moment to another. -/
structure HistoryStays (e : Surroundings σ) (config : Config) (path : FilePath)
    (m m' : Moment σ) : Prop where
  /-- No row has changed. -/
  contents : ∃ db, (e.files m.state).contents path = some db ∧
    (e.files m'.state).contents path = some db
  /-- Every lookup answers as before. -/
  answers : History.AnswersAlike (e.connect path) m.state m'.state
  /-- The configuration gets to the file. -/
  getsTo : e.GetsTo m'.state config .history path
  /-- It is opened again by every configuration that gets to it, and stays as it is. -/
  opens : ∀ config' : Config, e.GetsTo m'.state config' .history path →
    (e.openHistory config' m'.state).1 = .ok ⟨config'.storageDirectory, path⟩ ∧
    (e.files (e.openHistory config' m'.state).2).contents path
      = (e.files m'.state).contents path
  /-- It is opened by none as a store of records, and stays as it is. -/
  refuses : ∀ config' : Config, e.GetsTo m'.state config' .records path →
    (e.openRecords config' m'.state).1 = .error (.invalidSchema .unsupportedTables) ∧
    (e.files (e.openRecords config' m'.state).2).contents path
      = (e.files m'.state).contents path
  /-- Openings of it that are under way go on. -/
  goesOn : ∀ u ∈ m'.underway, u.path = path → u.kind = .history →
    ((e.connect path).advance .history u.stage m'.state).1.isOk = true
  /-- Those of a store of records are refused. -/
  stops : ∀ u ∈ m'.underway, u.path = path → u.kind = .records →
    ((e.connect path).advance .records u.stage m'.state).1
      = .error (.refused .unsupportedTables)

/-- A configuration that names one file for both stores opens no history in it. -/
theorem RecordsStay.refuses_shared {config : Config} (h : e.RecordsStay config path m m')
    (shared : config.historyFile = config.recordsFile) :
    (e.openHistory config m'.state).1 = .error (.invalidSchema .unexpectedHistoryTables) ∧
    (e.files (e.openHistory config m'.state).2).contents path
      = (e.files m'.state).contents path :=
  h.refuses config (h.getsTo.shared shared .history)

/-- And where it has a history, it opens no store of records. -/
theorem HistoryStays.refuses_shared {config : Config} (h : e.HistoryStays config path m m')
    (shared : config.historyFile = config.recordsFile) :
    (e.openRecords config m'.state).1 = .error (.invalidSchema .unsupportedTables) ∧
    (e.files (e.openRecords config m'.state).2).contents path
      = (e.files m'.state).contents path :=
  h.refuses config (h.getsTo.shared shared .records)

section
variable (he : e.IsLawful) (calm : ∀ path, (e.connect path).IsCalm) {db : Contents}
  {kind other : Kind} (hs : (e.files s).contents path = some db) (hfor : db.IsFor kind)
include he calm hs hfor

/-- What comes of opening a file with a complete database as what it is. -/
theorem openFor_again (config : Config) (name : OpeningFailure → ε)
    (hreach : e.Reaches s config.storageDirectory (config.fileFor kind) path) :
    ((e.openFor kind config).mapError name s).1 = .ok ⟨config.storageDirectory, path⟩ ∧
    (e.files ((e.openFor kind config).mapError name s).2).contents path
      = (e.files s).contents path := by
  obtain ⟨hopened, hkept⟩ := openFor_of_isFor he calm hreach hs hfor
  rw [Task.mapError_apply, hopened, hkept, hs]
  exact ⟨rfl, rfl⟩

/-- And as the other kind. -/
theorem openFor_other (hne : kind ≠ other) (config : Config) (name : OpeningFailure → ε)
    (hreach : e.Reaches s config.storageDirectory (config.fileFor other) path) :
    ((e.openFor other config).mapError name s).1 = .error (name (.refused other.foreignTable)) ∧
    (e.files ((e.openFor other config).mapError name s).2).contents path
      = (e.files s).contents path := by
  obtain ⟨hrefused, hkept⟩ := openFor_of_ne he calm hreach hs hfor hne
  rw [Task.mapError_apply, hrefused, hkept, hs]
  exact ⟨rfl, rfl⟩

/-- An opening of the kind that is under way goes on. -/
theorem Underway.IsKept.goesOn {u : Underway} {t : Files} (kept : u.IsKept e t kind) :
    ((e.connect path).advance kind u.stage s).1.isOk = true :=
  Connection.advance_of_isFor (connect_isLawful he path) (calm path) hfor hs fun hstage =>
    (kept.made hstage).1

/-- One of the other kind has come no further than the tables, and is refused. -/
theorem Underway.IsKept.stops {u : Underway} {t : Files} (kept : u.IsKept e t kind)
    (hother : u.kind = other) (hne : kind ≠ other) :
    ((e.connect path).advance other u.stage s).1 = .error (.refused other.foreignTable) := by
  have hstage : u.stage = .tables :=
    Decidable.byContradiction fun hnot => hne ((kept.ahead hnot).symm.trans hother)
  rw [hstage]
  exact Connection.advance_of_ne (connect_isLawful he path) (calm path) hfor hs hne

end

section
variable (he : e.IsLawful) (calm : ∀ path, (e.connect path).IsCalm) {db : Contents}
  {config : Config} {handle : Handle} (hm : (e.files m.state).contents handle.path = some db)
  (hm' : (e.files m'.state).contents handle.path = some db)
include he calm hm hm'

/-- **A store of records stays** where its database does. -/
theorem recordsStay (hfor : db.IsFor .records) (kept : m'.IsKept e .records handle.path)
    (opened : ⟨.records, config, handle⟩ ∈ m'.opened) :
    e.RecordsStay config handle.path m m' := by
  have hopened := kept.opened _ opened rfl
  have hne : Kind.records ≠ .history := nofun
  refine ⟨⟨db, hm, hm'⟩, Store.answersAlike (connect_isLawful he _) (calm _) hm hm',
    hopened.getsTo kept.alone, fun config' hgets => ?_, fun config' hgets => ?_,
    fun u hu hpath _ => (kept.underway u hu hpath).goesOn he calm hm' hfor,
    fun u hu hpath hkind => (kept.underway u hu hpath).stops he calm hm' hfor hkind hne⟩
  · obtain ⟨name, -, heq⟩ := e.exists_openRecords_eq config'
    rw [heq]
    exact openFor_again he calm hm' hfor config' name hgets.reaches
  · obtain ⟨name, hname, heq⟩ := e.exists_openHistory_eq config'
    obtain ⟨hrefused, hkept⟩ := openFor_other he calm hm' hfor hne config' name hgets.reaches
    rw [heq]
    exact ⟨hrefused.trans (congrArg Except.error (hname _)), hkept⟩

/-- **A history stays** where its database does. -/
theorem historyStays (hfor : db.IsFor .history) (kept : m'.IsKept e .history handle.path)
    (opened : ⟨.history, config, handle⟩ ∈ m'.opened) :
    e.HistoryStays config handle.path m m' := by
  have hopened := kept.opened _ opened rfl
  have hne : Kind.history ≠ .records := nofun
  refine ⟨⟨db, hm, hm'⟩, History.answersAlike (connect_isLawful he _) (calm _) hm hm',
    hopened.getsTo kept.alone, fun config' hgets => ?_, fun config' hgets => ?_,
    fun u hu hpath _ => (kept.underway u hu hpath).goesOn he calm hm' hfor,
    fun u hu hpath hkind => (kept.underway u hu hpath).stops he calm hm' hfor hkind hne⟩
  · obtain ⟨name, -, heq⟩ := e.exists_openHistory_eq config'
    rw [heq]
    exact openFor_again he calm hm' hfor config' name hgets.reaches
  · obtain ⟨name, hname, heq⟩ := e.exists_openRecords_eq config'
    obtain ⟨hrefused, hkept⟩ := openFor_other he calm hm' hfor hne config' name hgets.reaches
    rw [heq]
    exact ⟨hrefused.trans (congrArg Except.error (hname _)), hkept⟩

end

/-! ## Opening again -/

/-- A moment is kept in calm surroundings as well. -/
theorem Moment.IsKept.calmed {kind : Kind} (h : m.IsKept e kind path) :
    m.IsKept e.calmed kind path where
  alone := h.alone
  begun := h.begun
  underway u hu hpath :=
    have hkept := h.underway u hu hpath
    ⟨hkept.named, ⟨hkept.leads.folder, hkept.leads.place, hkept.leads.stands⟩, hkept.ahead,
      hkept.made⟩
  opened o ho hpath :=
    have hkept := h.opened o ho hpath
    ⟨hkept.same, hkept.directory, hkept.named,
      ⟨hkept.leads.folder, hkept.leads.place, hkept.leads.stands⟩, hkept.database⟩

/-- **Opening is idempotent, and the two stores never share a file.** Take any run, and then
any more openings, however they come between each other. A file that had no tables at first,
had nothing beside it, and was kept apart all the time, is as it was if it was opened for
records: it is opened again for records, and is refused for a history. It is the same with a
history. The file was never opened for both. -/
theorem opens_again (he : e.IsLawful) {s₀ : σ} (runs : e.Run (.start s₀) m)
    (openings : e.OpeningRun m m') {config : Config} {handle : Handle}
    (new : ∀ db, (e.files s₀).contents handle.path = some db → db.tableNames = [])
    (alone : (e.files s₀).IsAlone handle.path) (apart : m'.IsApart e handle.path) :
    (⟨.records, config, handle⟩ ∈ m.opened → e.calmed.RecordsStay config handle.path m m' ∧
      ∀ config' handle', ⟨.history, config', handle'⟩ ∈ m'.opened →
        handle'.path ≠ handle.path) ∧
    (⟨.history, config, handle⟩ ∈ m.opened → e.calmed.HistoryStays config handle.path m m' ∧
      ∀ config' handle', ⟨.records, config', handle'⟩ ∈ m'.opened →
        handle'.path ≠ handle.path) := by
  have hbefore := openings.before he
  obtain ⟨hrecord, kind, hkept⟩ := Run.isKept he alone new runs (hbefore.isApart apart)
  have hcalmed := calmed_isLawful he
  have hcalm := calmed_isCalm e
  have hstays {kind' : Kind} (hopened : ⟨kind', config, handle⟩ ∈ m.opened) :
      m'.IsKept e kind' handle.path ∧ ∃ db, db.IsFor kind' ∧
        (e.files m.state).contents handle.path = some db ∧
        (e.files m'.state).contents handle.path = some db := by
    have hstore := hkept.opened _ hopened rfl
    obtain rfl : kind' = kind := hstore.same
    obtain ⟨db, hdb, hfor⟩ := hstore.database
    obtain ⟨-, hkept', hdb'⟩ := openings.contents he hrecord hkept apart hdb hfor
    exact ⟨hkept', db, hfor, hdb, hdb'⟩
  constructor
  · intro hopened
    obtain ⟨hkept', db, hfor, hdb, hdb'⟩ := hstays hopened
    refine ⟨recordsStay hcalmed hcalm hdb hdb' hfor hkept'.calmed (hbefore.opened hopened), ?_⟩
    exact fun _ _ hother hpath => nomatch (hkept'.opened _ hother hpath).same
  · intro hopened
    obtain ⟨hkept', db, hfor, hdb, hdb'⟩ := hstays hopened
    refine ⟨historyStays hcalmed hcalm hdb hdb' hfor hkept'.calmed (hbefore.opened hopened), ?_⟩
    exact fun _ _ hother hpath => nomatch (hkept'.opened _ hother hpath).same

end Surroundings

/-! ### One file for both stores -/

namespace Store.World

/-- A configuration that names one file for both stores. -/
def shared : Config := { stores with historyFile := "instructions.db" }

/-- A tree with a file without tables, in the place of either store. -/
def begun : Surroundings.Moment World := .start (holding .empty .empty)

/-- The handle of either store. -/
def sharedHandle : Handle := ⟨"data", recordsPlace⟩

/-- The file is opened for records. -/
def withRecords : Surroundings.Moment World := begun.opening surroundings .records shared

/-- The file is opened for a history. -/
def withHistory : Surroundings.Moment World := begun.opening surroundings .history shared

/-- An account is opened in it. -/
def withAccount : Surroundings.Moment World :=
  { withRecords with
    state := (createAccount (surroundings.connect recordsPlace) signup withRecords.state).2 }

/-- Something is committed to it. -/
def withCommit : Surroundings.Moment World :=
  { withHistory with
    state := (History.commit (surroundings.connect recordsPlace) History.here.key
      History.here.body History.here.author withHistory.state).2 }

theorem fileFor_shared (kind : Kind) : shared.fileFor kind = stores.recordsPath := by
  cases kind <;> rfl

theorem namesFile_shared (kind : Kind) : NamesFile (shared.fileFor kind) := by
  rw [fileFor_shared]
  exact ⟨by decide +kernel, by decide +kernel, by decide +kernel⟩

/-- Either store is opened in the one file. -/
theorem openFor_shared (kind : Kind) :
    surroundings.openFor kind shared begun.state
      = ((surroundings.connect recordsPlace).openAs kind >>= fun _ => pure sharedHandle)
        begun.state := by
  unfold Surroundings.openFor
  rw [fileFor_shared]
  exact Surroundings.openAt_eq surroundings_isLawful (makeFolder_holding _ _)
    placeOf_recordsPath rfl _

theorem mem_opening (kind : Kind) :
    ⟨kind, shared, sharedHandle⟩ ∈ (begun.opening surroundings kind shared).opened := by
  have hopens : (surroundings.openFor kind shared begun.state).1.toOption = some sharedHandle := by
    rw [openFor_shared]
    cases kind <;> decide +kernel
  refine List.mem_append_left _ ?_
  rw [hopens]
  exact List.mem_singleton.2 rfl

/-- **Nothing but the one file** was tried, and no directory was made. -/
structure IsPlain (m : Surroundings.Moment World) : Prop where
  /-- What was tried. -/
  tried : ∀ place ∈ m.tried, place = recordsPlace
  /-- The directories. -/
  folders : m.state.files.directories = [["data"]]
  /-- No opening had a rival. -/
  uncontested : m.contested = []

theorem isPlain_begun : IsPlain begun := ⟨nofun, rfl, rfl⟩

/-- It is so after work that makes no directory. -/
theorem IsPlain.work {m : Surroundings.Moment World} (h : IsPlain m) {w : World}
    (hfolders : w.files.directories = m.state.files.directories) : IsPlain { m with state := w } :=
  ⟨h.tried, hfolders.trans h.folders, h.uncontested⟩

/-- And it is so however often the file is opened. -/
theorem IsPlain.opening {m : Surroundings.Moment World} (h : IsPlain m) (kind : Kind) :
    IsPlain (m.opening surroundings kind shared) where
  tried place hplace := by
    refine (Surroundings.Moment.tried_opening surroundings_isLawful m kind shared place
      hplace).elim (fun hnew => ?_) (h.tried place)
    rw [hnew, fileFor_shared, placeOf_recordsPath]
  folders := by
    refine (Surroundings.directories_openFor surroundings_isLawful kind ?_).trans h.folders
    have hdata : (surroundings.files m.state).get? ["data"] = some .directory := by
      rw [Files.get?_eq_directory_iff,
        show (surroundings.files m.state).directories = _ from h.folders]
      rfl
    rw [startOf_eq, show FilePath.names shared.storageDirectory = ["data"] from names_directory]
    exact ⟨rfl, hdata, trivial⟩
  uncontested := h.uncontested

theorem IsPlain.isApart {m : Surroundings.Moment World} (h : IsPlain m) :
    m.IsApart surroundings recordsPlace where
  beside place hplace := h.tried place hplace ▸ FilePath.not_mem_sides _
  behind place hplace := h.tried place hplace ▸ FilePath.not_mem_sides _
  folders side hside := by
    rw [ne_eq, Files.get?_eq_directory_iff,
      show (surroundings.files m.state).directories = _ from h.folders]
    revert side
    decide +kernel
  uncontested := h.uncontested ▸ List.not_mem_nil

end Store.World

open Store.World in
/-- A file that is named for both stores is for the one that is opened first, however often the
other one is asked for. -/
theorem Surroundings.opens_again_shared :
    let refused := (withAccount.opening surroundings .history shared).state
    let refused' := (withCommit.opening surroundings .records shared).state
    ((surroundings.calmed.openRecords shared refused).1 = .ok sharedHandle ∧
      (surroundings.calmed.openHistory shared refused).1
        = .error (.invalidSchema .unexpectedHistoryTables)) ∧
    (surroundings.calmed.openHistory shared refused').1 = .ok sharedHandle ∧
      (surroundings.calmed.openRecords shared refused').1
        = .error (.invalidSchema .unsupportedTables) := by
  have hlawful := surroundings_isLawful
  have hnew : ∀ db, (surroundings.files begun.state).contents sharedHandle.path = some db →
      db.tableNames = [] := by
    rintro _ ⟨⟩
    rfl
  have halone : (surroundings.files begun.state).IsAlone sharedHandle.path := fun side hside =>
    Files.get?_eq_none_iff.2 ⟨isPlain_begun.isApart.folders side hside, by
      revert side
      decide +kernel⟩
  have hagain (m : Moment Store.World) (idle : m.underway = []) (kind : Kind) :
      surroundings.OpeningRun m (m.opening surroundings kind shared) :=
    run_opening hlawful idle kind (namesFile_shared kind)
  have hpast := connect_worksPast_beside hlawful recordsPlace
  have haccount : IsPlain withAccount := (isPlain_begun.opening .records).work
    (Files.beside_eq_iff.1 ((Store.createAccount_keeps hpast signup).eq _)).1
  have hcommit : IsPlain withCommit := (isPlain_begun.opening .history).work
    (Files.beside_eq_iff.1 ((History.commit_keeps hpast _ _ _).eq _)).1
  have hrecords : surroundings.Run begun withAccount :=
    (hagain begun rfl .records).run.tail (.work (mem_opening .records) (.createAccount signup))
  have hhistory : surroundings.Run begun withCommit :=
    (hagain begun rfl .history).run.tail (.commit (mem_opening .history) _ _ _)
  obtain ⟨hrecordsStay, -⟩ := (opens_again hlawful hrecords (hagain withAccount rfl .history) hnew
    halone (haccount.opening .history).isApart).1 (mem_opening .records)
  obtain ⟨hhistoryStays, -⟩ := (opens_again hlawful hhistory (hagain withCommit rfl .records) hnew
    halone (hcommit.opening .records).isApart).2 (mem_opening .history)
  exact ⟨⟨(hrecordsStay.opens shared hrecordsStay.getsTo).1,
      (hrecordsStay.refuses_shared rfl).1⟩,
    (hhistoryStays.opens shared hhistoryStays.getsTo).1,
    (hhistoryStays.refuses_shared rfl).1⟩

end InstructionStore
