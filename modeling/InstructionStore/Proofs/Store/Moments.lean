import InstructionStore.Proofs.Database.Stages
import InstructionStore.Proofs.Store.Openings
import InstructionStore.Proofs.Store.Refilling
import InstructionStore.Proofs.Store.SaveThenFind
import Mathlib.Logic.Relation

/-!
# Openings among each other

In a tree of files, stores of records and histories are opened, worked with through their
handles, and opened again. Openings are no single steps. Each reaches its file, and then goes on
by one statement at a time, and between two of them there can be anything: statements of other
openings of the same file or of another one, work with the stores that are open, and what
everybody else does (`Surroundings.Step`). An opening can fail at each of its statements, and it
can be given up. So a moment has, besides the stores that were opened, the openings that are
under way (`Surroundings.Moment`). Of each store and each opening it is on record by which
configuration the file was reached.

Two more things are on record. The database system does what it will about files beside a
database as soon as one tries to open that, so there are the places that were **tried**. And
there are the **contested** ones: if two openings for different kinds both find nothing wrong with
the tables of a file, each goes on to make its own, and neither kind comes out of that.

An opening that nothing comes between is a run of such steps (`Surroundings.run_opening`), and
so is a whole save (`Surroundings.run_save`).
-/

namespace InstructionStore

open Database

variable {σ : Type}

/-! ## Operations -/

namespace Store

/-- **An operation that can change a store of records**, whether or not it fails. -/
inductive Works (c : Connection σ) (s : σ) : σ → Prop
  /-- An account is opened. -/
  | createAccount (request : Signup) : Works c s (createAccount c request s).2
  /-- An account is deleted. -/
  | deleteAccount (account : Account) : Works c s (deleteAccount c account s).2
  /-- The last step of a save whose first step was taken in some other state. -/
  | persist {owner : Account} {request : SaveRequest} {p : Pending} {before between : σ}
    (prepared : prepare c owner request before = (.ok p, between)) : Works c s (persist c p s).2
  /-- A document is deleted. -/
  | deleteDocument (document : Document) : Works c s (deleteDocument c document s).2

variable {c : Connection σ} {s s' : σ}

/-- **An operation fills the tables anew** at the most. -/
theorem Works.refills (hc : c.IsLawful) (works : Works c s s') {db : Contents}
    (hs : c.contents s = some db) : ∃ db', c.contents s' = some db' ∧ db.Refills db' := by
  cases works with
  | createAccount request =>
    exact Connection.KeepsTables.refills (createAccount_keepsTables hc request) hs
  | deleteAccount account =>
    exact Connection.KeepsTables.refills (deleteAccount_keepsTables hc account) hs
  | @persist _ _ p _ _ _ => exact Connection.KeepsTables.refills (persist_keepsTables hc p) hs
  | deleteDocument document =>
    exact Connection.KeepsTables.refills (deleteDocument_keepsTables hc document) hs

/-- It leaves alone what work with the database does. -/
theorem Works.keeps {τ : Type} {view : σ → τ} (h : c.WorksPast view) (works : Works c s s') :
    view s' = view s := by
  cases works with
  | createAccount request => exact (createAccount_keeps h request).eq s
  | deleteAccount account => exact (deleteAccount_keeps h account).eq s
  | @persist _ _ p _ _ _ => exact (persist_keeps h p).eq s
  | deleteDocument document => exact (deleteDocument_keeps h document).eq s

end Store

/-- **A text that names a file to the database system.** To others it gives a database of
their own, or reads them as an address. -/
def NamesFile (text : String) : Prop :=
  text ≠ "" ∧ text ≠ ":memory:" ∧ text.startsWith "file:" = false

namespace Surroundings

/-! ## Moments -/

/-- **A store that was opened.** -/
structure Opened where
  /-- What it was opened as. -/
  kind : Kind
  /-- The configuration it was opened with. -/
  config : Config
  /-- The handle. -/
  handle : Handle

/-- **An opening that is under way**: its file was reached, and at least one statement is left. -/
structure Underway where
  /-- What the store is opened as. -/
  kind : Kind
  /-- The configuration it is opened with. -/
  config : Config
  /-- The place of the file. -/
  path : FilePath
  /-- How far it has come. -/
  stage : Stage
deriving DecidableEq

/-- The store that comes of an opening. -/
def Underway.opened (u : Underway) : Opened :=
  ⟨u.kind, u.config, ⟨u.config.storageDirectory, u.path⟩⟩

/-- Whether another opening is of the same file for the other kind, and has found nothing wrong
with the tables. -/
def Underway.isRivalOf (u v : Underway) : Bool :=
  u.path = v.path && u.kind != v.kind && u.stage != .tables

/-- **A moment.** -/
structure Moment (σ : Type) where
  /-- The state. -/
  state : σ
  /-- The stores that were opened, the last one first. -/
  opened : List Opened := []
  /-- The openings that are under way. -/
  underway : List Underway := []
  /-- The places that were tried. -/
  tried : List FilePath := []
  /-- The places that were contested. -/
  contested : List FilePath := []

/-- At first nothing was opened. -/
def Moment.start (s : σ) : Moment σ := { state := s }

/-- The places that are contested once an opening has found nothing wrong with the tables: its
own is, if it has a rival. -/
def Moment.contestedBy (m : Moment σ) (u : Underway) : List FilePath :=
  if u.stage = .tables && (m.underway.erase u).any fun v => v.isRivalOf u then u.path :: m.contested
  else m.contested

/-! ## Steps -/

/-- **One step of what has to do with opening stores**, or of what goes on around it. -/
inductive OpeningStep (e : Surroundings σ) (m : Moment σ) : Moment σ → Prop
  /-- The rest of the state changes. -/
  | elsewhere {s : σ} (same : e.files s = e.files m.state) : OpeningStep e m { m with state := s }
  /-- Directories are made. -/
  | folders {s : σ} (start : FilePath) (names : List String) (dotted : Bool)
    (makes : e.files s = (Files.createDirectoriesFrom start names dotted (e.files m.state)).2) :
    OpeningStep e m { m with state := s }
  /-- The database system does something about the files beside a database. -/
  | settles {place : FilePath} (tried : place ∈ m.tried) {s : σ}
    (settles : Files.Settles place (e.files m.state) (e.files s)) :
    OpeningStep e m { m with state := s }
  /-- A file is reached, and the opening of a store is under way. -/
  | reaches (kind : Kind) {config : Config} (named : NamesFile (config.fileFor kind))
    {path : FilePath} {s : σ}
    (run : e.reach config.storageDirectory (config.fileFor kind) m.state = (.ok path, s)) :
    OpeningStep e m { m with
      state := s
      underway := ⟨kind, config, path, .tables⟩ :: m.underway
      tried := path :: m.tried }
  /-- A file cannot be reached. -/
  | misses (kind : Kind) {config : Config} {failure : OpeningFailure} {s : σ}
    (run : e.reach config.storageDirectory (config.fileFor kind) m.state = (.error failure, s)) :
    OpeningStep e m { m with state := s }
  /-- An opening goes on by one statement, and is not done. -/
  | goesOn {u : Underway} (mem : u ∈ m.underway) {stage : Stage} {s : σ}
    (run : (e.connect u.path).advance u.kind u.stage m.state = (.ok stage, s))
    (more : stage ≠ .making []) :
    OpeningStep e m { m with
      state := s
      underway := { u with stage := stage } :: m.underway.erase u
      contested := m.contestedBy u }
  /-- An opening goes on by its last statement, and the store is open. -/
  | opens {u : Underway} (mem : u ∈ m.underway) {s : σ}
    (run : (e.connect u.path).advance u.kind u.stage m.state = (.ok (.making []), s)) :
    OpeningStep e m { m with
      state := s
      opened := u.opened :: m.opened
      underway := m.underway.erase u }
  /-- A statement of an opening fails, and with it the opening. -/
  | fails {u : Underway} (mem : u ∈ m.underway) {failure : OpeningFailure} {s : σ}
    (run : (e.connect u.path).advance u.kind u.stage m.state = (.error failure, s)) :
    OpeningStep e m { m with state := s, underway := m.underway.erase u }
  /-- An opening is given up. -/
  | givesUp (u : Underway) : OpeningStep e m { m with underway := m.underway.erase u }

/-- **One step.** Looking something up, and the first step of a save, leave the files as they
are. -/
inductive Step (e : Surroundings σ) (m : Moment σ) : Moment σ → Prop
  /-- It has to do with opening stores, or goes on around it. -/
  | opening {m' : Moment σ} (steps : OpeningStep e m m') : Step e m m'
  /-- There is work with a store of records. -/
  | work {config : Config} {handle : Handle} (opened : ⟨.records, config, handle⟩ ∈ m.opened)
    {s : σ} (works : Store.Works (e.connect handle.path) m.state s) :
    Step e m { m with state := s }
  /-- Something is committed to a history. -/
  | commit {config : Config} {handle : Handle} (opened : ⟨.history, config, handle⟩ ∈ m.opened)
    (key : HistoryKey) (body : Instruction) (author : Signature) :
    Step e m
      { m with state := (History.commit (e.connect handle.path) key body author m.state).2 }

variable {e : Surroundings σ} {m m' : Moment σ}

/-- **A run.** -/
abbrev Run (e : Surroundings σ) : Moment σ → Moment σ → Prop := Relation.ReflTransGen (Step e)

/-- **A run in which there is no work with the stores.** -/
abbrev OpeningRun (e : Surroundings σ) : Moment σ → Moment σ → Prop :=
  Relation.ReflTransGen (OpeningStep e)

theorem OpeningRun.run (h : e.OpeningRun m m') : e.Run m m' :=
  Relation.ReflTransGen.mono (fun _ _ => Step.opening) _ _ h

/-! ## What is on record -/

/-- **What is on record stays there**, and so do the directories. -/
structure Moment.Before (e : Surroundings σ) (m m' : Moment σ) : Prop where
  /-- Stores that were opened. -/
  opened : m.opened ⊆ m'.opened
  /-- Places that were tried. -/
  tried : m.tried ⊆ m'.tried
  /-- Places that were contested. -/
  contested : m.contested ⊆ m'.contested
  /-- Directories. -/
  folders : (e.files m.state).FoldersStay (e.files m'.state)

theorem Moment.Before.refl (e : Surroundings σ) (m : Moment σ) : m.Before e m :=
  ⟨List.Subset.refl _, List.Subset.refl _, List.Subset.refl _, .refl _⟩

theorem Moment.Before.trans {m'' : Moment σ} (h : m.Before e m') (h' : m'.Before e m'') :
    m.Before e m'' :=
  ⟨List.Subset.trans h.opened h'.opened, List.Subset.trans h.tried h'.tried,
    List.Subset.trans h.contested h'.contested, h.folders.trans h'.folders⟩

/-- Nothing is put on record while directories stay. -/
theorem Moment.Before.of_folders {s : σ} (m : Moment σ)
    (h : (e.files m.state).FoldersStay (e.files s)) : m.Before e { m with state := s } :=
  ⟨List.Subset.refl _, List.Subset.refl _, List.Subset.refl _, h⟩

theorem Moment.contested_subset (m : Moment σ) (u : Underway) : m.contested ⊆ m.contestedBy u := by
  unfold Moment.contestedBy
  split
  · exact List.subset_cons_self _ _
  · exact List.Subset.refl _

/-- Directories stay where all stays that is beside a file. -/
theorem foldersStay_of_beside {s s' : σ} {path : FilePath}
    (h : (e.files s').beside path = (e.files s).beside path) :
    (e.files s).FoldersStay (e.files s') :=
  Files.foldersStay_of_eq (Files.beside_eq_iff.1 h).1

theorem OpeningStep.before (he : e.IsLawful) (steps : OpeningStep e m m') : m.Before e m' := by
  have hadvance (u : Underway) : (e.files m.state).FoldersStay
      (e.files ((e.connect u.path).advance u.kind u.stage m.state).2) :=
    foldersStay_of_beside ((Connection.advance_keeps (connect_worksPast_beside he u.path) u.kind
      u.stage).eq m.state)
  cases steps with
  | elsewhere same => exact .of_folders m (Files.foldersStay_of_eq (congrArg _ same))
  | folders start names dotted makes =>
    have hgrows := Files.createDirectoriesFrom_grows [] start names dotted (e.files m.state)
    rw [← makes] at hgrows
    exact .of_folders m hgrows.directory
  | settles _ settles => exact .of_folders m (Files.foldersStay_of_eq settles.directories)
  | @reaches kind config named path s run =>
    have hgrows := reach_grows he path config.storageDirectory (config.fileFor kind) m.state
    rw [run] at hgrows
    exact ⟨List.Subset.refl _, List.subset_cons_self _ _, List.Subset.refl _, hgrows.directory⟩
  | @misses kind config failure s run =>
    have hgrows := reach_grows he [] config.storageDirectory (config.fileFor kind) m.state
    rw [run] at hgrows
    exact .of_folders m hgrows.directory
  | @goesOn u mem stage s run =>
    have hfolders := hadvance u
    rw [run] at hfolders
    exact ⟨List.Subset.refl _, List.Subset.refl _, m.contested_subset u, hfolders⟩
  | @opens u mem s run =>
    have hfolders := hadvance u
    rw [run] at hfolders
    exact ⟨List.subset_cons_self _ _, List.Subset.refl _, List.Subset.refl _, hfolders⟩
  | @fails u mem failure s run =>
    have hfolders := hadvance u
    rw [run] at hfolders
    exact ⟨List.Subset.refl _, List.Subset.refl _, List.Subset.refl _, hfolders⟩
  | givesUp => exact ⟨List.Subset.refl _, List.Subset.refl _, List.Subset.refl _, .refl _⟩

theorem Step.before (he : e.IsLawful) (steps : Step e m m') : m.Before e m' := by
  cases steps with
  | opening steps => exact steps.before he
  | work _ works =>
    have hbeside := works.keeps (connect_worksPast_beside he _)
    exact .of_folders m (foldersStay_of_beside hbeside)
  | @commit _ handle _ key body author =>
    have hpast := connect_worksPast_beside he handle.path
    have hbeside := (History.commit_keeps hpast key body author).eq m.state
    exact .of_folders m (foldersStay_of_beside hbeside)

theorem OpeningRun.before (he : e.IsLawful) (runs : e.OpeningRun m m') : m.Before e m' := by
  induction runs with
  | refl => exact .refl e m
  | tail _ steps ih => exact ih.trans (steps.before he)

/-- **Places are on record**: files that are opened, or were, were tried. -/
structure Moment.IsOnRecord (m : Moment σ) : Prop where
  /-- Those of openings under way. -/
  underway : ∀ u ∈ m.underway, u.path ∈ m.tried
  /-- Those of stores that were opened. -/
  opened : ∀ o ∈ m.opened, o.handle.path ∈ m.tried

theorem OpeningStep.isOnRecord (steps : OpeningStep e m m') (h : m.IsOnRecord) :
    m'.IsOnRecord := by
  obtain ⟨hunderway, hopened⟩ := h
  have herase (u : Underway) : ∀ v ∈ m.underway.erase u, v.path ∈ m.tried :=
    fun v hv => hunderway v (List.mem_of_mem_erase hv)
  cases steps with
  | elsewhere | folders | settles | misses => exact ⟨hunderway, hopened⟩
  | reaches =>
    exact ⟨List.forall_mem_cons.2 ⟨List.mem_cons_self, fun v hv => .tail _ (hunderway v hv)⟩,
      fun o ho => .tail _ (hopened o ho)⟩
  | @goesOn u mem =>
    exact ⟨List.forall_mem_cons.2 ⟨hunderway u mem, herase u⟩, hopened⟩
  | @opens u mem =>
    exact ⟨herase u, List.forall_mem_cons.2 ⟨hunderway u mem, hopened⟩⟩
  | @fails u => exact ⟨herase u, hopened⟩
  | givesUp u => exact ⟨herase u, hopened⟩

theorem Step.isOnRecord (steps : Step e m m') (h : m.IsOnRecord) : m'.IsOnRecord := by
  cases steps with
  | opening steps => exact steps.isOnRecord h
  | work | commit => exact ⟨h.underway, h.opened⟩

/-! ## Openings that nothing comes between -/

/-- The moment after a whole opening. If it succeeds, there is one more store, and if its file
was reached, this was tried. -/
def Moment.opening (e : Surroundings σ) (m : Moment σ) (kind : Kind) (config : Config) :
    Moment σ :=
  let result := e.openFor kind config m.state
  let reached := (e.reach config.storageDirectory (config.fileFor kind) m.state).1
  { m with
    state := result.2
    opened := (result.1.toOption.map (Opened.mk kind config)).toList ++ m.opened
    tried := reached.toOption.toList ++ m.tried }

/-- A whole opening tries the file that is named. -/
theorem Moment.tried_opening (he : e.IsLawful) (m : Moment σ) (kind : Kind) (config : Config) :
    ∀ place ∈ (m.opening e kind config).tried,
      place = e.placeOf (config.fileFor kind) ∨ place ∈ m.tried := by
  intro place hplace
  refine (List.mem_append.1 hplace).imp_left fun hreached => ?_
  rcases hrun : e.reach config.storageDirectory (config.fileFor kind) m.state with ⟨_ | path, s⟩ <;>
    rw [hrun] at hreached
  · exact nomatch hreached
  · rw [List.mem_singleton.1 hreached]
    exact (reach_eq_ok he hrun).1

/-- The moment at which the only opening that was under way is over. -/
def Moment.after (m : Moment σ) (u : Underway) (result : Except OpeningFailure Unit × σ) :
    Moment σ :=
  { m with
    state := result.2
    opened := (result.1.toOption.map fun _ => u.opened).toList ++ m.opened
    underway := [] }

/-- **What is left of an opening is a run**, by induction on the statements that are left. -/
theorem runs_goOn (he : e.IsLawful) {u : Underway} (only : m.underway = [u])
    (more : u.stage ≠ .making []) :
    e.OpeningRun m (m.after u ((e.connect u.path).goOn u.kind u.stage m.state)) := by
  induction hleft : u.stage.left u.kind using Nat.strong_induction_on generalizing m u with
  | _ left ih =>
  have hadvances := Connection.advances (connect_isLawful he u.path) u.kind u.stage m.state
  have hmem : u ∈ m.underway := only ▸ List.mem_cons_self
  have hrest : m.underway.erase u = [] := by rw [only, List.erase_cons_head]
  rw [Connection.goOn_apply more]
  rcases hrun : (e.connect u.path).advance u.kind u.stage m.state with ⟨failure | stage, s⟩
  · have hfails : OpeningStep e m _ := .fails hmem hrun
    rw [hrest] at hfails
    exact .single hfails
  · rw [hrun] at hadvances
    have hless := hadvances.left_lt more
    dsimp only
    by_cases hdone : stage = .making []
    · subst hdone
      have hopens : OpeningStep e m _ := .opens hmem hrun
      rw [hrest] at hopens
      exact .single hopens
    · have hcontested : m.contestedBy u = m.contested := by
        unfold Moment.contestedBy
        rw [hrest, List.any_nil, Bool.and_false, if_neg Bool.false_ne_true]
      have hgoes : OpeningStep e m _ := .goesOn hmem hrun hdone
      rw [hrest, hcontested] at hgoes
      exact .head hgoes (ih _ (hleft ▸ hless) (u := { u with stage := stage }) rfl hdone rfl)

/-- **A whole opening is a run**, if no other is under way. -/
theorem run_opening (he : e.IsLawful) (idle : m.underway = []) (kind : Kind) {config : Config}
    (named : NamesFile (config.fileFor kind)) :
    e.OpeningRun m (m.opening e kind config) := by
  unfold Moment.opening openFor openAt
  dsimp only
  rw [Task.bind_apply]
  rcases hreach : e.reach config.storageDirectory (config.fileFor kind) m.state with
    ⟨failure | path, s⟩
  · exact .single (.misses kind hreach)
  · have hreaches : OpeningStep e m _ := .reaches kind named hreach
    rw [idle] at hreaches
    refine .head hreaches ?_
    have hgoes := runs_goOn he
      (m := { m with
        state := s, underway := [⟨kind, config, path, .tables⟩], tried := path :: m.tried })
      (u := ⟨kind, config, path, .tables⟩) rfl nofun
    dsimp only
    rw [Task.bind_apply]
    unfold Moment.after at hgoes
    rw [← Connection.openAs_eq_goOn] at hgoes
    dsimp only at hgoes
    rcases hopen : (e.connect path).openAs kind s with ⟨failure | _, s'⟩ <;> rw [hopen] at hgoes <;>
      rw [idle] <;> exact hgoes

/-- **A whole save is a run**, with the commit of a history that was opened between its first
and its last step. -/
theorem run_save (he : e.IsLawful) {config config' : Config} {records history : Handle}
    (hrecords : ⟨.records, config, records⟩ ∈ m.opened)
    (hhistory : ⟨.history, config', history⟩ ∈ m.opened) (owner : Account)
    (request : SaveRequest) :
    e.Run m { m with
      state := (Store.save (e.connect records.path) (History.commit (e.connect history.path))
        owner request m.state).2 } := by
  have hpast : (e.connect records.path).ReadsPast e.files := ⟨he.drawn, he.disturbed⟩
  refine Store.save_preserves (I := fun s => e.Run m { m with state := s })
    ?_ (fun {p before} _ hbefore => ?_) fun {p before after} hprepare hafter => ?_
  · exact .single (.opening (.elsewhere ((Store.prepare_keeps hpast owner request).eq m.state)))
  · exact hbefore.tail (.commit (m := { m with state := before }) hhistory _ _ _)
  · exact hafter.tail (.work (m := { m with state := after }) hrecords (.persist hprepare))

end Surroundings

end InstructionStore
