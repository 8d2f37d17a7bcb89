import InstructionStore.Proofs.Database.Outline
import InstructionStore.Proofs.Store.Places

/-!
# What an opening does to a tree of files

An opening reaches a file first: it makes a directory, and a file unless there is one. Whatever
comes of that, the tree grows around every file, and no file is changed but that one, which is
empty if it was not there (`Surroundings.lookup_reach`). If the file is reached, it stands in
its place, and the configuration leads to it from then on (`Surroundings.Leads`).

What comes of opening a file that holds a complete database is decided by its kind alone, and it
stays as it is (`Surroundings.openFor_of_isFor`, `Surroundings.openFor_of_ne`). This is told of
surroundings in which no statement is refused for a reason of its own (`Surroundings.calmed`),
and of openings that nothing comes between.
-/

namespace InstructionStore

open Database

namespace Surroundings

variable {σ ε α : Type} {e : Surroundings σ} {s s' : σ} {path : FilePath} {db : Contents}

/-! ## Calm surroundings -/

/-- **The surroundings when no statement is refused** for a reason of its own. -/
def calmed (e : Surroundings σ) : Surroundings σ :=
  { e with disturbed := fun s => (false, (e.disturbed s).2) }

theorem calmed_isLawful (he : e.IsLawful) : e.calmed.IsLawful :=
  ⟨he.replaced, he.drawn, he.disturbed⟩

theorem calmed_isCalm (e : Surroundings σ) (path : FilePath) : (e.calmed.connect path).IsCalm :=
  fun _ => rfl

/-! ## Reaching a file -/

variable {directory file : String}

/-- The files when a file has been reached, or could not be. -/
theorem files_reach (he : e.IsLawful) (directory file : String) (s : σ) :
    e.files (e.reach directory file s).2 = (e.makeFolder directory (e.files s)).2 ∨
    e.files (e.reach directory file s).2
      = ((e.makeFolder directory (e.files s)).2.touch (e.placeOf file)).2 := by
  rw [reach_apply he]
  rcases e.makeFolder directory (e.files s) with ⟨failure | _, t⟩
  · exact .inl (he.replaced _ _)
  · exact .inr (he.replaced _ _)

/-- **The tree grows** when a file is reached, or cannot be. -/
theorem reach_grows (he : e.IsLawful) (path : FilePath) (directory file : String) (s : σ) :
    Files.Grows path (e.files s) (e.files (e.reach directory file s).2) := by
  have hmaking := Files.createDirectoriesFrom_grows path (e.startOf directory)
    (FilePath.names directory) (FilePath.endsInDot directory) (e.files s)
  rcases files_reach he directory file s with hmade | htouched
  · rw [hmade]
    exact hmaking
  · rw [htouched]
    exact hmaking.trans (Files.touch_grows path _ _)

theorem lookup_makeFolder (directory : String) (t : Files) (path : FilePath) :
    (e.makeFolder directory t).2.files.lookup path = t.files.lookup path := by
  unfold makeFolder
  rw [Files.files_createDirectoriesFrom]

/-- Other files are left alone. -/
theorem lookup_reach_of_ne (he : e.IsLawful) (hne : path ≠ e.placeOf file) (directory : String)
    (s : σ) : (e.files (e.reach directory file s).2).files.lookup path
      = (e.files s).files.lookup path := by
  rcases files_reach he directory file s with hmade | htouched
  · rw [hmade, lookup_makeFolder]
  · rw [htouched, Files.lookup_touch_of_ne hne, lookup_makeFolder]

/-- **What is in the file** that is asked for: what was in it, or nothing if it was not
there. -/
theorem lookup_reach (he : e.IsLawful) (directory file : String) (s : σ) :
    (e.files (e.reach directory file s).2).files.lookup (e.placeOf file)
      = (e.files s).files.lookup (e.placeOf file) ∨
    (e.files s).files.lookup (e.placeOf file) = none ∧
    (e.files (e.reach directory file s).2).files.lookup (e.placeOf file) = some (.bytes []) := by
  rcases files_reach he directory file s with hmade | htouched
  · rw [hmade, lookup_makeFolder]
    exact .inl rfl
  · have hcases := Files.lookup_touch (e.makeFolder directory (e.files s)).2 (e.placeOf file)
    rw [lookup_makeFolder] at hcases
    rwa [htouched]

/-- **No file is made** if none can be reached. -/
theorem lookup_reach_of_error (he : e.IsLawful) {failure : OpeningFailure}
    (h : e.reach directory file s = (.error failure, s')) (path : FilePath) :
    (e.files s').files.lookup path = (e.files s).files.lookup path := by
  have hmaking := lookup_makeFolder (e := e) directory (e.files s) path
  rw [reach_apply he] at h
  rcases hmade : e.makeFolder directory (e.files s) with ⟨_ | _, t⟩ <;> rw [hmade] at h hmaking <;>
    dsimp only at h
  · obtain ⟨-, rfl⟩ := Prod.mk.inj h
    rw [he.replaced]
    exact hmaking
  · obtain ⟨hresult, rfl⟩ := Prod.mk.inj h
    rw [he.replaced]
    rcases htouch : t.touch (e.placeOf file) with ⟨_ | _, t'⟩
    · obtain rfl : t' = t := by
        rcases Files.touch_cases t (e.placeOf file) with hno | ⟨-, hthere⟩ | ⟨-, hnew⟩
        · exact congrArg Prod.snd (htouch.symm.trans hno)
        · exact nomatch congrArg Prod.fst (htouch.symm.trans hthere)
        · exact nomatch congrArg Prod.fst (htouch.symm.trans hnew)
      exact hmaking
    · rw [htouch] at hresult
      exact nomatch hresult

/-- **No directory is made** if that of the configuration is there. -/
theorem directories_reach (he : e.IsLawful) (file : String)
    (h : (e.files s).HasDirectories (e.startOf directory) (FilePath.names directory)) :
    (e.files (e.reach directory file s).2).directories = (e.files s).directories := by
  have hthere : e.makeFolder directory (e.files s) = (.ok (), e.files s) :=
    h.createDirectoriesFrom _
  rw [reach_apply he, hthere]
  dsimp only
  rw [he.replaced, Files.directories_touch]

/-- **A file that is reached** stands in its place, behind its directory. -/
theorem reach_eq_ok (he : e.IsLawful) (h : e.reach directory file s = (.ok path, s')) :
    path = e.placeOf file ∧
    (e.files s').HasDirectories (e.startOf directory) (FilePath.names directory) ∧
    (e.files s').Stands path := by
  rw [reach_apply he] at h
  rcases hmade : e.makeFolder directory (e.files s) with ⟨failure | _, t⟩ <;> rw [hmade] at h <;>
    dsimp only at h
  · exact nomatch congrArg Prod.fst h
  · obtain ⟨hresult, hstate⟩ := Prod.mk.inj h
    rcases htouch : t.touch (e.placeOf file) with ⟨_ | _, t'⟩ <;> rw [htouch] at hresult hstate
    · exact nomatch hresult
    · obtain rfl : e.placeOf file = path := Except.ok.inj hresult
      have hfiles : e.files s' = t' := hstate ▸ he.replaced _ _
      have hgrows := Files.touch_grows (e.placeOf file) t (e.placeOf file)
      rw [htouch] at hgrows
      rw [hfiles]
      exact ⟨rfl, (Files.hasDirectories_of_createDirectoriesFrom hmade).mono hgrows,
        Files.stands_of_touch htouch⟩

end Surroundings

/-! ## Opening for a purpose -/

/-- The file that a configuration names for a kind of database. -/
def Config.fileFor (config : Config) : Kind → String
  | .records => config.recordsPath
  | .history => config.historyPath

namespace Surroundings

variable {σ : Type} {e : Surroundings σ} {s s' : σ} {path : FilePath} {db : Contents}
  {kind : Kind} {config : Config}

/-- **A configuration leads to a file** of a tree, which stands in its place. -/
structure Leads (e : Surroundings σ) (t : Files) (config : Config) (kind : Kind)
    (path : FilePath) : Prop where
  /-- The directory of the configuration is there. -/
  folder : t.HasDirectories (e.startOf config.storageDirectory)
    (FilePath.names config.storageDirectory)
  /-- The configuration names the place. -/
  place : e.placeOf (config.fileFor kind) = path
  /-- The file is there. -/
  stands : t.Stands path

theorem Leads.mono {t t' : Files} (h : e.Leads t config kind path)
    (hgrows : Files.Grows path t t') : e.Leads t' config kind path :=
  ⟨h.folder.mono hgrows, h.place, h.stands.mono hgrows⟩

/-- No directory has to be made for it. -/
theorem Leads.makeFolder {t : Files} (h : e.Leads t config kind path) :
    e.makeFolder config.storageDirectory t = (.ok (), t) :=
  h.folder.createDirectoriesFrom _

/-- It can be reached by the configuration. -/
theorem Leads.reaches (h : e.Leads (e.files s) config kind path) :
    e.Reaches s config.storageDirectory (config.fileFor kind) path := by
  obtain ⟨hfolder, rfl, hstands⟩ := h
  exact reaches_of_stands hfolder hstands

/-- **Opens the store of a kind.** -/
def openFor (e : Surroundings σ) (kind : Kind) (config : Config) : Task σ OpeningFailure Handle :=
  e.openAt config.storageDirectory (config.fileFor kind) fun c => c.openAs kind

/-- An opening of a store of records is one of that kind, with names of its own for what goes
wrong. -/
theorem exists_openRecords_eq (e : Surroundings σ) (config : Config) :
    ∃ name : OpeningFailure → DatabaseFailure,
      (∀ defect, name (.refused defect) = .invalidSchema defect) ∧
      e.openRecords config = (e.openFor .records config).mapError name :=
  ⟨_, fun _ => rfl, rfl⟩

/-- And so is that of a history. -/
theorem exists_openHistory_eq (e : Surroundings σ) (config : Config) :
    ∃ name : OpeningFailure → HistoryFailure,
      (∀ defect, name (.refused defect) = .invalidSchema defect) ∧
      e.openHistory config = (e.openFor .history config).mapError name :=
  ⟨_, fun _ => rfl, rfl⟩

/-- **No directory is made** by an opening if that of the configuration is there. -/
theorem directories_openFor (he : e.IsLawful) (kind : Kind) {config : Config}
    (h : (e.files s).HasDirectories (e.startOf config.storageDirectory)
      (FilePath.names config.storageDirectory)) :
    (e.files (e.openFor kind config s).2).directories = (e.files s).directories := by
  have hreach := directories_reach he (config.fileFor kind) h
  unfold openFor openAt
  rw [Task.bind_apply]
  generalize e.reach config.storageDirectory (config.fileFor kind) s = run at hreach ⊢
  rcases run with ⟨failure | path, s₁⟩
  · exact hreach
  · have hbeside := (Connection.openAs_keeps (connect_worksPast_beside he path) kind).eq s₁
    dsimp only
    rw [Task.bind_apply]
    generalize (e.connect path).openAs kind s₁ = run at hbeside ⊢
    rcases run with ⟨failure | _, s₂⟩
    all_goals exact (Files.beside_eq_iff.1 hbeside).1.trans hreach

/-! ## What comes of opening a file once more -/

/-- **A file with a complete database is opened** as what it is, and stays as it is. -/
theorem openFor_of_isFor (he : e.IsLawful) (calm : ∀ path, (e.connect path).IsCalm)
    (hreach : e.Reaches s config.storageDirectory (config.fileFor kind) path)
    (hs : (e.files s).contents path = some db) (h : db.IsFor kind) :
    (e.openFor kind config s).1 = .ok ⟨config.storageDirectory, path⟩ ∧
    (e.files (e.openFor kind config s).2).contents path = some db := by
  obtain ⟨s₁, hs₁, hopen⟩ := hreach.exists_openAt_eq he hs
  have hopened := Connection.openAs_of_isFor (connect_isLawful he path) (calm path) hs₁ h
  unfold openFor
  rw [hopen, Task.bind_apply]
  rcases hrun : (e.connect path).openAs kind s₁ with ⟨result, s₂⟩
  rw [hrun] at hopened
  obtain ⟨hok, hkept⟩ := hopened
  obtain rfl : result = .ok () := hok
  exact ⟨rfl, hkept⟩

/-- **A file with a database of the other kind is refused**, and stays as it is. -/
theorem openFor_of_ne (he : e.IsLawful) (calm : ∀ path, (e.connect path).IsCalm)
    {other : Kind} (hreach : e.Reaches s config.storageDirectory (config.fileFor other) path)
    (hs : (e.files s).contents path = some db) (h : db.IsFor kind) (hne : kind ≠ other) :
    (e.openFor other config s).1 = .error (.refused other.foreignTable) ∧
    (e.files (e.openFor other config s).2).contents path = some db := by
  obtain ⟨s₁, hs₁, hopen⟩ := hreach.exists_openAt_eq he hs
  have hrefused := Connection.openAs_of_ne (connect_isLawful he path) (calm path) hs₁ h hne
  unfold openFor
  rw [hopen, Task.bind_apply]
  rcases hrun : (e.connect path).openAs other s₁ with ⟨result, s₂⟩
  rw [hrun] at hrefused
  obtain ⟨hfail, hkept⟩ := hrefused
  obtain rfl : result = .error (.refused other.foreignTable) := hfail
  exact ⟨rfl, hkept⟩

end Surroundings

end InstructionStore
