import InstructionStore.Proofs.Store.Gate

/-!
# Places that stay

The stores take nothing away from a tree of files: they make directories, make empty files, and
put data into files that are there. It is otherwise with the database system. It keeps files of
its own beside a database while it works (`FilePath.sides`), and what it finds there it takes
for one of them, whoever put it there, and may change it, remove it, and change the database by
what is in it (`Files.Settles`). A history that is given the name of such a file goes when the
records are opened, and a directory of that name keeps them from being opened.

So what is said of a file is said of the tree **around** it (`Files.around`): the directories,
the file, and the files beside it. Around a file with nothing beside it the tree only grows
(`Files.Grows`), and a file that was reached once can be reached again: the names on the way to
it are those of directories (`Files.HasDirectories`), and a text that was good for making these
directories is good for finding them (`Surroundings.reaches_of_stands`).
-/

namespace InstructionStore

open Database

namespace Files

variable {t t' t'' : Files} {path : FilePath}

/-! ## What is at a place -/

/-- There is a file at a place. -/
def HasFile (t : Files) (path : FilePath) : Prop := ∃ data, t.get? path = some (.file data)

theorem get?_eq_directory_iff :
    t.get? path = some .directory ↔ (path.isEmpty || t.directories.contains path) = true := by
  unfold get?
  split
  case isTrue h => exact iff_of_true rfl h
  case isFalse h =>
    refine iff_of_false (fun hfile => ?_) h
    obtain ⟨data, -, hdata⟩ := Option.map_eq_some_iff.1 hfile
    exact nomatch hdata

/-- A file is among the files, and its place is that of no directory. -/
theorem hasFile_iff :
    t.HasFile path ↔ t.get? path ≠ some .directory ∧ (t.files.lookup path).isSome = true := by
  by_cases h : (path.isEmpty || t.directories.contains path) = true
  · have hdirectory := get?_eq_directory_iff.2 h
    refine iff_of_false ?_ fun hnot => hnot.1 hdirectory
    rintro ⟨data, hdata⟩
    exact nomatch hdirectory.symm.trans hdata
  · have hget : t.get? path = (t.files.lookup path).map Entry.file := if_neg h
    refine ⟨fun ⟨data, hdata⟩ => ⟨fun hdirectory => h (get?_eq_directory_iff.1 hdirectory), ?_⟩,
      fun hsome => ?_⟩
    · obtain ⟨data', hdata', -⟩ := Option.map_eq_some_iff.1 (hget.symm.trans hdata)
      rw [hdata']
      rfl
    · obtain ⟨data, hdata⟩ := Option.isSome_iff_exists.1 hsome.2
      exact ⟨data, by rw [hget, hdata]; rfl⟩

/-- There is nothing at a place if there is neither a directory nor a file. -/
theorem get?_eq_none_iff :
    t.get? path = none ↔ t.get? path ≠ some .directory ∧ t.files.lookup path = none := by
  by_cases h : (path.isEmpty || t.directories.contains path) = true
  · have hdirectory := get?_eq_directory_iff.2 h
    exact iff_of_false (fun hnone => nomatch hnone.symm.trans hdirectory)
      fun hnot => hnot.1 hdirectory
  · have hget : t.get? path = (t.files.lookup path).map Entry.file := if_neg h
    rw [hget, Option.map_eq_none_iff]
    refine ⟨fun hnone => ⟨fun hdirectory => ?_, hnone⟩, And.right⟩
    exact h (get?_eq_directory_iff.1 (hget.trans hdirectory))

/-- A database is in one of the files. -/
theorem isSome_lookup_of_contents {db : Contents} (h : t.contents path = some db) :
    (t.files.lookup path).isSome = true := by
  obtain ⟨data, hdata, -⟩ := Option.bind_eq_some_iff.1 h
  rw [hdata]
  rfl

/-! ## Trees that grow -/

/-- No directory is taken away. -/
def FoldersStay (t t' : Files) : Prop :=
  ∀ ⦃place⦄, t.get? place = some .directory → t'.get? place = some .directory

theorem FoldersStay.refl (t : Files) : t.FoldersStay t := fun _ => id

theorem FoldersStay.trans (h : t.FoldersStay t') (h' : t'.FoldersStay t'') : t.FoldersStay t'' :=
  fun _ hold => h' (h hold)

theorem get?_eq_directory_congr (h : t'.directories = t.directories) :
    t'.get? path = some .directory ↔ t.get? path = some .directory := by
  rw [get?_eq_directory_iff, get?_eq_directory_iff, h]

theorem foldersStay_of_eq (h : t'.directories = t.directories) : t.FoldersStay t' :=
  fun _ => (get?_eq_directory_congr h).2

/-- **A tree grows around a file**: no directory is taken away, and the file is not. -/
structure Grows (path : FilePath) (t t' : Files) : Prop where
  /-- Directories stay. -/
  directory : t.FoldersStay t'
  /-- A file stays a file. -/
  file : t.HasFile path → t'.HasFile path

theorem Grows.refl (path : FilePath) (t : Files) : Grows path t t := ⟨.refl t, id⟩

theorem Grows.trans (h : Grows path t t') (h' : Grows path t' t'') : Grows path t t'' :=
  ⟨h.directory.trans h'.directory, fun hfile => h'.file (h.file hfile)⟩

/-- **A directory is added** where nothing was. -/
theorem grows_of_get?_eq_none {place : FilePath} (h : t.get? place = none) (path : FilePath) :
    Grows path t { t with directories := place :: t.directories } := by
  have hnone : ¬(place.isEmpty || t.directories.contains place) = true :=
    fun hsome => nomatch h.symm.trans (get?_eq_directory_iff.2 hsome)
  constructor
  · intro path' hdirectory
    rw [get?_eq_directory_iff, Bool.or_eq_true] at hdirectory ⊢
    exact hdirectory.imp_right fun hmem => by
      rw [List.contains_cons, hmem, Bool.or_true]
  · intro hfile
    obtain ⟨hnot, hlookup⟩ := hasFile_iff.1 hfile
    refine hasFile_iff.2 ⟨fun hdirectory => ?_, hlookup⟩
    -- The new directory is not where the file is, since nothing was there.
    have hne : path ≠ place := by
      rintro rfl
      exact nomatch h.symm.trans hfile.choose_spec
    rw [get?_eq_directory_iff, List.contains_cons, beq_eq_false_iff_ne.2 hne,
      Bool.false_or] at hdirectory
    exact hnot (get?_eq_directory_iff.2 hdirectory)

/-- A tree in which no directory and no file is taken away grows. -/
theorem grows_of_lookup (hdirectories : t'.directories = t.directories)
    (hfile : (t.files.lookup path).isSome = true → (t'.files.lookup path).isSome = true) :
    Grows path t t' := by
  refine ⟨foldersStay_of_eq hdirectories, fun hthere => ?_⟩
  obtain ⟨hnot, hlookup⟩ := hasFile_iff.1 hthere
  exact hasFile_iff.2 ⟨mt (get?_eq_directory_congr hdirectories).1 hnot, hfile hlookup⟩

/-! ## Directories on the way -/

/-- **The names from a place on are those of directories.** -/
def HasDirectories (t : Files) (path : FilePath) : List String → Prop
  | [] => True
  | name :: names =>
    if name = ".." then t.HasDirectories path.dropLast names
    else checkName name = .ok () ∧ t.get? (path ++ [name]) = some .directory ∧
      t.HasDirectories (path ++ [name]) names

theorem HasDirectories.mono {file : FilePath} (hgrows : Grows file t t') {names : List String}
    {path : FilePath} (h : t.HasDirectories path names) : t'.HasDirectories path names := by
  induction names generalizing path with
  | nil => trivial
  | cons name names ih =>
    unfold HasDirectories at h ⊢
    split
    case isTrue hup =>
      rw [if_pos hup] at h
      exact ih h
    case isFalse hdown =>
      rw [if_neg hdown] at h
      obtain ⟨hname, hhere, hrest⟩ := h
      exact ⟨hname, hgrows.directory hhere, ih hrest⟩

theorem makeDirectories_cons {name : String} (hname : name ≠ "..") (dotted : Bool)
    (path : FilePath) (names : List String) (t : Files) :
    makeDirectories dotted path (name :: names) t = match checkName name with
      | .error failure => (.error failure, t)
      | .ok () => match t.get? (path ++ [name]) with
        | some (.file _) =>
          (.error (if names.isEmpty && !dotted then .alreadyExists else .notADirectory), t)
        | some .directory => makeDirectories dotted (path ++ [name]) names t
        | none =>
          if names.isEmpty && dotted then (.error .notFound, t)
          else makeDirectories dotted (path ++ [name]) names
            { t with directories := (path ++ [name]) :: t.directories } := by
  rw [makeDirectories, if_neg hname, Task.bind_apply, Task.ofExcept_apply]
  cases checkName name with
  | error failure => rfl
  | ok _ =>
    dsimp only
    rw [Task.bind_apply]
    show (match t.get? (path ++ [name]) with
      | some (.file _) =>
        throw (if names.isEmpty && !dotted then .alreadyExists else .notADirectory)
      | some .directory => makeDirectories dotted (path ++ [name]) names
      | none =>
        if names.isEmpty && dotted then throw .notFound
        else do
          modify fun t : Files => { t with directories := (path ++ [name]) :: t.directories }
          makeDirectories dotted (path ++ [name]) names : Task Files FileFailure Unit) t = _
    rcases t.get? (path ++ [name]) with _ | ⟨_ | _⟩
    · dsimp only
      split <;> rfl
    · rfl
    · rfl

theorem makeDirectories_grows (file : FilePath) (dotted : Bool) (names : List String) :
    ∀ path t, Grows file t (makeDirectories dotted path names t).2 := by
  induction names with
  | nil => exact fun _ t => .refl _ t
  | cons name names ih =>
    intro path t
    by_cases hname : name = ".."
    · subst hname
      exact ih _ t
    · rw [makeDirectories_cons hname]
      split
      · exact .refl _ t
      · split
        · exact .refl _ t
        · exact ih _ _
        · next hnone =>
          split
          · exact .refl _ t
          · exact (grows_of_get?_eq_none hnone file).trans (ih _ _)

/-- **Directories that were made are there.** -/
theorem hasDirectories_of_makeDirectories {dotted : Bool} {names : List String} :
    ∀ {path t t'}, makeDirectories dotted path names t = (.ok (), t') →
      HasDirectories t' path names := by
  induction names with
  | nil => exact fun _ => trivial
  | cons name names ih =>
    intro path t t' h
    unfold HasDirectories
    split
    case isTrue hup =>
      subst hup
      exact ih h
    case isFalse hdown =>
    rw [makeDirectories_cons hdown] at h
    cases hname : checkName name with
    | error failure =>
      rw [hname] at h
      exact nomatch congrArg Prod.fst h
    | ok _ =>
      rw [hname] at h
      dsimp only at h
      have hgrows (t : Files)
          (h : makeDirectories dotted (path ++ [name]) names t = (.ok (), t')) :
          Grows path t t' := by
        have hafter := makeDirectories_grows path dotted names (path ++ [name]) t
        rwa [h] at hafter
      rcases hthere : t.get? (path ++ [name]) with _ | ⟨_ | data⟩ <;> rw [hthere] at h <;>
        dsimp only at h
      · split at h
        · exact nomatch congrArg Prod.fst h
        · refine ⟨rfl, (hgrows _ h).directory (get?_eq_directory_iff.2 ?_), ih h⟩
          rw [List.contains_cons, BEq.rfl, Bool.true_or, Bool.or_true]
      · exact ⟨rfl, (hgrows t h).directory hthere, ih h⟩
      · exact nomatch congrArg Prod.fst h

/-- **Directories that are there are not made.** -/
theorem HasDirectories.makeDirectories {names : List String} {path : FilePath}
    (h : t.HasDirectories path names) (dotted : Bool) :
    Files.makeDirectories dotted path names t = (.ok (), t) := by
  induction names generalizing path with
  | nil => rfl
  | cons name names ih =>
    unfold HasDirectories at h
    split at h
    case isTrue hup =>
      subst hup
      exact ih h
    case isFalse hdown =>
      obtain ⟨hname, hhere, hrest⟩ := h
      rw [makeDirectories_cons hdown, hname, hhere]
      exact ih hrest

theorem createDirectoriesFrom_apply (start : FilePath) (names : List String) (dotted : Bool)
    (t : Files) : createDirectoriesFrom start names dotted t
      = if names.any fun name => name.toList.contains '\x00' then (.error .invalidInput, t)
        else makeDirectories dotted start names t := by
  unfold createDirectoriesFrom
  split <;> rfl

theorem createDirectoriesFrom_grows (file start : FilePath) (names : List String) (dotted : Bool)
    (t : Files) : Grows file t (createDirectoriesFrom start names dotted t).2 := by
  rw [createDirectoriesFrom_apply]
  split
  · exact .refl _ t
  · exact makeDirectories_grows file dotted names start t

theorem hasDirectories_of_createDirectoriesFrom {start : FilePath} {names : List String}
    {dotted : Bool} (h : createDirectoriesFrom start names dotted t = (.ok (), t')) :
    t'.HasDirectories start names := by
  rw [createDirectoriesFrom_apply] at h
  split at h
  · exact nomatch congrArg Prod.fst h
  · exact hasDirectories_of_makeDirectories h

/-- There is no null character in the names of directories. -/
theorem HasDirectories.nullFree {names : List String} {path : FilePath}
    (h : t.HasDirectories path names) :
    ∀ name ∈ names, ¬name.toList.contains '\x00' = true := by
  induction names generalizing path with
  | nil => nofun
  | cons name names ih =>
    unfold HasDirectories at h
    split at h
    case isTrue hup =>
      subst hup
      exact List.forall_mem_cons.2 ⟨by decide, ih h⟩
    case isFalse hdown =>
      obtain ⟨hname, -, hrest⟩ := h
      refine List.forall_mem_cons.2 ⟨fun hnull => ?_, ih hrest⟩
      unfold checkName at hname
      rw [if_pos hnull] at hname
      exact nomatch hname

theorem HasDirectories.createDirectoriesFrom {start : FilePath} {names : List String}
    (h : t.HasDirectories start names) (dotted : Bool) :
    Files.createDirectoriesFrom start names dotted t = (.ok (), t) := by
  rw [createDirectoriesFrom_apply, if_neg, h.makeDirectories]
  rw [List.any_eq_true]
  rintro ⟨name, hname, hnull⟩
  exact h.nullFree name hname hnull

/-- A directory is found behind directories, and only there. -/
theorem follow_eq_directory_iff {names : List String} {path : FilePath} :
    t.follow path .directory names = .ok .directory ↔ t.HasDirectories path names := by
  induction names generalizing path with
  | nil => exact iff_of_true rfl trivial
  | cons name names ih =>
    unfold follow HasDirectories
    dsimp only
    split
    case isTrue hup => exact ih
    case isFalse hdown =>
    rw [Outcome.bind_eq_ok_iff]
    constructor
    · rintro ⟨_, hname, h⟩
      refine ⟨hname, ?_⟩
      rcases hthere : t.get? (path ++ [name]) with _ | ⟨_ | data⟩ <;> rw [hthere] at h <;>
        dsimp only at h
      · exact nomatch h
      · exact ⟨rfl, ih.1 h⟩
      · cases names <;> exact nomatch h
    · rintro ⟨hname, hthere, hrest⟩
      refine ⟨(), hname, ?_⟩
      rw [hthere]
      exact ih.2 hrest

/-! ## Files in their places -/

/-- **A file stands in its place**: it is there, and it lies in directories. -/
structure Stands (t : Files) (path : FilePath) : Prop where
  /-- There are directories on the way. -/
  way : t.HasDirectories [] path.dropLast
  /-- There is a file. -/
  file : t.HasFile path

theorem Stands.mono (h : t.Stands path) (hgrows : Grows path t t') : t'.Stands path :=
  ⟨h.way.mono hgrows, hgrows.file h.file⟩

theorem Stands.allowsFile (h : t.Stands path) : t.allowsFile path = true := by
  obtain ⟨data, hdata⟩ := h.file
  unfold Files.allowsFile find
  rw [follow_eq_directory_iff.2 h.way, hdata]

theorem hasDirectories_of_allowsFile (h : t.allowsFile path = true) :
    t.HasDirectories [] path.dropLast := by
  refine follow_eq_directory_iff.1 ?_
  unfold Files.allowsFile find at h
  generalize t.follow [] .directory path.dropLast = found at h
  rcases found with _ | ⟨_ | _⟩
  · exact nomatch h
  · rfl
  · exact nomatch h

/-- **What becomes of a tree in which a file is made** unless there is one: the place cannot
be that of a file, or there is one, or there is an empty one now. -/
theorem touch_cases (t : Files) (path : FilePath) :
    t.touch path = (false, t) ∨ t.HasFile path ∧ t.touch path = (true, t) ∨
    t.get? path = none ∧ t.touch path = (true, t.put path (.bytes [])) := by
  unfold touch
  cases hallows : t.allowsFile path with
  | false => exact .inl rfl
  | true =>
    rcases hthere : t.get? path with _ | ⟨_ | data⟩
    · exact .inr (.inr ⟨rfl, rfl⟩)
    · have hnot : t.allowsFile path = false := by
        unfold Files.allowsFile
        rw [hthere]
        rcases t.find path.dropLast with _ | ⟨_ | _⟩ <;> rfl
      exact nomatch hnot.symm.trans hallows
    · exact .inr (.inl ⟨⟨data, hthere⟩, rfl⟩)

theorem put_grows (path : FilePath) (t : Files) (place : FilePath) (data : FileData) :
    Grows path t (t.put place data) := by
  refine grows_of_lookup rfl fun hthere => ?_
  by_cases hplace : path = place
  · unfold put
    rw [hplace, List.lookup_cons_self]
    rfl
  · rw [lookup_put_of_ne hplace]
    exact hthere

theorem touch_grows (path : FilePath) (t : Files) (place : FilePath) :
    Grows path t (t.touch place).2 := by
  rcases touch_cases t place with hno | ⟨-, hthere⟩ | ⟨-, hnew⟩
  · rw [hno]
    exact .refl _ t
  · rw [hthere]
    exact .refl _ t
  · rw [hnew]
    exact put_grows path t place _

/-- **A file that was asked for stands in its place.** -/
theorem stands_of_touch (h : t.touch path = (true, t')) : t'.Stands path := by
  have hallows : t.allowsFile path = true := by
    unfold touch at h
    split at h
    · assumption
    · exact nomatch congrArg Prod.fst h
  have hgrows := touch_grows path t path
  rw [h] at hgrows
  refine ⟨(hasDirectories_of_allowsFile hallows).mono hgrows, ?_⟩
  rcases touch_cases t path with hno | ⟨hfile, hthere⟩ | ⟨hnone, hnew⟩
  · exact nomatch congrArg Prod.fst (h.symm.trans hno)
  · obtain rfl : t' = t := congrArg Prod.snd (h.symm.trans hthere)
    exact hfile
  · obtain rfl : t' = t.put path (.bytes []) := congrArg Prod.snd (h.symm.trans hnew)
    refine hasFile_iff.2 ⟨fun hdirectory => ?_, ?_⟩
    · rw [get?_eq_directory_iff] at hdirectory
      exact nomatch hnone.symm.trans (get?_eq_directory_iff.2 hdirectory)
    · unfold put
      rw [List.lookup_cons_self]
      rfl

/-- **What a file holds that is asked for**: what it held, or nothing if it was not there. -/
theorem lookup_touch (t : Files) (path : FilePath) :
    (t.touch path).2.files.lookup path = t.files.lookup path ∨
    t.files.lookup path = none ∧ (t.touch path).2.files.lookup path = some (.bytes []) := by
  rcases touch_cases t path with hno | ⟨-, hthere⟩ | ⟨hnone, hnew⟩
  · rw [hno]
    exact .inl rfl
  · rw [hthere]
    exact .inl rfl
  · rw [hnew]
    exact .inr ⟨(get?_eq_none_iff.1 hnone).2, List.lookup_cons_self⟩

theorem directories_touch (t : Files) (path : FilePath) :
    (t.touch path).2.directories = t.directories := by
  rcases touch_cases t path with hno | ⟨-, hthere⟩ | ⟨-, hnew⟩
  · rw [hno]
  · rw [hthere]
  · rw [hnew]
    rfl

/-- Other files are left alone. -/
theorem lookup_touch_of_ne {place : FilePath} (h : path ≠ place) (t : Files) :
    (t.touch place).2.files.lookup path = t.files.lookup path := by
  rcases touch_cases t place with hno | ⟨-, hthere⟩ | ⟨-, hnew⟩
  · rw [hno]
  · rw [hthere]
  · rw [hnew, lookup_put_of_ne h]

end Files

/-! ## Beside a database -/

namespace FilePath

/-- What the names of the files that are kept beside a database end in. -/
def endings : List String := ["-journal", "-wal", "-shm"]

/-- **The places beside a database**, where the database system keeps files of its own. -/
def sides (path : FilePath) : List FilePath :=
  match path.getLast? with
  | none => []
  | some name => endings.map fun ending => path.dropLast ++ [name ++ ending]

variable {path path' side : FilePath}

theorem mem_sides_iff :
    side ∈ path.sides ↔ ∃ folder name, path = folder ++ [name] ∧
      ∃ ending ∈ endings, side = folder ++ [name ++ ending] := by
  unfold sides
  rcases List.eq_nil_or_concat path with rfl | ⟨folder, name, rfl⟩
  · refine iff_of_false List.not_mem_nil ?_
    rintro ⟨folder, name, hnil, -⟩
    exact nomatch (List.append_eq_nil_iff.1 hnil.symm).2
  · rw [List.concat_eq_append, List.getLast?_concat, List.dropLast_concat]
    dsimp only
    rw [List.mem_map]
    constructor
    · rintro ⟨ending, hending, rfl⟩
      exact ⟨folder, name, rfl, ending, hending, rfl⟩
    · rintro ⟨folder', name', hpath, ending, hending, rfl⟩
      obtain ⟨rfl, hname⟩ := List.append_inj' hpath rfl
      obtain rfl := List.singleton_inj.1 hname
      exact ⟨ending, hending, rfl⟩

/-- A file is not beside itself. -/
theorem not_mem_sides (path : FilePath) : path ∉ path.sides := by
  rw [mem_sides_iff]
  rintro ⟨folder, name, rfl, ending, hending, hpath⟩
  have hname : name.toList = name.toList ++ ending.toList :=
    (congrArg String.toList (List.singleton_inj.1 (List.append_inj' hpath rfl).2)).trans
      String.toList_append
  have hsome : ∀ ending ∈ endings, ending.toList ≠ [] := by decide
  exact hsome ending hending (List.self_eq_append_right.1 hname)

/-- **No two files share a file beside them.** -/
theorem eq_of_mem_sides (h : side ∈ path.sides) (h' : side ∈ path'.sides) : path = path' := by
  obtain ⟨folder, name, rfl, ending, hending, rfl⟩ := mem_sides_iff.1 h
  obtain ⟨folder', name', rfl, ending', hending', hside⟩ := mem_sides_iff.1 h'
  obtain ⟨rfl, hnames⟩ := List.append_inj' hside rfl
  have hreverse : ending.toList.reverse ++ name.toList.reverse
      = ending'.toList.reverse ++ name'.toList.reverse := by
    rw [← List.reverse_append, ← List.reverse_append, ← String.toList_append,
      ← String.toList_append, List.singleton_inj.1 hnames]
  -- The endings differ within their last three characters, so they are one.
  have hthree : ending.toList.reverse.take 3 = ending'.toList.reverse.take 3 := by
    have htake := congrArg (List.take 3) hreverse
    have hlong : ∀ ending ∈ endings, 3 ≤ ending.toList.reverse.length := by decide
    rwa [List.take_append_of_le_length (hlong _ hending),
      List.take_append_of_le_length (hlong _ hending')] at htake
  have hendings : ∀ ending ∈ endings, ∀ ending' ∈ endings,
      ending.toList.reverse.take 3 = ending'.toList.reverse.take 3 → ending = ending' := by
    decide
  obtain rfl := hendings _ hending _ hending' hthree
  have hname : name = name' := String.toList_inj.1
    (List.reverse_inj.1 (List.append_cancel_left hreverse))
  rw [hname]

end FilePath

namespace Files

variable {t t' : Files} {path place : FilePath}

/-- There is nothing beside a place, neither a file nor a directory. -/
def IsAlone (t : Files) (path : FilePath) : Prop :=
  ∀ side ∈ path.sides, t.get? side = none

/-- **What the database system may do about the files beside a database**, which it takes for
its own. If there is nothing, it does nothing. -/
structure Settles (place : FilePath) (t t' : Files) : Prop where
  /-- Directories stay. -/
  directories : t'.directories = t.directories
  /-- Nothing changes but the database and the files beside it. -/
  elsewhere : ∀ path, path ≠ place → path ∉ place.sides →
    t'.files.lookup path = t.files.lookup path
  /-- Nothing changes at all without anything beside the database. -/
  idle : t.IsAlone place → t'.files = t.files

/-! ## Around a file -/

/-- **What there is beside a file**: the directories, and the files that are close to it. -/
def beside (path : FilePath) (t : Files) : List FilePath × List (Option FileData) :=
  (t.directories, path.sides.map fun side => t.files.lookup side)

/-- **What there is around a file**, the file among it. -/
def around (path : FilePath) (t : Files) :
    Option FileData × List FilePath × List (Option FileData) :=
  (t.files.lookup path, t.beside path)

theorem beside_eq_iff :
    t'.beside path = t.beside path ↔ t'.directories = t.directories ∧
      ∀ side ∈ path.sides, t'.files.lookup side = t.files.lookup side := by
  unfold beside
  rw [Prod.mk.injEq, List.map_inj_left]

theorem around_eq_iff :
    t'.around path = t.around path ↔
      t'.files.lookup path = t.files.lookup path ∧ t'.beside path = t.beside path := by
  unfold around
  rw [Prod.mk.injEq]

/-- **Nothing is beside a place** where nothing was, if no file was made there and there is no
directory. -/
theorem IsAlone.of_lookup (h : t.IsAlone path)
    (hsides : ∀ side ∈ path.sides, t'.files.lookup side = t.files.lookup side)
    (hfolders : ∀ side ∈ path.sides, t'.get? side ≠ some .directory) : t'.IsAlone path :=
  fun side hside => get?_eq_none_iff.2 ⟨hfolders side hside,
    (hsides side hside).trans (get?_eq_none_iff.1 (h side hside)).2⟩

theorem IsAlone.of_beside (h : t.IsAlone path) (hbeside : t'.beside path = t.beside path) :
    t'.IsAlone path := by
  obtain ⟨hdirectories, hsides⟩ := beside_eq_iff.1 hbeside
  refine h.of_lookup hsides fun side hside => ?_
  exact mt (get?_eq_directory_congr hdirectories).1 (get?_eq_none_iff.1 (h side hside)).1

/-- A file is not beside itself. -/
theorem beside_put (path : FilePath) (t : Files) (data : FileData) :
    (t.put path data).beside path = t.beside path := by
  refine beside_eq_iff.2 ⟨rfl, fun side hmem => lookup_put_of_ne ?_ t data⟩
  rintro rfl
  exact FilePath.not_mem_sides _ hmem

/-- The tree is the same around a file if one changes that is neither it nor beside it. -/
theorem around_put (hne : path ≠ place) (hside : place ∉ path.sides) (t : Files)
    (data : FileData) : (t.put place data).around path = t.around path := by
  refine around_eq_iff.2 ⟨lookup_put_of_ne hne t data, beside_eq_iff.2 ⟨rfl, fun side hmem => ?_⟩⟩
  refine lookup_put_of_ne ?_ t data
  rintro rfl
  exact hside hmem

/-- So it is if the database system settles another file that is not close. -/
theorem Settles.around (h : Settles place t t') (hne : path ≠ place) (hside : place ∉ path.sides)
    (hside' : path ∉ place.sides) : t'.around path = t.around path := by
  refine around_eq_iff.2 ⟨h.elsewhere _ hne hside',
    beside_eq_iff.2 ⟨h.directories, fun side hmem => ?_⟩⟩
  refine h.elsewhere side ?_ fun hmem' => hne (FilePath.eq_of_mem_sides hmem hmem')
  rintro rfl
  exact hside hmem

end Files

/-! ## Reaching a file again -/

namespace Surroundings

variable {σ : Type} {e : Surroundings σ} {s : σ}

/-- **A file that stands in its place can be reached**, by any texts that name the place and
directories. -/
theorem reaches_of_stands {directory file : String}
    (hmade : (e.files s).HasDirectories (e.startOf directory) (FilePath.names directory))
    (hstands : (e.files s).Stands (e.placeOf file)) :
    e.Reaches s directory file (e.placeOf file) := by
  refine ⟨?_, rfl⟩
  unfold makeFolder
  rw [hmade.createDirectoriesFrom]
  exact ⟨rfl, hstands.allowsFile⟩

/-- **A connection works past the tree around a file** that is another and not beside its own. -/
theorem connect_worksPast_around (he : e.IsLawful) {path place : FilePath} (hne : path ≠ place)
    (hside : place ∉ path.sides) :
    (e.connect place).WorksPast fun s => (e.files s).around path where
  drawn s := congrArg (Files.around path) (he.drawn s)
  disturbed s := congrArg (Files.around path) (he.disturbed s)
  replaced db s := by
    show (e.files (e.setFiles ((e.files s).put place (.database db)) s)).around path = _
    rw [he.replaced, Files.around_put hne hside]

/-- **A connection works past all that is beside its file.** -/
theorem connect_worksPast_beside (he : e.IsLawful) (path : FilePath) :
    (e.connect path).WorksPast fun s => (e.files s).beside path where
  drawn s := congrArg (Files.beside path) (he.drawn s)
  disturbed s := congrArg (Files.beside path) (he.disturbed s)
  replaced db s := by
    show (e.files (e.setFiles ((e.files s).put path (.database db)) s)).beside path = _
    rw [he.replaced, Files.beside_put]

end Surroundings

end InstructionStore
