import InstructionStore.Proofs.Store.Moments

/-!
# Files that are kept for one kind

A file that held nothing at first is made a database of the kind that gets to it first, by
one opening or by several that make its parts side by side. From then on it is of that kind,
however far openings have come, and whatever goes on between their statements
(`Surroundings.Moment.IsKept`). An opening that has come to make parts is one of that kind, and
a part it has no longer to make is there. Openings of the other kind get no further than the
tables.

Before the first table is made the file can still become the other kind: an opening that found
no tables may have been given up (`Surroundings.Moment.IsKept.advance`).

What could go wrong is ruled out by `Surroundings.Moment.IsApart`. It asks that no opening ever
tried a file that is beside this one, or that this one is beside, that nobody made a directory
beside it, and that no two openings found no tables in it and went on to make those of either
kind.

Each step is looked at in two parts: what becomes of the tree (`Surroundings.OpeningStep.evolves`,
`Surroundings.Moment.IsKept.evolves_of_refills`), and which stores and openings there are then.
-/

namespace InstructionStore

open Database

variable {σ : Type}

/-! ## The tree -/

namespace Files

variable {t t' : Files} {path : FilePath} {kind : Kind}

/-- What is in a file is begun for a kind, if it is a database. -/
def IsBegun (t : Files) (path : FilePath) (kind : Kind) : Prop :=
  ∀ db, t.contents path = some db → db.IsBegun kind

/-- A part of a database is there in a file. -/
def HasPart (t : Files) (path : FilePath) (kind : Kind) (part : Part) : Prop :=
  ∃ db, t.contents path = some db ∧ db.HasPart kind part

/-- A file holds a complete database of a kind. -/
def IsFor (t : Files) (path : FilePath) (kind : Kind) : Prop :=
  ∃ db, t.contents path = some db ∧ db.IsFor kind

theorem isFor_of_hasPart (hbegun : t.IsBegun path kind)
    (hparts : ∀ part ∈ kind.parts, t.HasPart path kind part) : t.IsFor path kind := by
  obtain ⟨db, hdb, -⟩ := hparts .state (List.mem_append_right _ List.mem_cons_self)
  refine ⟨db, hdb, .of_hasPart (hbegun db hdb) fun part hpart => ?_⟩
  obtain ⟨db', hdb', hthere⟩ := hparts part hpart
  exact Option.some.inj (hdb'.symm.trans hdb) ▸ hthere

theorem IsFor.hasPart (h : t.IsFor path kind) {part : Part} (hpart : part ∈ kind.parts) :
    t.HasPart path kind part := by
  obtain ⟨db, hdb, hfor⟩ := h
  exact ⟨db, hdb, hfor.hasPart part hpart⟩

/-- **The tree evolves around a file** that is kept for a kind. -/
structure Evolves (kind : Kind) (path : FilePath) (t t' : Files) : Prop
    extends Grows path t t' where
  /-- There is nothing beside it. -/
  alone : t'.IsAlone path
  /-- The database is begun for the kind. -/
  begun : t'.IsBegun path kind
  /-- Its parts stay. -/
  parts : ∀ part ∈ kind.parts, t.HasPart path kind part → t'.HasPart path kind part

/-- A database that is complete stays so. -/
theorem Evolves.isFor (h : Evolves kind path t t') (hfor : t.IsFor path kind) :
    t'.IsFor path kind :=
  isFor_of_hasPart h.begun fun part hpart => h.parts part hpart (hfor.hasPart hpart)

/-- **It evolves without work** on a database that is complete. -/
structure EvolvesIdly (kind : Kind) (path : FilePath) (t t' : Files) : Prop
    extends Evolves kind path t t' where
  /-- This stays as it is. -/
  complete : ∀ {db}, t.contents path = some db → db.IsFor kind → t'.contents path = some db

section
variable (hbegun : t.IsBegun path kind)
include hbegun

/-- The file is as it was, or is made and holds nothing. -/
theorem evolvesIdly_of_contents (hgrows : Grows path t t') (halone : t'.IsAlone path)
    (hcontents : t'.contents path = t.contents path ∨
      t.contents path = none ∧ t'.contents path = some .empty) :
    EvolvesIdly kind path t t' := by
  rcases hcontents with hsame | ⟨hnone, hempty⟩
  · refine ⟨⟨hgrows, halone, fun db hdb => hbegun db (hsame ▸ hdb), ?_⟩, ?_⟩
    · rintro part - ⟨db, hdb, hthere⟩
      exact ⟨db, hsame.trans hdb, hthere⟩
    · exact fun hdb _ => hsame.trans hdb
  · refine ⟨⟨hgrows, halone, ?_, ?_⟩, ?_⟩
    · rintro db hdb
      obtain rfl : Contents.empty = db := Option.some.inj (hempty.symm.trans hdb)
      exact .of_new rfl kind
    · rintro part - ⟨db, hdb, -⟩
      exact nomatch hnone.symm.trans hdb
    · exact fun hdb => nomatch hnone.symm.trans hdb

/-- A part of the kind is made. -/
theorem evolvesIdly_of_make (hgrows : Grows path t t') (halone : t'.IsAlone path)
    {db db' : Contents} {now : Int64} {part : Part} (hpart : part ∈ kind.parts)
    (hdb : t.contents path = some db) (hdb' : t'.contents path = some db')
    (hmake : kind.make now part db = .ok ((), db')) : EvolvesIdly kind path t t' := by
  obtain ⟨hbegun', -, hothers⟩ := (hbegun db hdb).make hpart hmake
  refine ⟨⟨hgrows, halone, ?_, ?_⟩, ?_⟩
  · intro db'' hdb''
    obtain rfl := Option.some.inj (hdb'.symm.trans hdb'')
    exact hbegun'
  · rintro other - ⟨db'', hdb'', hother⟩
    obtain rfl := Option.some.inj (hdb.symm.trans hdb'')
    exact ⟨db', hdb', hothers other hother⟩
  · intro db'' hdb'' hfor
    obtain rfl := Option.some.inj (hdb.symm.trans hdb'')
    have hsame : db = db' :=
      congrArg Prod.snd (Except.ok.inj ((hfor.make hpart now).symm.trans hmake))
    exact hsame ▸ hdb'

/-- All is as it was around the file. -/
theorem evolvesIdly_of_around (halone : t.IsAlone path) (h : t'.around path = t.around path) :
    EvolvesIdly kind path t t' := by
  obtain ⟨hlookup, hbeside⟩ := around_eq_iff.1 h
  refine evolvesIdly_of_contents hbegun
    (grows_of_lookup (beside_eq_iff.1 hbeside).1 fun hthere => ?_)
    (halone.of_beside hbeside) (.inl (contents_congr hlookup))
  rw [hlookup]
  exact hthere

end

end Files

namespace Surroundings

variable {e : Surroundings σ} {s s' : σ} {path : FilePath} {kind : Kind} {t t' : Files}

/-! ## Statements -/

/-- The tree grows around a file with each statement of an opening of it. -/
theorem advance_grows (he : e.IsLawful) (path : FilePath) (kind : Kind) (stage : Stage) (s : σ) :
    Files.Grows path (e.files s) (e.files ((e.connect path).advance kind stage s).2) := by
  have hc := connect_isLawful he path
  have hbeside := (Connection.advance_keeps (connect_worksPast_beside he path) kind stage).eq s
  refine Files.grows_of_lookup (Files.beside_eq_iff.1 hbeside).1 fun hthere => ?_
  cases hs : (e.files s).contents path with
  | none =>
    have hpast : (e.connect path).ReadsPast e.files := ⟨he.drawn, he.disturbed⟩
    rw [Connection.advance_of_none hc hpast kind stage hs]
    exact hthere
  | some db =>
    have hsome := (Connection.advances hc kind stage s).isSome (Option.isSome_iff_exists.2 ⟨db, hs⟩)
    obtain ⟨db', hdb'⟩ := Option.isSome_iff_exists.1 hsome
    exact Files.isSome_lookup_of_contents hdb'

/-! ## Openings and stores -/

/-- **What is kept of an opening** of a file that is kept for a kind. -/
structure Underway.IsKept (u : Underway) (e : Surroundings σ) (t : Files) (kind : Kind) :
    Prop where
  /-- The configuration names a file. -/
  named : NamesFile (u.config.fileFor u.kind)
  /-- It leads to this one. -/
  leads : e.Leads t u.config u.kind u.path
  /-- If the opening has come past the tables, it is one of the kind. -/
  ahead : u.stage ≠ .tables → u.kind = kind
  /-- If it has come to make parts, those that it has not to make are there. -/
  made : ∀ {rest}, u.stage = .making rest → (∀ part ∈ rest, part ∈ kind.parts) ∧
    ∀ part ∈ kind.parts, part ∉ rest → t.HasPart u.path kind part

/-- **What is kept of a store** in such a file. -/
structure Opened.IsKept (o : Opened) (e : Surroundings σ) (t : Files) (kind : Kind) : Prop where
  /-- The store is of the kind. -/
  same : o.kind = kind
  /-- The handle tells the directory of the configuration. -/
  directory : o.handle.directory = o.config.storageDirectory
  /-- The configuration names a file. -/
  named : NamesFile (o.config.fileFor o.kind)
  /-- It leads to this one. -/
  leads : e.Leads t o.config o.kind o.handle.path
  /-- The database is complete. -/
  database : t.IsFor o.handle.path kind

theorem Opened.IsKept.of_evolves {o : Opened} (h : o.IsKept e t kind)
    (hevolves : Files.Evolves kind o.handle.path t t') : o.IsKept e t' kind :=
  ⟨h.same, h.directory, h.named, h.leads.mono hevolves.toGrows, hevolves.isFor h.database⟩

namespace Underway.IsKept

variable {u : Underway}

theorem of_evolves (h : u.IsKept e t kind) (hevolves : Files.Evolves kind u.path t t') :
    u.IsKept e t' kind where
  named := h.named
  leads := h.leads.mono hevolves.toGrows
  ahead := h.ahead
  made hstage :=
    have ⟨hrest, hthere⟩ := h.made hstage
    ⟨hrest, fun part hpart hnot => hevolves.parts part hpart (hthere part hpart hnot)⟩

/-- When nothing is left to make, the store that is opened is kept. -/
theorem opened (h : u.IsKept e t kind) (hbegun : t.IsBegun u.path kind)
    (hdone : u.stage = .making []) : u.opened.IsKept e t kind where
  same := h.ahead (by rw [hdone]; nofun)
  directory := rfl
  named := h.named
  leads := h.leads
  database := Files.isFor_of_hasPart hbegun fun part hpart =>
    (h.made hdone).2 part hpart List.not_mem_nil

/-- **An opening of the kind goes on.** -/
theorem advance (h : u.IsKept e t u.kind) (hbegun : t.IsBegun u.path u.kind)
    (hevolves : Files.Evolves u.kind u.path t t') {stage : Stage}
    (hadvances : Connection.Advances u.kind (t.contents u.path) u.stage (.ok stage)
      (t'.contents u.path)) :
    ({ u with stage := stage } : Underway).IsKept e t' u.kind := by
  have hkept := h.of_evolves hevolves
  refine ⟨hkept.named, hkept.leads, fun _ => rfl, fun {rest} hstage => ?_⟩
  obtain rfl : stage = .making rest := hstage
  have hall : (∀ part ∈ u.kind.parts, part ∈ u.kind.parts) ∧
      ∀ part ∈ u.kind.parts, part ∉ u.kind.parts → t'.HasPart u.path u.kind part :=
    ⟨fun _ => id, fun _ hpart hnot => absurd hpart hnot⟩
  generalize hbefore : t.contents u.path = before at hadvances
  generalize hafter : t'.contents u.path = after at hadvances
  generalize hat : u.stage = stage at hadvances
  cases hadvances with
  | none | state => exact hall
  | done => exact hkept.made hat
  | @made db db' _ part _ contents makes =>
    obtain ⟨hrest, hthere⟩ := hkept.made hat
    obtain ⟨hpart, hrest⟩ := List.forall_mem_cons.1 hrest
    refine ⟨hrest, fun other hother hnot => ?_⟩
    by_cases hsame : other = part
    · subst hsame
      exact ⟨db', hafter, ((hbegun db (hbefore.trans contents)).make hpart makes).2.1⟩
    · exact hthere other hother fun hmem => (List.mem_cons.1 hmem).elim hsame hnot

end Underway.IsKept

/-! ## Moments -/

namespace Moment

/-- **A file is kept apart** from the others up to a moment. -/
structure IsApart (m : Moment σ) (e : Surroundings σ) (path : FilePath) : Prop where
  /-- Nobody tried a file that is beside it. -/
  beside : ∀ place ∈ m.tried, place ∉ path.sides
  /-- Or one that it is beside. -/
  behind : ∀ place ∈ m.tried, path ∉ place.sides
  /-- There is no directory beside it. -/
  folders : ∀ side ∈ path.sides, (e.files m.state).get? side ≠ some .directory
  /-- And it was not contested. -/
  uncontested : path ∉ m.contested

/-- A file that is kept apart was kept apart before. -/
theorem Before.isApart {m m' : Moment σ} (h : m.Before e m') (apart : m'.IsApart e path) :
    m.IsApart e path where
  beside place hplace := apart.beside place (h.tried hplace)
  behind place hplace := apart.behind place (h.tried hplace)
  folders side hside hdirectory := apart.folders side hside (h.folders hdirectory)
  uncontested hmem := apart.uncontested (h.contested hmem)

/-- **A file is kept for a kind.** -/
structure IsKept (m : Moment σ) (e : Surroundings σ) (kind : Kind) (path : FilePath) :
    Prop where
  /-- There is nothing beside it. -/
  alone : (e.files m.state).IsAlone path
  /-- If it is a database, this is begun for the kind. -/
  begun : (e.files m.state).IsBegun path kind
  /-- The openings of the file are kept. -/
  underway : ∀ u ∈ m.underway, u.path = path → u.IsKept e (e.files m.state) kind
  /-- So are the stores in it. -/
  opened : ∀ o ∈ m.opened, o.handle.path = path → o.IsKept e (e.files m.state) kind

namespace IsKept

variable {m m' : Moment σ}

/-- It is kept while the tree evolves. -/
theorem of_evolves (h : m.IsKept e kind path)
    (hevolves : Files.Evolves kind path (e.files m.state) (e.files s)) :
    ({ m with state := s } : Moment σ).IsKept e kind path where
  alone := hevolves.alone
  begun := hevolves.begun
  underway u hu hpath := (h.underway u hu hpath).of_evolves (hpath ▸ hevolves)
  opened o ho hpath := (h.opened o ho hpath).of_evolves (hpath ▸ hevolves)

/-! ### What becomes of the tree -/

/-- **A statement of an opening**, of this file or of another one that is not close to it. -/
theorem evolves_of_advance (he : e.IsLawful) (h : m.IsKept e kind path) {u : Underway}
    (mem : u ∈ m.underway) (hside : u.path ∉ path.sides) :
    Files.EvolvesIdly kind path (e.files m.state)
      (e.files ((e.connect u.path).advance u.kind u.stage m.state).2) := by
  by_cases hpath : u.path = path
  · subst hpath
    have hkept := h.underway u mem rfl
    have hgrows := advance_grows he u.path u.kind u.stage m.state
    have hbeside := (Connection.advance_keeps (connect_worksPast_beside he u.path) u.kind
      u.stage).eq m.state
    have hadvances := Connection.advances (connect_isLawful he u.path) u.kind u.stage m.state
    generalize (e.connect u.path).advance u.kind u.stage m.state = run at hgrows hbeside hadvances ⊢
    change Connection.Advances _ ((e.files m.state).contents u.path) _ _
      ((e.files run.2).contents u.path) at hadvances
    have hsame (hcontents : (e.files run.2).contents u.path = (e.files m.state).contents u.path) :=
      Files.evolvesIdly_of_contents h.begun hgrows (h.alone.of_beside hbeside) (.inl hcontents)
    generalize hbefore : (e.files m.state).contents u.path = before at hadvances hsame
    generalize hafter : (e.files run.2).contents u.path = after at hadvances hsame
    generalize hstage : u.stage = stage at hadvances
    generalize run.1 = result at hadvances
    cases hadvances with
    | failed | none | tables | state | done => exact hsame rfl
    | made contents makes =>
      obtain rfl : u.kind = kind := hkept.ahead (by rw [hstage]; nofun)
      exact Files.evolvesIdly_of_make h.begun hgrows (h.alone.of_beside hbeside)
        ((hkept.made hstage).1 _ List.mem_cons_self) (hbefore.trans contents) hafter makes
  · have hpast := connect_worksPast_around he (Ne.symm hpath) hside
    exact Files.evolvesIdly_of_around h.begun h.alone
      ((Connection.advance_keeps hpast u.kind u.stage).eq m.state)

/-- **The database system settles** the files beside a database that is not close to this file.
If it is the one in this file, there is nothing beside it that could be settled. -/
theorem evolves_of_settles (h : m.IsKept e kind path) {place : FilePath}
    (hbeside : place ∉ path.sides) (hbehind : path ∉ place.sides)
    (settles : Files.Settles place (e.files m.state) (e.files s)) :
    Files.EvolvesIdly kind path (e.files m.state) (e.files s) := by
  refine Files.evolvesIdly_of_around h.begun h.alone ?_
  by_cases hplace : path = place
  · subst hplace
    have hsame := settles.idle h.alone
    exact Files.around_eq_iff.2 ⟨by rw [hsame],
      Files.beside_eq_iff.2 ⟨settles.directories, fun _ _ => by rw [hsame]⟩⟩
  · exact settles.around hplace hbeside hbehind

/-- **A file is reached**, this one or another one that is not beside it. -/
theorem evolves_of_reach (he : e.IsLawful) (h : m.IsKept e kind path) {directory file : String}
    {place : FilePath} (run : e.reach directory file m.state = (.ok place, s))
    (hside : place ∉ path.sides)
    (hfolders : ∀ side ∈ path.sides, (e.files s).get? side ≠ some .directory) :
    Files.EvolvesIdly kind path (e.files m.state) (e.files s) := by
  obtain ⟨rfl, -, -⟩ := reach_eq_ok he run
  have hgrows := reach_grows he path directory file m.state
  have hother := fun path (hne : path ≠ e.placeOf file) =>
    lookup_reach_of_ne he hne directory m.state
  have hthis := lookup_reach he directory file m.state
  rw [run] at hgrows hother hthis
  have halone : (e.files s).IsAlone path := by
    refine h.alone.of_lookup (fun side hmem => hother side ?_) hfolders
    rintro rfl
    exact hside hmem
  refine Files.evolvesIdly_of_contents h.begun hgrows halone ?_
  by_cases hpath : path = e.placeOf file
  · subst hpath
    refine hthis.imp Files.contents_congr fun ⟨hnone, hempty⟩ => ?_
    unfold Files.contents
    rw [hnone, hempty]
    exact ⟨rfl, rfl⟩
  · exact .inl (Files.contents_congr (hother path hpath))

/-- **Work with a store** that was opened, in this file or in another one that is not close to
it. -/
theorem evolves_of_refills (he : e.IsLawful) (h : m.IsKept e kind path) {o : Opened}
    (mem : o ∈ m.opened) (hside : o.handle.path ∉ path.sides)
    (hrefills : ∀ {db}, (e.files m.state).contents o.handle.path = some db →
      ∃ db', (e.files s).contents o.handle.path = some db' ∧ db.Refills db')
    (hkeeps : ∀ {τ : Type} {view : σ → τ}, (e.connect o.handle.path).WorksPast view →
      view s = view m.state) :
    Files.Evolves kind path (e.files m.state) (e.files s) := by
  by_cases hpath : o.handle.path = path
  · subst hpath
    obtain ⟨db, hdb, hfor⟩ := (h.opened o mem rfl).database
    obtain ⟨db', hdb', hrefills⟩ := hrefills hdb
    have hbeside := hkeeps (connect_worksPast_beside he o.handle.path)
    have hfor' := hfor.refills hrefills
    refine ⟨Files.grows_of_lookup (Files.beside_eq_iff.1 hbeside).1 fun _ =>
      Files.isSome_lookup_of_contents hdb', h.alone.of_beside hbeside, ?_, ?_⟩
    · intro db'' hdb''
      exact Option.some.inj (hdb'.symm.trans hdb'') ▸ hfor'.isBegun
    · exact fun part hpart _ => ⟨db', hdb', hfor'.hasPart part hpart⟩
  · have hpast := connect_worksPast_around he (Ne.symm hpath) hside
    exact (Files.evolvesIdly_of_around h.begun h.alone (hkeeps hpast)).toEvolves

end IsKept

end Moment

variable {m m' : Moment σ}

/-- **A step of an opening** lets the tree evolve around a file that is kept apart. A complete
database in it stays as it is. -/
theorem OpeningStep.evolves (he : e.IsLawful) (steps : OpeningStep e m m')
    (h : m.IsKept e kind path) (record : m.IsOnRecord) (apart : m'.IsApart e path) :
    Files.EvolvesIdly kind path (e.files m.state) (e.files m'.state) := by
  have hadvance {u : Underway} (mem : u ∈ m.underway) :=
    h.evolves_of_advance he mem (apart.beside _ ((steps.before he).tried (record.underway u mem)))
  cases steps with
  | elsewhere same => exact Files.evolvesIdly_of_around h.begun h.alone (congrArg _ same)
  | folders start names dotted makes =>
    have hfiles := Files.files_createDirectoriesFrom start names dotted (e.files m.state)
    have hgrows := Files.createDirectoriesFrom_grows path start names dotted (e.files m.state)
    rw [← makes] at hfiles hgrows
    have hsame (path : FilePath) := congrArg (List.lookup path) hfiles
    exact Files.evolvesIdly_of_contents h.begun hgrows
      (h.alone.of_lookup (fun side _ => hsame side) apart.folders)
      (.inl (Files.contents_congr (hsame path)))
  | @settles place tried s settles =>
    exact h.evolves_of_settles (apart.beside place tried) (apart.behind place tried) settles
  | @reaches kind' config named place s run =>
    exact h.evolves_of_reach he run (apart.beside place List.mem_cons_self) apart.folders
  | @misses kind' config failure s run =>
    have hgrows := reach_grows he path config.storageDirectory (config.fileFor kind') m.state
    have hsame := lookup_reach_of_error he run
    rw [run] at hgrows
    exact Files.evolvesIdly_of_contents h.begun hgrows
      (h.alone.of_lookup (fun side _ => hsame side) apart.folders)
      (.inl (Files.contents_congr (hsame path)))
  | @goesOn u mem stage s run more =>
    have hevolves := hadvance mem
    rwa [run] at hevolves
  | @opens u mem s run =>
    have hevolves := hadvance mem
    rwa [run] at hevolves
  | @fails u mem failure s run =>
    have hevolves := hadvance mem
    rwa [run] at hevolves
  | givesUp => exact Files.evolvesIdly_of_around h.begun h.alone rfl

namespace Moment.IsKept

/-- **An opening that goes on** decides the kind if nothing was in the file so far. -/
theorem of_advances (h : m.IsKept e kind path) {u : Underway} (mem : u ∈ m.underway)
    (hpath : u.path = path) {stage : Stage} {after : Option Contents}
    (hadvances : Connection.Advances u.kind ((e.files m.state).contents path) u.stage (.ok stage)
      after)
    (uncontested : path ∉ m.contestedBy u) : m.IsKept e u.kind path := by
  by_cases hkind : u.kind = kind
  · rwa [hkind]
  have hstage : u.stage = .tables :=
    Decidable.byContradiction fun hnot => hkind ((h.underway u mem hpath).ahead hnot)
  generalize hbefore : (e.files m.state).contents path = before at hadvances
  rw [hstage] at hadvances
  cases hadvances with
  | @tables db contents passes =>
    exact absurd ((h.begun db (hbefore.trans contents)).eq_of_inspectTables passes).symm hkind
  | @none db contents passes =>
    have hdb := hbefore.trans contents
    have hnew := (h.begun db hdb).tableNames_of_inspectTables passes
    have hvacant := (Contents.tableNames_eq_nil_iff.1 hnew).1
    refine ⟨h.alone, fun db' hdb' => ?_, fun v hv hpath' => ?_, fun o ho hpath' => ?_⟩
    · exact .of_new (Option.some.inj (hdb.symm.trans hdb') ▸ hnew) u.kind
    · have hkept := h.underway v hv hpath'
      -- An opening of the other kind that has come further would be a rival.
      have htables : v.stage = .tables := Decidable.byContradiction fun hahead => uncontested (by
        have hrival : v.isRivalOf u = true := by
          unfold Underway.isRivalOf
          have hother : v.kind ≠ u.kind := hkept.ahead hahead ▸ Ne.symm hkind
          rw [Bool.and_eq_true, Bool.and_eq_true, decide_eq_true_iff, bne_iff_ne, bne_iff_ne]
          exact ⟨⟨hpath'.trans hpath.symm, hother⟩, hahead⟩
        have hne : v ≠ u := by
          rintro rfl
          exact hahead hstage
        unfold contestedBy
        rw [if_pos, ← hpath]
        · exact List.mem_cons_self
        · rw [Bool.and_eq_true, decide_eq_true_iff, List.any_eq_true]
          exact ⟨hstage, v, (List.mem_erase_of_ne hne).2 hv, hrival⟩)
      exact ⟨hkept.named, hkept.leads, fun hahead => absurd htables hahead,
        fun hmaking => nomatch htables.symm.trans hmaking⟩
    · obtain ⟨db', hdb', hfor⟩ := (h.opened o ho hpath').database
      obtain rfl := Option.some.inj (hdb.symm.trans (hpath' ▸ hdb'))
      obtain ⟨rows, hrows⟩ := hfor.tables kind.statePlace (Kind.statePlace_mem_iff.2 rfl)
      exact nomatch hrows.symm.trans (hvacant _)

/-- Openings are over. -/
theorem erase (h : m.IsKept e kind path) (u : Underway) :
    ({ m with underway := m.underway.erase u } : Moment σ).IsKept e kind path :=
  ⟨h.alone, h.begun, fun v hv => h.underway v (List.mem_of_mem_erase hv), h.opened⟩

/-- **A step of an opening keeps a file for a kind**, for the one it was kept for unless nothing
was in it. -/
theorem openingStep (he : e.IsLawful) (h : m.IsKept e kind path) (record : m.IsOnRecord)
    (apart : m'.IsApart e path) (steps : OpeningStep e m m') :
    ∃ kind', m'.IsKept e kind' path := by
  have hevolves {kind : Kind} (h : m.IsKept e kind path) := steps.evolves he h record apart
  have hadvances (u : Underway) :=
    Connection.advances (connect_isLawful he u.path) u.kind u.stage m.state
  cases steps with
  | elsewhere | folders | settles | misses =>
    exact ⟨kind, h.of_evolves (hevolves h).toEvolves⟩
  | @reaches kind' config named place s run =>
    obtain ⟨hplace, hfolder, hstands⟩ := reach_eq_ok he run
    have hkept := h.of_evolves (hevolves h).toEvolves
    refine ⟨kind, hkept.alone, hkept.begun, List.forall_mem_cons.2 ⟨fun _ => ?_, hkept.underway⟩,
      hkept.opened⟩
    exact ⟨named, ⟨hfolder, hplace.symm, hstands⟩, fun hnot => absurd rfl hnot, nofun⟩
  | @goesOn u mem stage s run more =>
    have hadvances := hadvances u
    rw [run] at hadvances
    by_cases hpath : u.path = path
    · subst hpath
      have h := h.of_advances mem rfl hadvances apart.uncontested
      have hevolves := (hevolves h).toEvolves
      have hkept := (h.of_evolves hevolves).erase u
      exact ⟨u.kind, hkept.alone, hkept.begun, List.forall_mem_cons.2
        ⟨fun _ => (h.underway u mem rfl).advance h.begun hevolves hadvances, hkept.underway⟩,
        hkept.opened⟩
    · have hkept := (h.of_evolves (hevolves h).toEvolves).erase u
      exact ⟨kind, hkept.alone, hkept.begun,
        List.forall_mem_cons.2 ⟨fun hthis => absurd hthis hpath, hkept.underway⟩, hkept.opened⟩
  | @opens u mem s run =>
    have hadvances := hadvances u
    rw [run] at hadvances
    have hkept := (h.of_evolves (hevolves h).toEvolves).erase u
    refine ⟨kind, hkept.alone, hkept.begun, hkept.underway,
      List.forall_mem_cons.2 ⟨fun (hpath : u.path = path) => ?_, hkept.opened⟩⟩
    subst hpath
    have hu := h.underway u mem rfl
    obtain rfl := hu.ahead hadvances.ne_tables
    exact (hu.advance h.begun (hevolves h).toEvolves hadvances).opened hkept.begun rfl
  | @fails u mem failure s run => exact ⟨kind, (h.of_evolves (hevolves h).toEvolves).erase u⟩
  | givesUp u => exact ⟨kind, h.erase u⟩

/-- **Every step keeps a file for a kind.** -/
theorem step (he : e.IsLawful) (h : m.IsKept e kind path) (record : m.IsOnRecord)
    (apart : m'.IsApart e path) (steps : Step e m m') : ∃ kind', m'.IsKept e kind' path := by
  have hside {o : Opened} (mem : o ∈ m.opened) : o.handle.path ∉ path.sides :=
    apart.beside _ ((steps.before he).tried (record.opened o mem))
  cases steps with
  | opening steps => exact h.openingStep he record apart steps
  | work mem works =>
    exact ⟨kind, h.of_evolves (h.evolves_of_refills he mem (hside mem)
      (works.refills (connect_isLawful he _)) works.keeps)⟩
  | commit mem key body author =>
    refine ⟨kind, h.of_evolves (h.evolves_of_refills he mem (hside mem) (fun hdb => ?_)
      fun hpast => (History.commit_keeps hpast key body author).eq m.state)⟩
    exact Connection.KeepsTables.refills
      (History.commit_keepsTables (connect_isLawful he _) key body author) hdb

end Moment.IsKept

/-! ## Runs -/

/-- **Every run from the start keeps a file for a kind**, if the file was not there at first, or
had no tables, and was kept apart. -/
theorem Run.isKept (he : e.IsLawful) {s₀ : σ} (alone : (e.files s₀).IsAlone path)
    (new : ∀ db, (e.files s₀).contents path = some db → db.tableNames = [])
    (runs : e.Run (.start s₀) m) (apart : m.IsApart e path) :
    m.IsOnRecord ∧ ∃ kind, m.IsKept e kind path := by
  induction runs with
  | refl =>
    exact ⟨⟨nofun, nofun⟩, .records, alone, fun db hdb => .of_new (new db hdb) _, nofun, nofun⟩
  | tail _ steps ih =>
    obtain ⟨hrecord, kind, hkept⟩ := ih ((steps.before he).isApart apart)
    exact ⟨steps.isOnRecord hrecord, hkept.step he hrecord apart steps⟩

/-- **Openings leave a complete database as it is**, whatever comes of them and however they
come between each other. -/
theorem OpeningRun.contents (he : e.IsLawful) (runs : e.OpeningRun m m') (record : m.IsOnRecord)
    (kept : m.IsKept e kind path) (apart : m'.IsApart e path) {db : Contents}
    (hdb : (e.files m.state).contents path = some db) (hfor : db.IsFor kind) :
    m'.IsOnRecord ∧ m'.IsKept e kind path ∧ (e.files m'.state).contents path = some db := by
  induction runs with
  | refl => exact ⟨record, kept, hdb⟩
  | tail _ steps ih =>
    obtain ⟨hrecord, hkept, hdb⟩ := ih ((steps.before he).isApart apart)
    have hdb' := (steps.evolves he hkept hrecord apart).complete hdb hfor
    obtain ⟨kind', hkept'⟩ := hkept.openingStep he hrecord apart steps
    obtain rfl := hfor.eq_of_isBegun (hkept'.begun _ hdb')
    exact ⟨steps.isOnRecord hrecord, hkept', hdb'⟩

end Surroundings

end InstructionStore
