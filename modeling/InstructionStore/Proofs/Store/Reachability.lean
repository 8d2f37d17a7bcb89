import InstructionStore.Proofs.Store.Operations

/-!
# The states a store can be in

A store is opened on a database without tables, and then its operations are carried
out one after another, in any order, while the rest of the state changes as it will
(`Store.Step`, `Store.IsReachable`). A save counts as its first and its last step,
between which anything can happen; a whole save is two steps with the commit of a
history between them (`Store.IsReachable.save`).

Whatever a step does, it makes one change to the tables or none (`Store.Step.change`),
and what every change preserves holds in every state that is reached. **In every such
state the tables hold the rows for some records** (`Store.IsReachable.holds`).
-/

namespace InstructionStore

open Database

/-- The records of a store that was just made. -/
def Records.empty : Records where
  accounts := []
  documents := []
  live := fun _ h => nomatch h
  ids_nodup := List.nodup_nil
  names_nodup := List.nodup_nil
  emails_nodup := List.nodup_nil
  documentIds_nodup := List.nodup_nil
  slots_nodup := List.nodup_nil

namespace Store

variable {σ : Type}

/-- **One step of a store**, or of what goes on around it. An operation counts
whether or not it fails. -/
inductive Step (c : Connection σ) : σ → σ → Prop
  /-- The rest of the state changes. -/
  | elsewhere {s s' : σ} (same : c.contents s' = c.contents s) : Step c s s'
  /-- The store is opened once more. -/
  | reopen (s : σ) : Step c s (c.openRecords s).2
  /-- An account is opened. -/
  | createAccount (request : Signup) (s : σ) : Step c s (createAccount c request s).2
  /-- An account is deleted. -/
  | deleteAccount (account : Account) (s : σ) : Step c s (deleteAccount c account s).2
  /-- The last step of a save whose first step was taken in some other state. -/
  | persist {owner : Account} {request : SaveRequest} {p : Pending} {before between : σ}
    (prepared : prepare c owner request before = (.ok p, between)) (s : σ) :
    Step c s (persist c p s).2
  /-- A document is deleted. -/
  | deleteDocument (document : Document) (s : σ) : Step c s (deleteDocument c document s).2

/-- **An operation of a store that saves nothing**, or what goes on around it. -/
inductive Operation (c : Connection σ) : σ → σ → Prop
  /-- The rest of the state changes. -/
  | elsewhere {s s' : σ} (same : c.contents s' = c.contents s) : Operation c s s'
  /-- The store is opened once more. -/
  | reopen (s : σ) : Operation c s (c.openRecords s).2
  /-- An account is opened. -/
  | createAccount (request : Signup) (s : σ) : Operation c s (createAccount c request s).2
  /-- An account is deleted. -/
  | deleteAccount (account : Account) (s : σ) : Operation c s (deleteAccount c account s).2
  /-- A document is deleted. -/
  | deleteDocument (document : Document) (s : σ) :
    Operation c s (deleteDocument c document s).2

/-- **The states a store can be in.** -/
inductive IsReachable (c : Connection σ) : σ → Prop
  /-- The store was opened on a database without tables. -/
  | opened {s s' : σ} (new : c.contents s = some .empty) (opens : c.openRecords s = (.ok (), s')) :
    IsReachable c s'
  /-- One step was taken from a state it can be in. -/
  | step {s s' : σ} (reachable : IsReachable c s) (steps : Step c s s') : IsReachable c s'

/-- Whether the tables hold the rows for some records. -/
def HoldsRecords (c : Connection σ) (s : σ) : Prop :=
  ∃ db r, c.contents s = some db ∧ db.Holds r

/-! ## What a step changes -/

variable {c : Connection σ}

/-- **A change to the contents of the database of a store that saves nothing**, or
none. -/
inductive Upkeep (db : Contents) : Contents → Prop
  /-- Nothing is changed. -/
  | none : Upkeep db db
  /-- Tables that are missing are made. -/
  | install {db' : Contents} (adds : db.Extends db') : Upkeep db db'
  /-- The row of an account is added. -/
  | openAccount {a : Account} {db' : Contents} (live : a.IsLive)
    (inserts : Contents.insertAccount a db = .ok ((), db')) : Upkeep db db'
  /-- The row of an account is moved to the archive. -/
  | closeAccount {id : AccountId} {now : Int64} {between db' : Contents}
    (archives : Contents.archiveAccount id now db = .ok ((), between))
    (removes : Contents.removeAccount id between = .ok ((), db')) : Upkeep db db'
  /-- A document is removed. -/
  | removeDocument {id : InstructionId} {removed : Bool} {db' : Contents}
    (removes : Contents.removeDocument id db = .ok (removed, db')) : Upkeep db db'

/-- **One change to the contents of the database of a store**, or none. Whatever a
step does, it comes to one of these. -/
inductive Change (c : Connection σ) (db : Contents) : Contents → Prop
  /-- Nothing is saved. -/
  | upkeep {db' : Contents} (keeps : Upkeep db db') : Change c db db'
  /-- A document is recorded. -/
  | record {p : Pending} {now : Int64} {s s' : σ} {db' : Contents} (sound : p.document.IsSound)
    (records : record c p now (s, db) = (.ok (), (s', db'))) : Change c db db'

/-- Work that is done as a whole or not at all is upkeep if what it does is. -/
theorem exists_upkeep {ε α : Type} {task : Task σ ε α}
    {change : Contents → α → Contents → Prop} (h : c.IsAtomic task change)
    (keeps : ∀ db a db', change db a db' → Upkeep db db') {s : σ} {db : Contents}
    (hs : c.contents s = some db) :
    ∃ db', c.contents (task s).2 = some db' ∧ Upkeep db db' := by
  rcases h s db hs with ⟨e, -, hs'⟩ | ⟨a, db', -, hs', hchange⟩
  · exact ⟨db, hs', .none⟩
  · exact ⟨db', hs', keeps db a db' hchange⟩

/-- **An operation that saves nothing** is upkeep. -/
theorem Operation.upkeep (hc : c.IsLawful) {s s' : σ} (operates : Operation c s s')
    {db : Contents} (hs : c.contents s = some db) :
    ∃ db', c.contents s' = some db' ∧ Upkeep db db' := by
  cases operates with
  | elsewhere same => exact ⟨db, same.trans hs, .none⟩
  | reopen =>
    obtain ⟨db', hs', hextends⟩ := openRecords_extends hc hs
    exact ⟨db', hs', .install hextends⟩
  | createAccount request =>
    exact exists_upkeep (createAccount_isAtomic hc request)
      (fun _ _ _ ⟨live, inserts⟩ => .openAccount live inserts) hs
  | deleteAccount account =>
    exact exists_upkeep (deleteAccount_isAtomic hc account)
      (fun _ _ _ ⟨_, _, archives, removes⟩ => .closeAccount archives removes) hs
  | deleteDocument document =>
    exact exists_upkeep (deleteDocument_isAtomic hc document)
      (fun _ _ _ removes => .removeDocument removes) hs

/-- **One step makes one change**, or none. -/
theorem Step.change (hc : c.IsLawful) {s s' : σ} (steps : Step c s s') {db : Contents}
    (hs : c.contents s = some db) : ∃ db', c.contents s' = some db' ∧ Change c db db' := by
  have hupkeep (operates : Operation c s s') :
      ∃ db', c.contents s' = some db' ∧ Change c db db' :=
    (operates.upkeep hc hs).imp fun _ => And.imp_right .upkeep
  cases steps with
  | elsewhere same => exact hupkeep (.elsewhere same)
  | reopen => exact hupkeep (.reopen s)
  | createAccount request => exact hupkeep (.createAccount request s)
  | deleteAccount account => exact hupkeep (.deleteAccount account s)
  | deleteDocument document => exact hupkeep (.deleteDocument document s)
  | @persist _ _ p _ _ prepared =>
    rcases persist_isAtomic hc p s db hs with ⟨e, -, hs'⟩ | ⟨_, db', -, hs', _, _, _, records⟩
    · exact ⟨db, hs', .upkeep .none⟩
    · exact ⟨db', hs', .record (isSound_of_prepare prepared) records⟩

/-! ## The invariant -/

/-- Tables that are there are left as they are. -/
theorem holds_of_extends {db db' : Contents} {r : Records} (hdb : db.Holds r)
    (hextends : db.Extends db') : db'.Holds r := by
  obtain ⟨rows, hrows, hperm⟩ := hdb.tags
  exact ⟨hextends.rows (p := .accounts) (by decide) hdb.accounts,
    hextends.rows (p := .documents) (by decide) hdb.documents, rows,
    hextends.rows (p := .tags) (by decide) hrows, hperm⟩

/-- An account that is opened is one of the records. -/
theorem holds_of_openAccount {a : Account} {db db' : Contents} {r : Records} (hdb : db.Holds r)
    (live : a.IsLive) (inserts : Contents.insertAccount a db = .ok ((), db')) :
    ∃ free : r.IsFree a, db'.Holds (r.openAccount a live free) := by
  obtain ⟨free, rfl⟩ := Contents.insertAccount_eq_ok hdb live inserts
  exact ⟨free, rfl, hdb.documents, hdb.tags⟩

/-- An account that is closed is none of the records any more. -/
theorem holds_of_closeAccount {id : AccountId} {now : Int64} {db between db' : Contents}
    {r : Records} (hdb : db.Holds r)
    (archives : Contents.archiveAccount id now db = .ok ((), between))
    (removes : Contents.removeAccount id between = .ok ((), db')) :
    db'.Holds (r.closeAccount id) := by
  have hbetween := hdb.archiveAccount archives
  rw [Contents.removeAccount_eq hbetween] at removes
  cases removes
  exact ⟨rfl, hbetween.documents, hbetween.tags⟩

/-- A document that is removed is none of the records any more. It is told whether there was
one. -/
theorem holds_of_removeDocument {id : InstructionId} {removed : Bool} {db db' : Contents}
    {r : Records} (hdb : db.Holds r)
    (removes : Contents.removeDocument id db = .ok (removed, db')) :
    db'.Holds (r.remove id) ∧ removed = r.documents.any fun f => f.document.id = id := by
  obtain ⟨rows, hrows, -⟩ := hdb.tags
  rw [Contents.removeDocument_eq hdb hrows] at removes
  cases removes
  exact ⟨hdb.remove hrows _, rfl⟩

/-- **Upkeep preserves** that the tables hold the rows for some records, and it adds no
document to them. -/
theorem Upkeep.holds {db db' : Contents} (h : Upkeep db db') {r : Records} (hdb : db.Holds r) :
    ∃ r', db'.Holds r' ∧ r'.documents ⊆ r.documents := by
  cases h with
  | none => exact ⟨r, hdb, List.Subset.refl _⟩
  | install hextends => exact ⟨r, holds_of_extends hdb hextends, List.Subset.refl _⟩
  | openAccount live inserts =>
    obtain ⟨_, hdb'⟩ := holds_of_openAccount hdb live inserts
    exact ⟨_, hdb', List.Subset.refl _⟩
  | closeAccount archives removes =>
    exact ⟨_, holds_of_closeAccount hdb archives removes, List.Subset.refl _⟩
  | removeDocument removes =>
    exact ⟨_, (holds_of_removeDocument hdb removes).1, List.filter_subset_self _⟩

/-- **One change preserves** that the tables hold the rows for some records. -/
theorem Change.holds {db db' : Contents} (h : Change c db db') {r : Records}
    (hdb : db.Holds r) : ∃ r', db'.Holds r' := by
  cases h with
  | upkeep keeps =>
    obtain ⟨r', hdb', -⟩ := keeps.holds hdb
    exact ⟨r', hdb'⟩
  | record sound records =>
    obtain ⟨rows, hrows, -⟩ := hdb.tags
    obtain ⟨_, r', hdb', -⟩ := record_eq_ok sound hdb hrows records
    exact ⟨r', hdb'⟩

/-- A store that was just made holds nothing. -/
theorem holds_of_isNew {db : Contents} (h : db.IsNew .records) : db.Holds .empty :=
  ⟨h.slots .accounts (by decide) (by decide), h.slots .documents (by decide) (by decide), [],
    h.slots .tags (by decide) (by decide), .nil⟩

/-- A database without tables is made one with empty tables. -/
theorem contents_of_new (hc : c.IsLawful) {s s' : σ} (new : c.contents s = some .empty)
    (opens : c.openRecords s = (.ok (), s')) :
    ∃ db', c.contents s' = some db' ∧ db'.IsNew .records :=
  Connection.isNew_of_openAs hc new opens

/-- **In every state a store can be in, the tables hold the rows for some records.** -/
theorem IsReachable.holds (hc : c.IsLawful) {s : σ} (h : IsReachable c s) : HoldsRecords c s := by
  induction h with
  | opened new opens =>
    obtain ⟨db', hs', hnew⟩ := contents_of_new hc new opens
    exact ⟨db', .empty, hs', holds_of_isNew hnew⟩
  | step _ steps ih =>
    obtain ⟨db, r, hs, hdb⟩ := ih
    obtain ⟨db', hs', hchange⟩ := steps.change hc hs
    obtain ⟨r', hdb'⟩ := hchange.holds hdb
    exact ⟨db', r', hs', hdb'⟩

/-- **A whole save leads from one state of a store to another**, if the history leaves
the records alone. -/
theorem IsReachable.save (hc : c.IsLawful) {history : VersionHistory σ}
    (quiet : ∀ key i author, c.IsQuiet (history key i author)) {s : σ} (h : IsReachable c s)
    (owner : Account) (request : SaveRequest) :
    IsReachable c (Store.save c history owner request s).2 := by
  -- however far the save comes, each of its steps leads from state to state
  refine save_preserves ?_ (fun _ hbefore => ?_) fun hprepare hafter => ?_
  · exact h.step (.elsewhere (prepare_isQuiet hc owner request _ s rfl))
  · exact hbefore.step (.elsewhere (quiet _ _ _ _ _ rfl))
  · exact hafter.step (.persist hprepare _)

end Store

end InstructionStore
