import InstructionStore.Proofs.Database.Opening
import InstructionStore.Proofs.Store.Saving

/-!
# What the operations do to the tables

An operation fails and changes nothing, or it does what its statements do
(`Connection.IsAtomic`). For each operation there is one lemma that says which
statements these are, and the lemmas about the statements say the rest. Failing is the
same everywhere: nothing is changed. Only opening the store is none of these, since it may
fail when some tables have been made already.
-/

namespace InstructionStore

open Database

/-- An account of a request that passes its check is live. -/
theorem isLive_of_check {request : Signup} {name : Identifier} {id : AccountId}
    (h : request.check = .ok name) (hid : OpaqueId.IsValid id.text) (createdAt : Int64) :
    (⟨id, name, request.email, request.provider, false, createdAt⟩ : Account).IsLive := by
  obtain ⟨hproper, htext⟩ := Signup.check_eq_ok_iff.1 h
  have hfree : name.isReserved = false := by
    rw [Identifier.isReserved, htext, Bool.eq_false_iff]
    exact mt List.contains_iff_mem.1 hproper.name.free
  exact ⟨rfl, hid, hfree, isEmail_iff.2 hproper.email⟩

namespace Store

variable {σ : Type} {c : Connection σ}

/-- **The store is opened**: whatever comes of it, tables are added at the most. -/
theorem openRecords_extends (hc : c.IsLawful) {s : σ} {db : Contents}
    (hs : c.contents s = some db) :
    ∃ db', c.contents (c.openRecords s).2 = some db' ∧ db.Extends db' :=
  Connection.openAs_extends hc .records hs

/-- **An account is opened**: its row is added. -/
theorem createAccount_isAtomic (hc : c.IsLawful) (request : Signup) :
    c.IsAtomic (createAccount c request) fun db a db' =>
      a.IsLive ∧ Contents.insertAccount a db = .ok ((), db') := by
  unfold createAccount
  refine .ofExcept_bind fun name hname => ?_
  refine .bind_of_isQuiet hc.readsPast.drawId fun drawn => ?_
  refine .ofExcept_bind fun id hid => ?_
  rw [Outcome.mapError_eq_ok_iff] at hname hid
  have hvalid := (AccountId.ofString_eq_ok_iff.1 (checkCell_eq_ok_iff.1 hid)).1
  refine .bind_of_isQuiet (fun _ => .get) fun s => ?_
  refine ((hc.execute _ _).bind_pure _).imp ?_
  rintro db a db' ⟨rfl, ⟨⟩, hrun⟩
  exact ⟨isLive_of_check hname hvalid _, hrun⟩

/-- **An account is deleted**: its row is copied to the archive and removed. -/
theorem deleteAccount_isAtomic (hc : c.IsLawful) (account : Account) :
    c.IsAtomic (deleteAccount c account) fun db _ db' => ∃ now db₁,
      Contents.archiveAccount account.id now db = .ok ((), db₁)
        ∧ Contents.removeAccount account.id db₁ = .ok ((), db') := by
  unfold deleteAccount
  refine .bind_of_isQuiet (fun _ => .get) fun s₀ => ?_
  have hbody {failed : Refusal → StoreFailure} {x y : Statement Unit} :
      c.OnlyDisturbs (c.step failed x >>= fun _ => c.step failed y) :=
    (Connection.OnlyDisturbs.step _ _).bind fun _ => .step _ _
  refine (hc.transact _ (hbody.isContained hc)).imp ?_
  rintro db ⟨⟩ db' ⟨s, s', hrun⟩
  rw [Task.bind_eq_ok_iff] at hrun
  obtain ⟨_, ⟨s₁, db₁⟩, harchive, hremove⟩ := hrun
  exact ⟨_, db₁, Connection.step_eq_ok harchive, Connection.step_eq_ok hremove⟩

/-- **A document is deleted**: its row is removed together with its tags. -/
theorem deleteDocument_isAtomic (hc : c.IsLawful) (document : Document) :
    c.IsAtomic (deleteDocument c document) fun db removed db' =>
      Contents.removeDocument document.id db = .ok (removed, db') :=
  hc.execute _ _

/-- **The last step of a save**: its document is recorded. -/
theorem persist_isAtomic (hc : c.IsLawful) (p : Pending) :
    c.IsAtomic (persist c p) fun db _ db' => ∃ now s s',
      record c p now (s, db) = (.ok (), (s', db')) := by
  refine .bind_of_isQuiet (fun _ => .get) fun s₀ => ?_
  exact (hc.transact _ (record_isContained hc p _)).imp fun _ _ _ hrun => ⟨_, hrun⟩

/-! ## What the operations leave alone -/

section
variable {τ : Type} {view : σ → τ}

theorem createAccount_keeps (h : c.WorksPast view) (request : Signup) :
    (createAccount c request).Keeps view := by
  unfold createAccount
  refine (Task.Keeps.ofExcept _).bind fun name => h.drawId.bind fun drawn => ?_
  refine (Task.Keeps.ofExcept _).bind fun id => Task.Keeps.get.bind fun s => ?_
  exact (h.execute _ _).bind fun _ => .pure _

theorem deleteAccount_keeps (h : c.WorksPast view) (account : Account) :
    (deleteAccount c account).Keeps view := by
  unfold deleteAccount
  refine Task.Keeps.get.bind fun s => h.transact _ ?_
  exact (Connection.OnlyDisturbs.step _ _).bind fun _ => .step _ _

theorem deleteDocument_keeps (h : c.WorksPast view) (document : Document) :
    (deleteDocument c document).Keeps view :=
  h.execute _ _

end

end Store

end InstructionStore
