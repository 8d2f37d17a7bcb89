import InstructionStore.Proofs.Database.Calm
import InstructionStore.Proofs.Store.Agreement
import InstructionStore.Proofs.Store.Annals

/-!
# Who an account is

**An account is found by what is its own and by nothing else**, as long as it is live: by its
identifier, its name and its email address (`Store.hasExactAccounts_of_annals`). The name and
the email address are looked for among different cells, by whether there is an `@` in the text.
That no account is missed by this is due to the rules that names and email addresses obey, and
every account that was opened obeys them.

Whether an account can be opened is decided by the live accounts alone. Who is in the archive
makes no difference.
-/

namespace InstructionStore

open Database

/-! ## Statements that are not disturbed -/

namespace Database

variable {σ ε α : Type} {c : Connection σ} {s : σ} {db db' : Contents}

/-- A statement that succeeds puts the contents it gives in place. -/
theorem Connection.execute_eq_ok (hc : c.IsLawful) (calm : (c.disturbed s).1 = false)
    (hs : c.contents s = some db) (failed : Refusal → ε) {statement : Statement α} {a : α}
    (h : statement db = .ok (a, db')) :
    c.execute failed statement s = (.ok a, c.replace db' (c.disturbed s).2) := by
  unfold Connection.execute
  dsimp only
  rw [calm, hc.disturbed, hs]
  dsimp only
  rw [h]
  rfl

/-- A statement that is refused changes nothing. -/
theorem Connection.execute_eq_error (hc : c.IsLawful) (calm : (c.disturbed s).1 = false)
    (hs : c.contents s = some db) (failed : Refusal → ε) {statement : Statement α}
    {refusal : Refusal} (h : statement db = .error refusal) :
    c.execute failed statement s = (.error (failed refusal), (c.disturbed s).2) := by
  unfold Connection.execute
  dsimp only
  rw [calm, hc.disturbed, hs]
  dsimp only
  rw [h]
  rfl

namespace Contents

variable {r : Records} {a : Account}

/-- **The row of an account is added** if the account is free. -/
theorem insertAccount_of_free (h : db.Holds r) (free : r.IsFree a) :
    insertAccount a db = .ok ((), { db with
      accounts := .rows ((r.accounts ++ [a]).map .ofAccount) }) := by
  have hclash : ∀ row ∈ r.accounts.map AccountRow.ofAccount,
      AccountRow.table.clash (.ofAccount a) row = false := by
    refine List.forall_mem_map.2 fun b hb => ?_
    obtain ⟨hid, hname, hemail⟩ := free b hb
    rw [AccountRow.clash_ofAccount, decide_eq_false_iff_not, not_or, not_or]
    exact ⟨Ne.symm hid, Ne.symm hname, Ne.symm hemail⟩
  unfold insertAccount
  rw [Slot.read_eq_ok_iff.2 h.accounts, Outcome.ok_bind,
    Table.insert_eq_ok_iff.2 ⟨⟨rfl, hclash⟩, rfl⟩, List.map_append, List.map_singleton]
  rfl

/-- **The row of an account is refused** if something of the account is taken. -/
theorem insertAccount_of_taken (h : db.Holds r) (taken : ¬r.IsFree a) :
    insertAccount a db = .error .constraint := by
  unfold Records.IsFree at taken
  push Not at taken
  obtain ⟨b, hb, htaken⟩ := taken
  have hclash : AccountRow.table.clash (.ofAccount a) (.ofAccount b) = true := by
    rw [AccountRow.clash_ofAccount, decide_eq_true_eq]
    by_contra hnone
    rw [not_or, not_or] at hnone
    exact hnone.2.2 (htaken (Ne.symm hnone.1) (Ne.symm hnone.2.1)).symm
  unfold insertAccount
  rw [Slot.read_eq_ok_iff.2 h.accounts, Outcome.ok_bind,
    Table.insert_eq_error (List.mem_map_of_mem hb) hclash]
  rfl

end Contents

end Database

namespace Store

variable {σ : Type} {c : Connection σ} {s : σ} {request : Signup} {name : Identifier}

/-! ## Opening an account -/

/-- **The account that a request is for**, if it is opened now. -/
def accountFor (c : Connection σ) (request : Signup) (name : Identifier) (s : σ) : Account :=
  ⟨⟨(c.draw s).1⟩, name, request.email, request.provider, false, c.now (c.draw s).2⟩

theorem createAccount_apply (hcheck : request.check = .ok name)
    (valid : OpaqueId.IsValid (c.draw s).1) :
    createAccount c request s
      = (c.execute (insertFailure .account) (Contents.insertAccount (accountFor c request name s))
          >>= fun _ => pure (accountFor c request name s)) (c.draw s).2 := by
  have hid : AccountId.ofString (c.draw s).1 = .ok ⟨(c.draw s).1⟩ :=
    AccountId.ofString_eq_ok_iff.2 ⟨valid, rfl⟩
  unfold createAccount
  rw [hcheck, Task.bind_apply]
  dsimp only [Except.mapError, Task.ofExcept_apply]
  rw [Task.bind_apply]
  dsimp only [Connection.drawId, Task.ofState]
  rw [hid, Task.bind_apply]
  rfl

/-- **What becomes of a request to open an account**, where some accounts are live. -/
structure Decides (c : Connection σ) (live : List Account) (db : Contents) (request : Signup)
    (name : Identifier) (s : σ) : Prop where
  /-- It is a duplicate exactly if a live account has the name or the email address. -/
  duplicate : (createAccount c request s).1 = .error (.duplicate .account)
    ↔ ∃ b ∈ live, b.name = name ∨ b.email = request.email
  /-- A duplicate changes nothing. -/
  unchanged : (createAccount c request s).1 = .error (.duplicate .account) →
    c.contents (createAccount c request s).2 = some db
  /-- Otherwise the account is opened. Its row comes after those of the accounts that are live,
  and nothing else is changed. -/
  opened : (∀ b ∈ live, b.name ≠ name ∧ b.email ≠ request.email) →
    (createAccount c request s).1 = .ok (accountFor c request name s)
      ∧ c.contents (createAccount c request s).2 = some { db with
          accounts := .rows ((live ++ [accountFor c request name s]).map .ofAccount) }

theorem decides_of_holds (hc : c.IsLawful) {db : Contents} {r : Records}
    (hs : c.contents s = some db) (hdb : db.Holds r) (hcheck : request.check = .ok name)
    (valid : OpaqueId.IsValid (c.draw s).1) (unused : ∀ b ∈ r.accounts, b.id.text ≠ (c.draw s).1)
    (calm : (c.disturbed (c.draw s).2).1 = false) : Decides c r.accounts db request name s := by
  have hdrawn : c.contents (c.draw s).2 = some db := (hc.drawn s).trans hs
  have hdisturbed := (hc.disturbed (c.draw s).2).trans hdrawn
  -- the identifier is unused, so the account is free if its name and its email address are
  have hfree : r.IsFree (accountFor c request name s)
      ↔ ∀ b ∈ r.accounts, b.name ≠ name ∧ b.email ≠ request.email :=
    forall₂_congr fun b hb => and_iff_right fun hid => unused b hb (AccountId.text_inj.2 hid)
  have htaken : (¬r.IsFree (accountFor c request name s))
      ↔ ∃ b ∈ r.accounts, b.name = name ∨ b.email = request.email := by
    rw [hfree]
    push Not
    simp only [or_iff_not_imp_left]
  by_cases free : r.IsFree (accountFor c request name s)
  · have hrun := Connection.execute_eq_ok hc calm hdrawn (insertFailure .account)
      (Contents.insertAccount_of_free hdb free)
    have hcreate := createAccount_apply hcheck valid
    rw [Task.bind_apply, hrun] at hcreate
    have hok : (createAccount c request s).1 = .ok (accountFor c request name s) :=
      congrArg Prod.fst hcreate
    refine ⟨?_, fun hfail => (nomatch hok.symm.trans hfail), fun _ => ⟨hok, ?_⟩⟩
    · rw [← htaken, hok]
      exact ⟨nofun, fun h => absurd free h⟩
    · rw [hcreate]
      exact hc.replaced _ _ _ hdisturbed
  · have hrun := Connection.execute_eq_error hc calm hdrawn (insertFailure .account)
      (Contents.insertAccount_of_taken hdb free)
    have hcreate : createAccount c request s
        = (.error (.duplicate .account), (c.disturbed (c.draw s).2).2) := by
      rw [createAccount_apply hcheck valid, Task.bind_apply, hrun]
      rfl
    refine ⟨?_, fun _ => ?_, fun hnone => absurd (hfree.2 hnone) free⟩
    · rw [← htaken, hcreate]
      exact ⟨fun _ => free, fun _ => rfl⟩
    · rw [hcreate]
      exact hdisturbed

/-! ## Finding an account -/

/-- **An account that is found by what is its own, and by nothing else.** -/
structure IsFoundExactly (c : Connection σ) (db : Contents) (a : Account) : Prop where
  /-- It is the account of its identifier. -/
  byId : Shows c db (getAccount c a.id) (some a)
  /-- It is found by its name and by its email address. -/
  byName : ∀ text ∈ namesOf a, Shows c db (findAccount c text) (some a)
  /-- No other text finds it. -/
  only : ∀ s text, c.contents s = some db → (findAccount c text s).1 = .ok (some a) →
    text ∈ namesOf a

theorem isFoundExactly_of_holds (hc : c.IsLawful) {db : Contents} {r : Records} (hdb : db.Holds r)
    {a : Account} (ha : a ∈ r.accounts) : IsFoundExactly c db a where
  byId := (sees_of_holds hc hdb ha).byId
  byName := (sees_of_holds hc hdb ha).account
  only s text hs hfound := by
    have hfind := lookUp_finds hc hs hfound
    rw [Contents.findAccount_eq hdb, Except.ok.injEq] at hfind
    exact (mem_namesOf_of_owner_eq_some hfind).2

/-! ## Exact accounts -/

/-- **A store whose accounts are exact**, in a state that some entries led to. -/
structure HasExactAccounts (c : Connection σ) (entries : List Entry) (db : Contents) (s : σ) :
    Prop where
  /-- The rows of accounts are those of the accounts that are live. -/
  rows : db.accounts = .rows ((Entry.live entries).map .ofAccount)
  /-- A live account is as it was returned when it was opened. -/
  returned : ∀ a ∈ Entry.live entries, ∃ newer older before after request,
    entries = newer ++ .opening a :: older ∧ Annals c older before
      ∧ createAccount c request before = (.ok a, after) ∧ Passage c after newer s
  /-- It is found by what is its own, and by nothing else. -/
  found : ∀ a ∈ Entry.live entries, IsFoundExactly c db a
  /-- A request that passes its check is decided by the live accounts, if the identifier drawn
  for it is an unused one. -/
  decided : ∀ request name, request.check = .ok name → OpaqueId.IsValid (c.draw s).1 →
    (∀ b ∈ Entry.live entries, b.id.text ≠ (c.draw s).1) →
    (c.disturbed (c.draw s).2).1 = false →
    Decides c (Entry.live entries) db request name s

/-- **Accounts are exact** in every state a store can be in, whatever was done to it before. -/
theorem hasExactAccounts_of_annals (hc : c.IsLawful) {entries : List Entry}
    (annals : Annals c entries s) :
    ∃ db, c.contents s = some db ∧ HasExactAccounts c entries db s := by
  obtain ⟨db, r, xs, hs, hbook⟩ := annals.isBook hc
  refine ⟨db, hs, hbook.live ▸ hbook.holds.accounts, fun a ha => ?_, fun a ha => ?_, ?_⟩
  · obtain ⟨newer, older, rfl⟩ := Entry.exists_split_of_opened (Entry.opened_of_live ha)
    obtain ⟨s₁, s₂, new, opens, passage⟩ := annals
    obtain ⟨before, after, request, first, creates, second⟩ := passage.exists_createAccount
    exact ⟨newer, older, before, after, request, rfl, ⟨s₁, s₂, new, opens, first⟩, creates, second⟩
  · exact isFoundExactly_of_holds hc hbook.holds (hbook.live ▸ ha)
  · intro request name hcheck valid unused calm
    rw [← hbook.live] at unused ⊢
    exact decides_of_holds hc hs hbook.holds hcheck valid unused calm

/-! ## A name that is taken again -/

namespace World

/-- The account is opened, deleted, and opened once more. -/
def rejoined : World :=
  (createAccount (file "records") signup
    (deleteAccount (file "records") ann (createAccount (file "records") signup opened).2).2).2

/-- The account it is then. -/
def successor : Account := { ann with id := ⟨"id1"⟩, createdAt := 2 }

/-- What was entered. -/
def rejoinedEntries : List Entry := [.opening successor, .closing ann.id, .opening ann]

theorem rejoined_annals : Annals (file "records") rejoinedEntries rejoined := by
  have hfirst : (createAccount (file "records") signup opened).1.toOption = some ann := by
    decide +kernel
  have hdelete : (deleteAccount (file "records") ann
      (createAccount (file "records") signup opened).2).1.toOption = some () := by decide +kernel
  have hsecond : (createAccount (file "records") signup (deleteAccount (file "records") ann
      (createAccount (file "records") signup opened).2).2).1.toOption = some successor := by
    decide +kernel
  have hannals : Annals (file "records") [] opened :=
    Annals.step ⟨new, _, rfl, openRecords_new, .rest⟩ (.elsewhere contents_opened)
  exact ((hannals.step (.createAccount signup (Outcome.run_eq_of_toOption hfirst))).step
    (.deleteAccount ann (Outcome.run_eq_of_toOption hdelete))).step
      (.createAccount signup (Outcome.run_eq_of_toOption hsecond))

end World

open World in
theorem hasExactAccounts_of_annals_rejoined :
    ∃ db, (file "records").contents rejoined = some db
      ∧ HasExactAccounts (file "records") rejoinedEntries db rejoined
      ∧ Shows (file "records") db (findAccount (file "records") "ann@example.org") (some successor)
      ∧ (createAccount (file "records") signup rejoined).1 = .error (.duplicate .account) := by
  obtain ⟨db, hdb, hexact⟩ := hasExactAccounts_of_annals (file_isLawful "records") rejoined_annals
  have hlive : successor ∈ Entry.live rejoinedEntries := by decide
  have hcheck : signup.check = .ok successor.name := by decide +kernel
  have hvalid : OpaqueId.IsValid ((file "records").draw rejoined).1 := by decide +kernel
  have hunused : ∀ b ∈ Entry.live rejoinedEntries,
      b.id.text ≠ ((file "records").draw rejoined).1 := by
    decide +kernel
  have hdecides := hexact.decided signup successor.name hcheck hvalid hunused rfl
  refine ⟨db, hdb, hexact, ?_, hdecides.duplicate.2 ⟨successor, hlive, .inl rfl⟩⟩
  exact (hexact.found successor hlive).byName _ (List.mem_pair.2 (.inr rfl))

end Store

end InstructionStore
