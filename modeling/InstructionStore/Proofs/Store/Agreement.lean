import InstructionStore.Proofs.Store.SaveThenFind
import InstructionStore.Proofs.Text.Bytes

/-!
# The lookups of documents agree

Documents are found in three ways: all of an owner, those of an owner that have a tag, and
the one of an owner and a name. Each of the three is a search of its own through the rows.
**All three tell of the same documents** (`Store.answers_of_isReachable`): the first gives
a list, and the other two are parts of it.

The list has each document of the account once. It is strictly ascending by when the
documents were first saved and, among those saved at one time, by the bytes of their
names.
-/

namespace InstructionStore

open Database

/-! ## The order of the list -/

/-- The characters of an identifier are ASCII characters. -/
theorem Identifier.val_le (name : Identifier) : ∀ c ∈ name.text.toList, c.val ≤ 127 := by
  intro c hc
  have hallowed := name.valid.2.2 c hc
  unfold isAllowed Char.isAlphanum Char.isAlpha Char.isUpper Char.isLower Char.isDigit at hallowed
  simp only [Bool.or_eq_true, Bool.and_eq_true, decide_eq_true_eq] at hallowed
  rcases hallowed with (((⟨-, h⟩ | ⟨-, h⟩) | ⟨-, h⟩) | rfl) | rfl
  · exact UInt32.le_trans h (by decide)
  · exact UInt32.le_trans h (by decide)
  · exact UInt32.le_trans h (by decide)
  · decide
  · decide

/-- **Whether the row of a document comes before another one** in a list: it was first
saved before or, if at the same time, the bytes of its name come before. -/
def Database.DocumentRow.Precedes (row other : DocumentRow) : Prop :=
  ∃ time name time' name', row.createdAt = .integer time ∧ row.name = .text name
    ∧ other.createdAt = .integer time' ∧ other.name = .text name'
    ∧ (time < time' ∨ time = time' ∧ name.toUTF8.toList < name'.toUTF8.toList)

/-- What documents are sorted by is the order of their rows. -/
theorem Filed.precedes_of_lePair {e f : Filed} (hne : e.key ≠ f.key)
    (h : Cell.lePair e.key f.key = true) : e.row.Precedes f.row := by
  refine ⟨_, _, _, _, rfl, rfl, rfl, rfl, ?_⟩
  unfold Cell.lePair key at h
  unfold key at hne
  dsimp only at h
  split at h
  · rename_i htime
    have htime := Cell.integer.inj htime
    have hle : e.document.name.text ≤ f.document.name.text := by
      simpa only [Cell.le, Bool.not_eq_true', decide_eq_false_iff_not, String.not_lt] using h
    have hlt : e.document.name.text < f.document.name.text := by
      refine String.not_le.1 fun hge => hne ?_
      rw [htime, String.le_antisymm hle hge]
    exact .inr ⟨htime, Text.toUTF8_lt_of_lt (Identifier.val_le _) (Identifier.val_le _) hlt⟩
  · rename_i htime
    refine .inl (Int64.lt_of_le_of_ne (of_decide_eq_true h) fun heq => htime ?_)
    rw [heq]

namespace Records

variable {r : Records}

/-- The list of the documents of an account is strictly ascending. -/
theorem pairwise_filedBy (id : AccountId) :
    ((r.filedBy id).map Filed.row).Pairwise DocumentRow.Precedes := by
  have hsorted : (r.filedBy id).Pairwise fun e f => Cell.lePair e.key f.key = true :=
    pairwise_mergeSort_lePair Filed.key _
  have hnodup : (r.filedBy id).Pairwise (· ≠ ·) := (r.filedBy_nodup id).of_map _
  rw [List.pairwise_map]
  refine (hsorted.and hnodup).imp_of_mem fun {e f} he hf h => ?_
  exact Filed.precedes_of_lePair (fun hkey => h.2 (eq_of_key_eq he hf hkey)) h.1

/-- The names of the documents of an account are all different. -/
theorem names_filedBy_nodup (id : AccountId) :
    ((r.filedBy id).map fun f => f.document.name).Nodup := by
  refine (List.nodup_map_iff_inj_on ((r.filedBy_nodup id).of_map _)).2 fun e he f hf hname => ?_
  obtain ⟨he, hcreator⟩ := mem_filedBy.1 he
  obtain ⟨hf, hcreator'⟩ := mem_filedBy.1 hf
  exact eq_of_nodup r.slots_nodup he hf (Prod.ext (hcreator.trans hcreator'.symm) hname)

/-- The document of an account and a name is the one of the list that has the name. -/
theorem filed_eq_find?_filedBy (id : AccountId) (name : String) :
    r.filed id name = (r.filedBy id).find? fun f => f.document.name.text = name := by
  refine Option.ext fun f => ?_
  rw [filed_eq_some_iff]
  constructor
  · rintro ⟨hf, hcreator, rfl⟩
    rw [← find?_eq_some_of_nodup (names_filedBy_nodup id) (mem_filedBy.2 ⟨hf, hcreator⟩)]
    exact congrArg (fun p => List.find? p _)
      (funext fun e => decide_eq_decide.2 Identifier.text_inj)
  · intro hfind
    obtain ⟨hf, hcreator⟩ := mem_filedBy.1 (List.mem_of_find?_eq_some hfind)
    have hfits := List.find?_some hfind
    exact ⟨hf, hcreator, of_decide_eq_true hfits⟩

end Records

/-! ## The list and its parts -/

/-- **The list of the documents of an account**, in a database. -/
structure Database.Contents.Lists (db : Contents) (id : AccountId) (docs : List Document) :
    Prop where
  /-- It is made of the rows of the account's documents, each once and in their order. -/
  rows : ∃ table rows, db.documents = .rows table
    ∧ rows.Perm (table.filter fun row => row.creatorId = .text id.text)
    ∧ rows.Pairwise DocumentRow.Precedes
    ∧ List.Forall₂ (fun row d => db.document row = .ok d) rows docs
  /-- The account keeps them. -/
  creatorId : ∀ d ∈ docs, d.creatorId = id
  /-- No document is in it twice. -/
  ids_nodup : (docs.map Document.id).Nodup
  /-- No name is in it twice. -/
  names_nodup : (docs.map Document.name).Nodup

namespace Store

variable {σ : Type} {c : Connection σ} {db : Contents} {r : Records} {s : σ}

/-- **What the lookups show of an account** and its documents. -/
structure Sees (c : Connection σ) (db : Contents) (a : Account) (docs : List Document) : Prop where
  /-- It is the account of its identifier. -/
  byId : Shows c db (getAccount c a.id) (some a)
  /-- It is found by its name and by its email address. -/
  account : ∀ text ∈ namesOf a, Shows c db (findAccount c text) (some a)
  /-- By either of the two, these are its documents. -/
  all : ∀ text ∈ namesOf a, Shows c db (documentsOf c text) (some docs)
  /-- Those with a tag are those of them that have it. -/
  tagged : ∀ text ∈ namesOf a, ∀ tag,
    Shows c db (documentsTagged c text tag) (some (docs.filter fun d => d.hasTag tag))
  /-- The one of a name is the one of them that has it. -/
  named : ∀ text ∈ namesOf a, ∀ name,
    Shows c db (findDocument c text name) (docs.find? fun d => d.name.text = name)

/-- **The lookups by an owner agree** on who it is and on the documents. -/
inductive Answers (c : Connection σ) (db : Contents) (owner : String) : Prop
  /-- There is no such account, and no lookup gives anything. -/
  | unknown (account : Shows c db (findAccount c owner) none)
    (all : Shows c db (documentsOf c owner) none)
    (tagged : ∀ tag, Shows c db (documentsTagged c owner tag) none)
    (named : ∀ name, Shows c db (findDocument c owner name) none)
  /-- There is an account, which has the text as its name or its email address, and a
  list. By either of the two, that list is what there is of the account, the documents
  with a tag are those in it that have the tag, and the document of a name is the one in
  it that has the name. -/
  | known (a : Account) (docs : List Document) (isName : owner ∈ namesOf a)
    (lists : db.Lists a.id docs)
    (account : ∀ text ∈ namesOf a, Shows c db (findAccount c text) (some a))
    (all : ∀ text ∈ namesOf a, Shows c db (documentsOf c text) (some docs))
    (tagged : ∀ text ∈ namesOf a, ∀ tag,
      Shows c db (documentsTagged c text tag) (some (docs.filter fun d => d.hasTag tag)))
    (named : ∀ text ∈ namesOf a, ∀ name,
      Shows c db (findDocument c text name) (docs.find? fun d => d.name.text = name))

theorem mem_namesOf_of_owner_eq_some {a : Account} {owner : String}
    (h : r.owner owner = some a) : a ∈ r.accounts ∧ owner ∈ namesOf a := by
  refine ⟨List.mem_of_find?_eq_some h, List.mem_pair.2 ?_⟩
  have hfits := List.find?_some h
  rw [decide_eq_true_eq] at hfits
  split at hfits
  · exact .inr hfits.symm
  · exact .inl hfits.symm

/-- The documents of an account are listed from their rows. -/
theorem lists_filedBy (hdb : db.Holds r) (id : AccountId) :
    db.Lists id ((r.filedBy id).map fun f => f.document.reread) where
  rows := by
    refine ⟨_, (r.filedBy id).map Filed.row, hdb.documents, ?_, Records.pairwise_filedBy id, ?_⟩
    · have hfits : ((fun row : DocumentRow => decide (row.creatorId = .text id.text)) ∘ Filed.row)
          = fun f => decide (f.document.creatorId = id) :=
        funext fun f => decide_eq_decide.2 AccountId.cell_inj
      rw [List.filter_map, hfits]
      exact (List.mergeSort_perm _ _).map _
    · rw [List.forall₂_map_left_iff, List.forall₂_map_right_iff, List.forall₂_same]
      exact fun f hf => Contents.document_row hdb (Records.mem_filedBy.1 hf).1
  creatorId := by
    rw [List.forall_mem_map]
    exact fun f hf => (Records.mem_filedBy.1 hf).2
  ids_nodup := by
    rw [List.map_map]
    exact r.filedBy_nodup id
  names_nodup := by
    rw [List.map_map]
    exact Records.names_filedBy_nodup id

/-- The lookups show what the tables stand for. -/
theorem sees_of_holds (hc : c.IsLawful) (hdb : db.Holds r) {a : Account} (ha : a ∈ r.accounts) :
    Sees c db a ((r.filedBy a.id).map fun f => f.document.reread) where
  byId := shows_lookUp hc ((Contents.getAccount_eq_some_iff hdb).2 ⟨ha, rfl⟩)
  account text htext :=
    shows_lookUp hc (owner_eq_of_mem_namesOf ha htext ▸ Contents.findAccount_eq hdb text)
  all text htext := shows_documentsOf hc hdb (owner_eq_of_mem_namesOf ha htext)
  tagged text htext tag := by
    refine shows_lookUp hc ?_
    rw [Contents.documentsTagged_eq hdb, owner_eq_of_mem_namesOf ha htext, Option.map_some,
      List.filter_map]
    rfl
  named text htext name := by
    have hshows := shows_findDocument hc hdb (owner_eq_of_mem_namesOf ha htext) name
    rw [Records.filed_eq_find?_filedBy] at hshows
    rw [List.find?_map]
    exact hshows

/-- An identifier that no live account has finds none. -/
theorem shows_getAccount_none (hc : c.IsLawful) (hdb : db.Holds r) {id : AccountId}
    (gone : ∀ a ∈ r.accounts, a.id ≠ id) : Shows c db (getAccount c id) none := by
  refine shows_lookUp hc ?_
  unfold Contents.getAccount
  rw [Contents.accountWhere_eq hdb, List.find?_eq_none.2]
  exact fun a ha heq => gone a ha (AccountId.cell_inj.1 (of_decide_eq_true heq))

/-- The lookups by an owner tell of what the tables stand for. -/
theorem answers_of_holds (hc : c.IsLawful) (hdb : db.Holds r) (owner : String) :
    Answers c db owner := by
  cases howner : r.owner owner with
  | none =>
    refine .unknown (shows_lookUp hc ?_) (shows_lookUp hc ?_) (fun tag => shows_lookUp hc ?_)
      fun name => shows_lookUp hc ?_
    · rw [Contents.findAccount_eq hdb, howner]
    · rw [Contents.documentsOf_eq hdb, howner]
      rfl
    · rw [Contents.documentsTagged_eq hdb, howner]
      rfl
    · rw [Contents.findDocument_eq hdb, howner]
      rfl
  | some a =>
    obtain ⟨ha, hname⟩ := mem_namesOf_of_owner_eq_some howner
    have hsees := sees_of_holds hc hdb ha
    exact .known a _ hname (lists_filedBy hdb a.id) hsees.account hsees.all hsees.tagged hsees.named

/-- **The lookups of documents agree** in every state a store can be in, whoever's
documents are looked for. -/
theorem answers_of_isReachable (hc : c.IsLawful) (h : IsReachable c s) :
    ∃ db, c.contents s = some db ∧ ∀ owner, Answers c db owner := by
  obtain ⟨db, r, hs, hdb⟩ := h.holds hc
  exact ⟨db, hs, fun owner => answers_of_holds hc hdb owner⟩

open World in
theorem answers_of_isReachable_withFirst :
    ∃ db, (file "records").contents withFirst = some db
      ∧ ∀ owner, Answers (file "records") db owner :=
  answers_of_isReachable (file_isLawful _) withFirst_isReachable

end Store

end InstructionStore
