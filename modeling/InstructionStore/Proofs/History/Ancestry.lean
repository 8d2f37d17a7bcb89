import InstructionStore.Proofs.History.Refinement
import InstructionStore.Proofs.Json.Characters

/-!
# The name of a commit tells the commit and all before it

What is digested for the name of a commit are six parts, one behind the other. The last
is always eight bytes, and each of the others ends at its zero byte, as long as there is no
zero character in it. There is none in a key whose identifiers obey the rule, in the name of
a commit, in the text of an instruction, where it would be escaped, and in the name of an
account. So the parts can be told from the bytes (`Commit.Content.eq_of_bytes_eq`), and
what was committed from the parts.

A name that is the digest of one content only therefore tells the commit, and with it the
name of the commit before, which tells that one in turn: **two commits of one name have one
ancestry** (`History.id_tells_ancestry`), whatever histories they are from.
-/

namespace InstructionStore

/-! ## Times -/

namespace Digest

/-- A byte of a number and what is above it tell what the number is from there on. -/
theorem div_eq_of_byte_eq {m n k : Nat} (hbyte : m / 2 ^ k % 2 ^ 8 = n / 2 ^ k % 2 ^ 8)
    (habove : m / 2 ^ (k + 8) = n / 2 ^ (k + 8)) : m / 2 ^ k = n / 2 ^ k := by
  rw [Nat.pow_add, ← Nat.div_div_eq_div_mul, ← Nat.div_div_eq_div_mul] at habove
  rw [← Nat.div_add_mod (m / 2 ^ k) (2 ^ 8), hbyte, habove, Nat.div_add_mod]

/-- Eight bytes tell the number. -/
theorem lengthBytes_inj {m n : UInt64} (h : lengthBytes m = lengthBytes n) : m = n := by
  unfold lengthBytes at h
  simp only [List.map_cons, List.map_nil, List.cons.injEq, and_true, ← UInt8.toNat_inj,
    UInt64.toNat_toUInt8, UInt64.toNat_shiftRight, Nat.shiftRight_eq_div_pow, UInt64.reduceToNat,
    Nat.reduceMod] at h
  obtain ⟨h56, h48, h40, h32, h24, h16, h8, h0⟩ := h
  have hnone : m.toNat / 2 ^ 64 = n.toNat / 2 ^ 64 :=
    (Nat.div_eq_of_lt m.toNat_lt).trans (Nat.div_eq_of_lt n.toNat_lt).symm
  -- from the greatest byte to the least
  have h := div_eq_of_byte_eq h48 (div_eq_of_byte_eq h56 hnone)
  have h := div_eq_of_byte_eq h32 (div_eq_of_byte_eq h40 h)
  have h := div_eq_of_byte_eq h16 (div_eq_of_byte_eq h24 h)
  have h := div_eq_of_byte_eq h0 (div_eq_of_byte_eq h8 h)
  rw [Nat.pow_zero, Nat.div_one, Nat.div_one] at h
  exact UInt64.toNat_inj.1 h

end Digest

/-! ## Contents -/

namespace Commit.Content

/-- **A content with no zero character in it**, so that each text ends at its zero byte. -/
structure HasNoZero (content : Content) : Prop where
  /-- The key has none. -/
  key : '\x00' ∉ content.key.toList
  /-- The commit before has the name of one. -/
  parent : ∀ id, content.parent = some id → id.IsDigest
  /-- The text of the instruction has none. -/
  body : '\x00' ∉ content.body.toList
  /-- The name of the author has none. -/
  name : '\x00' ∉ content.author.name.toList
  /-- The email address of the author has none. -/
  email : '\x00' ∉ content.author.email.toList

/-- **What is digested tells the content.** -/
theorem eq_of_bytes_eq {a b : Content} (ha : a.HasNoZero) (hb : b.HasNoZero)
    (h : a.bytes = b.bytes) : a = b := by
  unfold bytes at h
  simp only [List.append_assoc] at h
  obtain ⟨hkey, h⟩ := closed_append_inj ha.key hb.key h
  obtain ⟨hparent, h⟩ := closed_append_inj (zero_not_mem_parentText ha.parent)
    (zero_not_mem_parentText hb.parent) h
  obtain ⟨hbody, h⟩ := closed_append_inj ha.body hb.body h
  obtain ⟨hname, h⟩ := closed_append_inj ha.name hb.name h
  obtain ⟨hemail, htime⟩ := closed_append_inj ha.email hb.email h
  have hparent := parent_eq_of_parentText_eq ha.parent hb.parent hparent
  have htime : a.createdAt = b.createdAt :=
    congrArg Int64.ofUInt64 (Digest.lengthBytes_inj htime)
  obtain ⟨key, parent, body, ⟨name, email⟩, createdAt⟩ := a
  subst hkey hparent hbody hname hemail htime
  rfl

end Commit.Content

theorem Identifier.zero_not_mem (name : Identifier) : '\x00' ∉ name.text.toList :=
  fun h => absurd (name.valid.2.2 _ h) (by decide)

namespace History

/-! ## Commits -/

/-- **Whether an entry can come after a commit, or after none**: an account signs it, and the
commit before has the name of one. -/
structure Entry.Follows (e : Entry) (parent : Option CommitId) : Prop where
  /-- An account signs it. -/
  signed : ∃ a : Account, e.author = a.signature
  /-- The commit before has the name of one. -/
  parent : ∀ id, parent = some id → id.IsDigest

variable {e e' : Entry} {parent parent' : Option CommitId}

theorem Entry.Follows.hasNoZero (h : e.Follows parent) : (e.commit parent).content.HasNoZero := by
  obtain ⟨a, ha⟩ := h.signed
  have hname : '\x00' ∉ e.author.name.toList := ha ▸ a.name.zero_not_mem
  have hemail : '\x00' ∉ e.author.email.toList := ha ▸ a.name.zero_not_mem
  exact ⟨HistoryKey.zero_not_mem_path e.valid, h.parent, Json.zero_not_mem_text _, hname, hemail⟩

/-- The content of a commit tells what was committed. -/
theorem eq_of_content_eq (h : (e.commit parent).content = (e'.commit parent').content) :
    e = e' ∧ parent = parent' := by
  have hpath : e.key.path = e'.key.path := congrArg Commit.Content.key h
  have htext : e.body.text = e'.body.text := congrArg Commit.Content.body h
  have hauthor : e.author = e'.author := congrArg Commit.Content.author h
  have htime : e.createdAt = e'.createdAt := congrArg Commit.Content.createdAt h
  have hkey := (HistoryKey.path_inj e.valid e'.valid).1 hpath
  -- both texts are the same, and each is read as its instruction
  have hbody : e.body = e'.body := Except.ok.inj
    ((Instruction.ofText_text e.accepted e.floatFree).symm.trans
      (htext ▸ Instruction.ofText_text e'.accepted e'.floatFree))
  obtain ⟨key, body, author, createdAt, valid, accepted, floatFree⟩ := e
  subst hkey hbody hauthor htime
  exact ⟨rfl, congrArg Commit.Content.parent h⟩

theorem eq_of_bytes_eq (h : e.Follows parent) (h' : e'.Follows parent')
    (heq : (e.commit parent).content.bytes = (e'.commit parent').content.bytes) :
    e = e' ∧ parent = parent' :=
  eq_of_content_eq (Commit.Content.eq_of_bytes_eq h.hasNoZero h'.hasNoZero heq)

/-- **A name that is the digest of one content tells what was committed.** -/
theorem eq_of_id_eq (h : e.Follows parent) (h' : e'.Follows parent')
    (free : HasNoCollision [e.commit parent, e'.commit parent'])
    (heq : (e.commit parent).id = (e'.commit parent').id) : e = e' ∧ parent = parent' := by
  refine eq_of_bytes_eq h h' (free _ List.mem_cons_self _ (List.mem_cons_of_mem _ ?_) ?_)
  · exact List.mem_singleton_self _
  · exact congrArg CommitId.text heq

/-! ## Ancestries -/

/-- **The commits of a line of entries**, the latest first: each comes after the next one, and
the last after none. -/
def lineage : List Entry → List Commit
  | [] => []
  | e :: es => e.commit ((lineage es).head?.map Commit.id) :: lineage es

/-- The name of the latest commit of a line. -/
def tip (es : List Entry) : Option CommitId := (lineage es).head?.map Commit.id

theorem lineage_cons (e : Entry) (es : List Entry) :
    lineage (e :: es) = e.commit (tip es) :: lineage es := rfl

theorem isDigest_of_tip {es : List Entry} {id : CommitId} (h : tip es = some id) :
    id.IsDigest := by
  cases es with
  | nil => exact nomatch h
  | cons e es =>
    cases h
    exact Commit.Content.id_isDigest _

/-- **The name of the latest commit of a line tells the line.** -/
theorem eq_of_tip_eq {es es' : List Entry}
    (signed : ∀ e ∈ es, ∃ a : Account, e.author = a.signature)
    (signed' : ∀ e ∈ es', ∃ a : Account, e.author = a.signature)
    (free : HasNoCollision (lineage es ++ lineage es')) (h : tip es = tip es') : es = es' := by
  induction es generalizing es' with
  | nil =>
    cases es' with
    | nil => rfl
    | cons e' es' => exact nomatch h
  | cons e es ih =>
    cases es' with
    | nil => exact nomatch h
    | cons e' es' =>
      rw [List.forall_mem_cons] at signed signed'
      rw [lineage_cons, lineage_cons] at free
      obtain ⟨rfl, htip⟩ := eq_of_id_eq ⟨signed.1, fun _ => isDigest_of_tip⟩
        ⟨signed'.1, fun _ => isDigest_of_tip⟩ (free.mono (by simp)) (Option.some.inj h)
      rw [ih signed.2 signed'.2 (free.mono ?_) htip]
      exact List.append_subset.2 ⟨fun x hx => List.mem_cons_of_mem _ (List.mem_append_left _ hx),
        fun x hx => List.mem_append_right _ (List.mem_cons_of_mem _ hx)⟩

/-- **The name of a commit tells the commit.** What is digested for two commits is the same only
if all that was committed is, and what it was committed after. If no two contents have one
digest, commits of one name are the same, and so are the lines of all that was committed
before them. -/
theorem id_tells_ancestry :
    (∀ (e e' : Entry) (parent parent' : Option CommitId),
      e.Follows parent → e'.Follows parent' →
      (e.commit parent).content.bytes = (e'.commit parent').content.bytes →
        e.key.accountId = e'.key.accountId ∧ e.key.instructionId = e'.key.instructionId
          ∧ parent = parent' ∧ e.body = e'.body ∧ e.author = e'.author
          ∧ e.createdAt = e'.createdAt) ∧
    (∀ (e e' : Entry) (parent parent' : Option CommitId),
      e.Follows parent → e'.Follows parent' →
      HasNoCollision [e.commit parent, e'.commit parent'] →
      (e.commit parent).id = (e'.commit parent').id →
        e.commit parent = e'.commit parent' ∧ e = e') ∧
    (∀ es es' : List Entry, (∀ e ∈ es ++ es', ∃ a : Account, e.author = a.signature) →
      HasNoCollision (lineage es ++ lineage es') → tip es = tip es' →
        lineage es = lineage es' ∧ es = es') := by
  refine ⟨fun e e' parent parent' h h' heq => ?_, fun e e' parent parent' h h' free heq => ?_,
    fun es es' signed free heq => ?_⟩
  · obtain ⟨rfl, rfl⟩ := eq_of_bytes_eq h h' heq
    exact ⟨rfl, rfl, rfl, rfl, rfl, rfl⟩
  · obtain ⟨rfl, rfl⟩ := eq_of_id_eq h h' free heq
    exact ⟨rfl, rfl⟩
  · rw [List.forall_mem_append] at signed
    obtain rfl := eq_of_tip_eq signed.1 signed.2 free heq
    exact ⟨rfl, rfl⟩

/-! ## Three commits -/

/-- One account signs what is committed here and there. -/
theorem exists_writer : ∃ a : Account, here.author = a.signature ∧ there.author = a.signature :=
  ⟨⟨⟨"id0"⟩, ⟨"ann", by decide⟩, "ann@example.org", ⟨"page", "1", none, none, none⟩, false, 0⟩,
    rfl, rfl⟩

/-- What was committed here before something was committed there. -/
def ofHere : List Entry := [there, here, here].filter fun e => e.key = here.key

theorem id_tells_ancestry_here :
    here.Follows none ∧ here.Follows (tip [here]) ∧ there.Follows none ∧
    (here.commit none).content.bytes ≠ (there.commit none).content.bytes ∧
    (here.commit none).content.bytes ≠ (here.commit (tip [here])).content.bytes ∧
    HasNoCollision [here.commit none, there.commit none] ∧
    (here.commit none).id ≠ (there.commit none).id ∧
    HasNoCollision (lineage [here, here] ++ lineage ofHere) ∧
    tip [here, here] = tip ofHere ∧ lineage [here, here] = lineage ofHere := by
  obtain ⟨writer, hwrites, hwrites'⟩ := exists_writer
  have hfirst : here.Follows none := ⟨⟨writer, hwrites⟩, nofun⟩
  have hnext : here.Follows (tip [here]) := ⟨⟨writer, hwrites⟩, fun _ => isDigest_of_tip⟩
  have hthere : there.Follows none := ⟨⟨writer, hwrites'⟩, nofun⟩
  have hfree : HasNoCollision [here.commit none, there.commit none] :=
    hasNoCollision_of_nodup (by simp [Entry.commit, Commit.content]) (by decide +kernel)
  have hline : HasNoCollision (lineage [here, here]) :=
    hasNoCollision_of_nodup (by simp [lineage, Entry.commit, Commit.content]) (by decide +kernel)
  have hlines : HasNoCollision (lineage [here, here] ++ lineage ofHere) :=
    hline.mono (List.append_subset.2 ⟨List.Subset.refl _, List.Subset.refl _⟩)
  have hsigned : ∀ e ∈ [here, here] ++ ofHere, ∃ a : Account, e.author = a.signature := by
    intro e he
    have he : e ∈ [here, here, here, here] := he
    simp only [List.mem_cons, List.not_mem_nil, or_false, or_self] at he
    exact ⟨writer, he ▸ hwrites⟩
  obtain ⟨hbytes, hids, hancestry⟩ := id_tells_ancestry
  refine ⟨hfirst, hnext, hthere, fun h => ?_, fun h => ?_, hfree, fun h => ?_, hlines, rfl, ?_⟩
  · exact absurd (hbytes _ _ _ _ hfirst hthere h).2.1 (by decide)
  · exact absurd (hbytes _ _ _ _ hfirst hnext h).2.2.1 nofun
  · exact absurd (congrArg Entry.key (hids _ _ _ _ hfirst hthere hfree h).2) (by decide)
  · exact (hancestry _ _ hsigned hlines rfl).1

end History

end InstructionStore
