import InstructionStore.History.Commit
import InstructionStore.Proofs.Lists
import InstructionStore.Proofs.Text.Bytes
import InstructionStore.Proofs.Text.Numeral

/-!
# The names of commits

The text of a key tells the key (`HistoryKey.path_inj`), since a slash is in neither of
its two identifiers. What is digested for the name of a commit begins with that text and
the name of the commit before, and neither has a zero byte in it; so the bytes tell both
(`Commit.Content.key_parent_eq_of_bytes_eq`), whatever the author is called.
-/

namespace InstructionStore

/-! ## Keys -/

namespace OpaqueId

variable {text : String}

/-- An identifier is not empty, and has neither a slash nor a zero character in it. -/
theorem IsValid.spec (h : IsValid text) : '/' ∉ text.toList ∧ '\x00' ∉ text.toList := by
  unfold IsValid defect? at h
  split at h
  · exact nomatch h
  · split at h
    · exact nomatch h
    · split at h
      · exact nomatch h
      · rename_i hslash
        split at h
        · exact nomatch h
        · rename_i hcontrol
          refine ⟨mt List.contains_iff_mem.2 hslash, fun hzero => hcontrol ?_⟩
          exact List.any_eq_true.2 ⟨_, hzero, by decide⟩

end OpaqueId

/-- **A key whose identifiers obey the rule.** -/
structure HistoryKey.IsValid (key : HistoryKey) : Prop where
  /-- The identifier of the account does. -/
  accountId : OpaqueId.IsValid key.accountId.text
  /-- The identifier of the document does. -/
  instructionId : OpaqueId.IsValid key.instructionId.text

namespace HistoryKey

theorem toList_path (key : HistoryKey) :
    key.path.toList = key.accountId.text.toList ++ '/' :: key.instructionId.text.toList := by
  unfold path
  rw [String.toList_append, String.toList_append, List.append_assoc]
  rfl

/-- The text of a key tells the key, as long as the identifier of the account obeys the rule: it
ends at the first slash. -/
theorem eq_of_path_eq {key key' : HistoryKey} (h : OpaqueId.IsValid key.accountId.text)
    (h' : OpaqueId.IsValid key'.accountId.text) (heq : key.path = key'.path) : key = key' := by
  have hlist := congrArg String.toList heq
  rw [toList_path, toList_path] at hlist
  obtain ⟨haccount, hinstruction⟩ := append_cons_inj h.spec.1 h'.spec.1 hlist
  obtain ⟨⟨account⟩, ⟨instruction⟩⟩ := key
  obtain ⟨⟨account'⟩, ⟨instruction'⟩⟩ := key'
  obtain rfl : account = account' := String.toList_inj.1 haccount
  obtain rfl : instruction = instruction' := String.toList_inj.1 hinstruction
  rfl

/-- **The text of a key tells the key.** -/
theorem path_inj {key key' : HistoryKey} (h : key.IsValid) (h' : key'.IsValid) :
    key.path = key'.path ↔ key = key' :=
  ⟨eq_of_path_eq h.accountId h'.accountId, congrArg path⟩

theorem zero_not_mem_path {key : HistoryKey} (h : key.IsValid) : '\x00' ∉ key.path.toList := by
  rw [toList_path, List.mem_append, List.mem_cons]
  rintro (haccount | hslash | hinstruction)
  · exact h.accountId.spec.2 haccount
  · exact absurd hslash (by decide)
  · exact h.instructionId.spec.2 hinstruction

end HistoryKey

/-! ## Digests -/

namespace Digest

theorem isSome_digit?_of_mem_ofBytes {bytes : List UInt8} {c : Char}
    (h : c ∈ (ofBytes bytes).toList) : (Text.digit? 16 c).isSome = true := by
  unfold ofBytes at h
  rw [String.toList_ofList, List.mem_flatMap] at h
  obtain ⟨word, -, hmem⟩ := h
  exact Text.isSome_digit?_of_mem_paddedHex hmem

theorem length_ofBytes (bytes : List UInt8) : (ofBytes bytes).length = 64 := by
  have hword (w : UInt32) : (Text.paddedHex 8 w.toNat).length = 8 :=
    Text.length_paddedHex (by decide) w.toNat_lt
  unfold ofBytes State.words
  rw [String.length_ofList]
  simp only [List.flatMap_cons, List.flatMap_nil, List.length_append, List.length_nil, hword]

end Digest

/-- **The name of a commit is 64 hexadecimal digits**, of either case. -/
structure CommitId.IsDigest (id : CommitId) : Prop where
  /-- There are 64 characters. -/
  length : id.text.length = 64
  /-- Each is a digit. -/
  digits : ∀ c ∈ id.text.toList, (Text.digit? 16 c).isSome = true

namespace CommitId.IsDigest

variable {id : CommitId}

theorem ne_empty (h : id.IsDigest) : id.text ≠ "" := by
  intro hempty
  exact absurd (hempty ▸ h.length) (by decide)

theorem zero_not_mem (h : id.IsDigest) : '\x00' ∉ id.text.toList :=
  fun hzero => absurd (h.digits _ hzero) (by decide)

end CommitId.IsDigest

/-- The name of a content is made of 64 digits. -/
theorem Commit.Content.id_isDigest (content : Commit.Content) : content.id.IsDigest :=
  ⟨Digest.length_ofBytes _, fun _ => Digest.isSome_digit?_of_mem_ofBytes⟩

/-! ## What is digested -/

namespace Commit.Content

/-- The name of the commit before, or nothing. -/
def parentText (content : Content) : String := (content.parent.map CommitId.text).getD ""

theorem closed_append_inj {s t : String} (hs : '\x00' ∉ s.toList) (ht : '\x00' ∉ t.toList)
    {us vs : List UInt8} (h : closed s ++ us = closed t ++ vs) : s = t ∧ us = vs := by
  unfold closed at h
  rw [List.append_assoc, List.append_assoc] at h
  obtain ⟨hbytes, hrest⟩ :=
    append_cons_inj (Text.zero_not_mem_toUTF8 hs) (Text.zero_not_mem_toUTF8 ht) h
  exact ⟨Text.toUTF8_inj hbytes, hrest⟩

theorem zero_not_mem_parentText {content : Content}
    (h : ∀ id, content.parent = some id → id.IsDigest) : '\x00' ∉ content.parentText.toList := by
  unfold parentText
  cases hparent : content.parent with
  | none => exact List.not_mem_nil
  | some id => exact (h id hparent).zero_not_mem

/-- The text of the commit before tells it: only where there is none it is empty. -/
theorem parent_eq_of_parentText_eq {a b : Content}
    (ha : ∀ id, a.parent = some id → id.IsDigest) (hb : ∀ id, b.parent = some id → id.IsDigest)
    (h : a.parentText = b.parentText) : a.parent = b.parent := by
  unfold parentText at h
  cases hparent : a.parent with
  | none =>
    cases hparent' : b.parent with
    | none => rfl
    | some id =>
      rw [hparent, hparent'] at h
      exact absurd h.symm (hb id hparent').ne_empty
  | some id =>
    cases hparent' : b.parent with
    | none =>
      rw [hparent, hparent'] at h
      exact absurd h (ha id hparent).ne_empty
    | some id' =>
      rw [hparent, hparent'] at h
      obtain ⟨text⟩ := id
      obtain ⟨text'⟩ := id'
      exact congrArg some (congrArg CommitId.mk h)

/-- **What is digested tells the key and the commit before**, if there is no zero
character in them. -/
theorem key_parent_eq_of_bytes_eq {a b : Content} (hkey : '\x00' ∉ a.key.toList)
    (hkey' : '\x00' ∉ b.key.toList) (hparent : '\x00' ∉ a.parentText.toList)
    (hparent' : '\x00' ∉ b.parentText.toList) (h : a.bytes = b.bytes) :
    a.key = b.key ∧ a.parentText = b.parentText := by
  unfold bytes at h
  simp only [List.append_assoc] at h
  obtain ⟨hkeys, hrest⟩ := closed_append_inj hkey hkey' h
  obtain ⟨hparents, -⟩ := closed_append_inj hparent hparent' hrest
  exact ⟨hkeys, hparents⟩

end Commit.Content

end InstructionStore
