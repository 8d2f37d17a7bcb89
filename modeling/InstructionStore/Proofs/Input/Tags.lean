import InstructionStore.Proofs.Input.Identifiers
import Mathlib.Data.List.Induction
import Mathlib.Data.List.Nodup

/-!
# Tags

Tags are checked one after the other, and one that was there before is dropped. What this
comes to can be said without the loop. There are no tags if one of the texts is no
identifier, and the leftmost such text is what is refused (`normalizeTags_eq_error_iff`). All
other texts have a **normal form** (`IsNormalForm`): the tags that were given, each once, in
the order in which they were given first. There is one normal form only, and it is what the
check yields (`normalizeTags_eq_ok_iff`).

Tags that follow others lose those that were there before, and nothing else
(`foldlM_keepTag`). So the tags of two lists put together depend on what each of them comes
to alone (`normalizeTags_append`), and normal forms stay as they are
(`normalizeTags_normalizeTags`).
-/

namespace InstructionStore

/-! ## Texts, each once -/

/-- One more text is dropped if it was there before. -/
theorem eraseDups_concat (texts : List String) (text : String) :
    (texts ++ [text]).eraseDups
      = if texts.contains text then texts.eraseDups else texts.eraseDups ++ [text] := by
  rw [List.eraseDups_append, List.cons_removeAll, List.nil_removeAll]
  cases texts.contains text with
  | true => exact List.append_nil _
  | false => rfl

/-- What is left after repeated texts are dropped stands in the order of first places. -/
theorem pairwise_idxOf_eraseDups (texts : List String) :
    texts.eraseDups.Pairwise fun a b => texts.idxOf a < texts.idxOf b := by
  induction texts using List.reverseRecOn with
  | nil => exact .nil
  | append_singleton texts text ih =>
    have hearlier : texts.eraseDups.Pairwise fun a b =>
        (texts ++ [text]).idxOf a < (texts ++ [text]).idxOf b := by
      refine ih.imp_of_mem fun ha hb hlt => ?_
      rwa [List.idxOf_append_of_mem (List.mem_eraseDups.1 ha),
        List.idxOf_append_of_mem (List.mem_eraseDups.1 hb)]
    rw [eraseDups_concat]
    split
    case isTrue => exact hearlier
    case isFalse hnew =>
      rw [List.contains_iff_mem] at hnew
      refine List.pairwise_append.2 ⟨hearlier, List.pairwise_singleton _ _, fun a ha b hb => ?_⟩
      obtain rfl := List.mem_singleton.1 hb
      have ha := List.mem_eraseDups.1 ha
      rw [List.idxOf_append_of_mem ha, List.idxOf_append, if_neg hnew]
      exact Nat.lt_of_lt_of_le (List.idxOf_lt_length_iff.2 ha) (Nat.le_add_left _ _)

namespace Identifier

open Outcome

variable {texts : List String} {tags : List Identifier} {refused : InvalidInput}

/-! ## One tag after the other -/

/-- One more text is checked and put behind the tags there are, unless it is among them. -/
def keepTag (tags : List Identifier) (text : String) : Except InvalidInput (List Identifier) := do
  let tag ← ofField "tags" text
  return if tags.contains tag then tags else tags ++ [tag]

theorem normalizeTags_eq_foldlM (texts : List String) :
    normalizeTags texts = texts.foldlM keepTag [] := rfl

theorem normalizeTags_concat (texts : List String) (text : String) :
    normalizeTags (texts ++ [text]) = (normalizeTags texts >>= fun tags => keepTag tags text) := by
  rw [normalizeTags_eq_foldlM, List.foldlM_append]
  exact bind_congr fun tags => List.foldlM_cons.trans (bind_pure _)

theorem keepTag_eq_ok_iff {kept : List Identifier} {text : String} :
    keepTag kept text = .ok tags ↔
      ∃ tag : Identifier, tag.text = text ∧ tags = if tag ∈ kept then kept else kept ++ [tag] := by
  unfold keepTag
  simp only [bind_eq_ok_iff, ofField_eq_ok_iff, List.contains_iff_mem, pure_eq, Except.ok.injEq,
    eq_comm (a := tags)]

/-- **Tags are kept in their order**, each once. -/
theorem normalizeTags_eq_ok (h : normalizeTags texts = .ok tags) :
    tags.Nodup ∧ tags.map Identifier.text = texts.eraseDups := by
  induction texts using List.reverseRecOn generalizing tags with
  | nil =>
    cases h
    exact ⟨.nil, rfl⟩
  | append_singleton texts text ih =>
    rw [normalizeTags_concat, bind_eq_ok_iff] at h
    obtain ⟨kept, hkept, h⟩ := h
    obtain ⟨tag, rfl, rfl⟩ := keepTag_eq_ok_iff.1 h
    obtain ⟨hnodup, htexts⟩ := ih hkept
    -- a tag is among those kept when its text is among the texts so far
    have hcontains : texts.contains tag.text = decide (tag ∈ kept) := by
      rw [Bool.eq_iff_iff, List.contains_iff_mem, decide_eq_true_eq, ← List.mem_eraseDups, ← htexts]
      exact List.mem_map_of_injective fun _ _ => text_inj.1
    rw [eraseDups_concat, hcontains, ← htexts]
    by_cases hmem : tag ∈ kept
    · rw [if_pos hmem, if_pos (decide_eq_true hmem)]
      exact ⟨hnodup, rfl⟩
    · rw [if_neg hmem, if_neg (by rwa [decide_eq_true_eq]), List.map_append, List.map_singleton]
      refine ⟨List.nodup_append.2 ⟨hnodup, List.nodup_singleton tag, ?_⟩, rfl⟩
      rintro a ha b hb rfl
      exact hmem (List.mem_singleton.1 hb ▸ ha)

/-- **Tags that follow others** lose those that were there before. -/
theorem foldlM_keepTag (kept : List Identifier) (texts : List String) :
    texts.foldlM keepTag kept
      = (do let tags ← normalizeTags texts; return kept ++ tags.filter (· ∉ kept)) := by
  induction texts using List.reverseRecOn with
  | nil => exact congrArg Except.ok (List.append_nil kept).symm
  | append_singleton texts text ih =>
    rw [List.foldlM_append, ih, normalizeTags_concat]
    cases normalizeTags texts with
    | error refused => rfl
    | ok tags =>
      simp only [ok_bind, pure_eq, List.foldlM_cons, List.foldlM_nil]
      unfold keepTag
      cases ofField "tags" text with
      | error refused => rfl
      | ok tag =>
        refine congrArg Except.ok ?_
        by_cases hkept : tag ∈ kept <;> by_cases hmem : tag ∈ tags <;>
          simp [hkept, hmem, List.filter_append]

/-- **The tags of two lists put together** depend on what each list comes to alone. -/
theorem normalizeTags_append (texts more : List String) :
    normalizeTags (texts ++ more) = (do
      let tags ← normalizeTags texts
      let others ← normalizeTags more
      return tags ++ others.filter (· ∉ tags)) := by
  rw [normalizeTags_eq_foldlM, List.foldlM_append]
  exact bind_congr fun tags => foldlM_keepTag tags more

theorem normalizeTags_cons (text : String) (texts : List String) :
    normalizeTags (text :: texts) = (do
      let tag ← ofField "tags" text
      let tags ← normalizeTags texts
      return tag :: tags.filter (· ≠ tag)) := by
  rw [← List.singleton_append, normalizeTags_append, normalizeTags_eq_foldlM]
  unfold List.foldlM keepTag
  cases ofField "tags" text with
  | error refused => rfl
  | ok tag => simp

/-! ## Texts that are refused -/

/-- **The first tag that is no identifier is refused.** -/
theorem normalizeTags_eq_error_iff :
    normalizeTags texts = .error refused ↔
      ∃ before tag after d, texts = before ++ tag :: after ∧ (∀ t ∈ before, IsValid t)
        ∧ HasDefect tag d ∧ refused = ⟨"tags", tag, .identifier d⟩ := by
  induction texts with
  | nil => simp [normalizeTags]
  | cons text texts ih =>
    rw [normalizeTags_cons, bind_eq_error_iff, ofField_eq_error_iff]
    constructor
    · rintro (⟨d, hd, rfl⟩ | ⟨tag, htag, hrest⟩)
      · exact ⟨[], text, texts, d, rfl, nofun, hd, rfl⟩
      · obtain herror | ⟨_, -, hpure⟩ := bind_eq_error_iff.1 hrest
        · obtain ⟨before, refused, after, d, rfl, hvalid, hd, rfl⟩ := ih.1 herror
          have htext : IsValid text := (exists_ofField_eq_ok_iff "tags").1 ⟨tag, htag⟩
          exact ⟨text :: before, refused, after, d, rfl,
            List.forall_mem_cons.2 ⟨htext, hvalid⟩, hd, rfl⟩
        · exact nomatch hpure
    · rintro ⟨_ | ⟨first, before⟩, tag, after, d, hsplit, hvalid, hd, rfl⟩
      · obtain ⟨rfl, rfl⟩ := List.cons.inj hsplit
        exact .inl ⟨d, hd, rfl⟩
      · obtain ⟨rfl, rfl⟩ := List.cons.inj hsplit
        rw [List.forall_mem_cons] at hvalid
        refine .inr ⟨⟨text, hvalid.1⟩, ofField_eq_ok_iff.2 rfl, bind_eq_error_iff.2 (.inl ?_)⟩
        exact ih.2 ⟨before, tag, after, d, rfl, hvalid.2, hd, rfl⟩

/-- Nothing is refused if all texts are identifiers. -/
theorem exists_normalizeTags_eq_ok_iff :
    (∃ tags, normalizeTags texts = .ok tags) ↔ ∀ t ∈ texts, IsValid t := by
  induction texts with
  | nil => exact ⟨fun _ => nofun, fun _ => ⟨[], rfl⟩⟩
  | cons text texts ih =>
    rw [normalizeTags_cons, List.forall_mem_cons, ← ih, ← exists_ofField_eq_ok_iff "tags"]
    simp only [bind_eq_ok_iff, pure_eq, Except.ok.injEq]
    constructor
    · rintro ⟨_, tag, htag, tags, htags, -⟩
      exact ⟨⟨tag, htag⟩, tags, htags⟩
    · rintro ⟨⟨tag, htag⟩, tags, htags⟩
      exact ⟨_, tag, htag, tags, htags, rfl⟩

theorem exists_normalizeTags_eq_error_iff :
    (∃ refused, normalizeTags texts = .error refused) ↔ ∃ tag ∈ texts, ¬IsValid tag := by
  have hok : (∃ tags, normalizeTags texts = .ok tags) ↔ ∀ t ∈ texts, IsValid t :=
    exists_normalizeTags_eq_ok_iff
  cases h : normalizeTags texts with
  | ok tags =>
    refine ⟨nofun, fun ⟨tag, htag, hnot⟩ => absurd (hok.1 ⟨tags, h⟩ tag htag) hnot⟩
  | error refused =>
    refine ⟨fun _ => ?_, fun _ => ⟨refused, rfl⟩⟩
    by_contra hnone
    obtain ⟨tags, htags⟩ := hok.2 fun t ht => by_contra fun hnot => hnone ⟨t, ht, hnot⟩
    exact nomatch h.symm.trans htags

/-! ## Normal forms -/

/-- **The normal form of texts**: the tags they are, each once and in the order in which they
were given first. -/
structure IsNormalForm (texts : List String) (tags : List Identifier) : Prop where
  /-- No tag is there twice. -/
  nodup : tags.Nodup
  /-- The tags are those that were given. -/
  mem_iff : ∀ text, text ∈ tags.map Identifier.text ↔ text ∈ texts
  /-- Of two tags the one comes first that was given first. -/
  inOrder : (tags.map Identifier.text).Pairwise fun a b => texts.idxOf a < texts.idxOf b

theorem IsNormalForm.eq {tags' : List Identifier} (h : IsNormalForm texts tags)
    (h' : IsNormalForm texts tags') : tags = tags' := by
  have hinj : Function.Injective Identifier.text := fun _ _ => text_inj.1
  have hperm : (tags.map Identifier.text).Perm (tags'.map Identifier.text) :=
    (List.perm_ext_iff_of_nodup (h.nodup.map hinj) (h'.nodup.map hinj)).2
      fun text => (h.mem_iff text).trans (h'.mem_iff text).symm
  refine List.map_injective_iff.2 hinj (hperm.eq_of_pairwise ?_ h.inOrder h'.inOrder)
  exact fun a b _ _ hab hba => absurd hab (Nat.lt_asymm hba)

theorem isNormalForm_of_normalizeTags (h : normalizeTags texts = .ok tags) :
    IsNormalForm texts tags := by
  obtain ⟨hnodup, htexts⟩ := normalizeTags_eq_ok h
  refine ⟨hnodup, fun text => ?_, ?_⟩
  · rw [htexts, List.mem_eraseDups]
  · rw [htexts]
    exact pairwise_idxOf_eraseDups texts

/-- **The check yields the normal form.** -/
theorem normalizeTags_eq_ok_iff : normalizeTags texts = .ok tags ↔ IsNormalForm texts tags := by
  refine ⟨isNormalForm_of_normalizeTags, fun h => ?_⟩
  have hvalid : ∀ t ∈ texts, IsValid t := fun t ht => by
    obtain ⟨tag, -, rfl⟩ := List.mem_map.1 ((h.mem_iff t).2 ht)
    exact tag.valid
  obtain ⟨tags', htags'⟩ := exists_normalizeTags_eq_ok_iff.2 hvalid
  rw [htags', (isNormalForm_of_normalizeTags htags').eq h]

/-- Tags without repetition are their own normal form. -/
theorem normalizeTags_map_text (h : tags.Nodup) :
    normalizeTags (tags.map Identifier.text) = .ok tags := by
  induction tags with
  | nil => rfl
  | cons tag tags ih =>
    rw [List.nodup_cons] at h
    have hall : ∀ t ∈ tags, decide (t ≠ tag) = true := fun t ht =>
      decide_eq_true fun heq => h.1 (heq ▸ ht)
    rw [List.map_cons, normalizeTags_cons, ofField_eq_ok_iff.2 rfl, ok_bind, ih h.2, ok_bind,
      List.filter_eq_self.2 hall]
    rfl

/-- **Normal forms stay as they are.** -/
theorem normalizeTags_normalizeTags (texts : List String) :
    (do let tags ← normalizeTags texts; normalizeTags (tags.map Identifier.text))
      = normalizeTags texts := by
  cases h : normalizeTags texts with
  | error refused => rfl
  | ok tags => exact normalizeTags_map_text (normalizeTags_eq_ok h).1

/-- **What texts come to as tags.** They are refused exactly if one of them is no identifier,
and then it is the leftmost such text that is refused, for its defect. Otherwise they come to
their normal form. It is its own normal form, and of two lists put together the normal form,
or the refusal, depends on what each of them comes to. -/
theorem normalizeTags_keepsFirst (texts : List String) :
    ((∃ refused, normalizeTags texts = .error refused) ↔ ∃ tag ∈ texts, ¬IsValid tag) ∧
    (∀ refused, normalizeTags texts = .error refused ↔
      ∃ before tag after d, texts = before ++ tag :: after ∧ (∀ t ∈ before, IsValid t)
        ∧ HasDefect tag d ∧ refused = ⟨"tags", tag, .identifier d⟩) ∧
    (∀ tags, normalizeTags texts = .ok tags ↔ IsNormalForm texts tags) ∧
    (do let tags ← normalizeTags texts; normalizeTags (tags.map Identifier.text))
      = normalizeTags texts ∧
    ∀ more, normalizeTags (texts ++ more) = (do
      let tags ← normalizeTags texts
      let others ← normalizeTags more
      return tags ++ others.filter (· ∉ tags)) :=
  ⟨exists_normalizeTags_eq_error_iff, fun _ => normalizeTags_eq_error_iff,
    fun _ => normalizeTags_eq_ok_iff, normalizeTags_normalizeTags texts,
    normalizeTags_append texts⟩

end Identifier

end InstructionStore
