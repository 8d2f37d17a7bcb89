import Mathlib.Data.List.Basic

/-!
# The bytes of a text

A text is given by its bytes (`Text.toUTF8_inj`), and a zero byte stands for the zero
character only (`Text.zero_not_mem_toUTF8`). So where that character is not in a text, a
zero byte can be put behind it to end it. Texts of ASCII characters are in the order of
their bytes (`Text.toUTF8_lt_of_lt`).
-/

namespace InstructionStore.Text

theorem toList_eq_data (bytes : ByteArray) : bytes.toList = bytes.data.toList := by
  have hloop (i : Nat) (read : List UInt8) :
      ByteArray.toList.loop bytes i read = read.reverse ++ bytes.data.toList.drop i := by
    induction i, read using ByteArray.toList.loop.induct bytes with
    | case1 i read hlt ih =>
      have hlt' : i < bytes.data.toList.length := by rwa [Array.length_toList]
      rw [ByteArray.toList.loop, if_pos hlt, ih, List.drop_eq_getElem_cons hlt', List.reverse_cons,
        List.append_assoc]
      refine congrArg (fun b => read.reverse ++ (b :: _)) ?_
      show bytes.data[i]! = _
      rw [getElem!_pos bytes.data i hlt, Array.getElem_toList]
    | case2 i read hge =>
      rw [ByteArray.toList.loop, if_neg hge, List.drop_eq_nil_of_le, List.append_nil]
      rw [Array.length_toList]
      exact Nat.not_lt.1 hge
  exact hloop 0 []

/-- The bytes of a text are those of its characters. -/
theorem toList_toUTF8 (text : String) :
    text.toUTF8.toList = text.toList.flatMap String.utf8EncodeChar := by
  rw [toList_eq_data]
  show text.toByteArray.data.toList = _
  rw [← String.utf8Encode_toList]
  exact List.toList_data_toByteArray

theorem toUTF8_inj {s t : String} (h : s.toUTF8.toList = t.toUTF8.toList) : s = t := by
  rw [toList_eq_data, toList_eq_data] at h
  exact String.toByteArray_inj.1 (ByteArray.ext (Array.toList_inj.1 h))

/-- Only the zero character has a zero among its bytes. -/
theorem eq_of_zero_mem_utf8EncodeChar {c : Char} (h : 0 ∈ String.utf8EncodeChar c) :
    c = '\x00' := by
  have hbyte {n : Nat} (hzero : (0 : UInt8) = .ofNat n) : n % 256 = 0 :=
    (congrArg UInt8.toNat hzero).symm
  refine Char.ext (UInt32.toNat_inj.1 (?_ : c.val.toNat = 0))
  unfold String.utf8EncodeChar at h
  dsimp only at h
  -- all but the only byte of a short character have a bit set that marks them
  split at h
  · have := hbyte (List.mem_singleton.1 h)
    omega
  · exfalso
    split at h
    · simp only [List.mem_cons, List.not_mem_nil, or_false] at h
      rcases h with h | h <;> have := hbyte h <;> omega
    · split at h
      · simp only [List.mem_cons, List.not_mem_nil, or_false] at h
        rcases h with h | h | h <;> have := hbyte h <;> omega
      · simp only [List.mem_cons, List.not_mem_nil, or_false] at h
        rcases h with h | h | h | h <;> have := hbyte h <;> omega

/-- A zero byte stands for the zero character only. -/
theorem zero_not_mem_toUTF8 {text : String} (h : '\x00' ∉ text.toList) :
    0 ∉ text.toUTF8.toList := by
  rw [toList_toUTF8, List.mem_flatMap]
  rintro ⟨c, hc, hzero⟩
  exact h (eq_of_zero_mem_utf8EncodeChar hzero ▸ hc)

/-- **Texts of ASCII characters are in the order of their bytes.** -/
theorem toUTF8_lt_of_lt {s t : String} (hs : ∀ c ∈ s.toList, c.val ≤ 127)
    (ht : ∀ c ∈ t.toList, c.val ≤ 127) (h : s < t) : s.toUTF8.toList < t.toUTF8.toList := by
  have hbyte {c : Char} (hc : c.val ≤ 127) : String.utf8EncodeChar c = [c.val.toUInt8] := by
    exact String.utf8EncodeChar_eq_singleton (Char.utf8Size_eq_one_iff.2 hc)
  rw [String.lt_iff] at h
  rw [toList_toUTF8, toList_toUTF8]
  generalize s.toList = cs at hs h
  generalize t.toList = ds at ht h
  induction cs generalizing ds with
  | nil =>
    cases ds with
    | nil => exact nomatch h
    | cons d ds =>
      rw [List.forall_mem_cons] at ht
      rw [List.flatMap_nil, List.flatMap_cons, hbyte ht.1]
      exact List.nil_lt_cons _ _
  | cons c cs ih =>
    cases ds with
    | nil => exact nomatch h
    | cons d ds =>
      rw [List.forall_mem_cons] at hs ht
      rw [List.flatMap_cons, List.flatMap_cons, hbyte hs.1, hbyte ht.1]
      rw [List.cons_lt_cons_iff] at h
      rw [List.singleton_append, List.singleton_append, List.cons_lt_cons_iff]
      rcases h with hlt | ⟨rfl, hrest⟩
      · left
        have hc : c.val.toNat ≤ 127 := hs.1
        have hd : d.val.toNat ≤ 127 := ht.1
        have hcd : c.val.toNat < d.val.toNat := hlt
        rw [UInt8.lt_iff_toNat_lt, UInt32.toNat_toUInt8, UInt32.toNat_toUInt8]
        omega
      · exact .inr ⟨rfl, ih hs.2 ds ht.2 hrest⟩

end InstructionStore.Text
