import InstructionStore.Json.Printer
import InstructionStore.Json.Reader

/-!
# Strings are read as they were written

A string is written character by character, some as escapes, and each of these
is read as the character again (`stringBody_escapeChar`). No escape is half of a
surrogate pair, so the reader never has one waiting.
-/

namespace InstructionStore.Json.Reader

theorem hexValue_digitChar {d : Nat} (h : d < 16) : hexValue (Nat.digitChar d) = some d := by
  have hall : ∀ d : Fin 16, hexValue (Nat.digitChar d) = some d.val := by decide
  exact hall ⟨d, h⟩

/-- Four hexadecimal digits of a control character are read as it. -/
theorem stringBody_controlEscape {c : Char} (h : c.toNat < 0x20) (done rest : List Char) :
    stringBody .between none done
        (['\\', 'u', '0', '0', Nat.digitChar (c.toNat / 16), Nat.digitChar (c.toNat % 16)] ++ rest)
      = stringBody .between none (c :: done) rest := by
  have hhigh := hexValue_digitChar (show c.toNat / 16 < 16 by omega)
  have hlow := hexValue_digitChar (show c.toNat % 16 < 16 by omega)
  have hzero : hexValue '0' = some 0 := by decide
  have hvalue : (((0 * 16 + 0) * 16 + 0) * 16 + c.toNat / 16) * 16 + c.toNat % 16 = c.toNat := by
    omega
  have hfirst : ¬(0xdc00 ≤ c.toNat ∧ c.toNat ≤ 0xdfff) := by omega
  have hsecond : ¬(0xd800 ≤ c.toNat ∧ c.toNat ≤ 0xdbff) := by omega
  simp only [List.cons_append, List.nil_append, stringBody, reduceIte, hzero, hhigh, hlow,
    Nat.reduceLT, Nat.reduceSub, hvalue, hfirst, hsecond, Char.ofNat_toNat]

/-- **A character is read as it was written.** -/
theorem stringBody_escapeChar (c : Char) (done rest : List Char) :
    stringBody .between none done (escapeChar c ++ rest)
      = stringBody .between none (c :: done) rest := by
  unfold escapeChar
  split
  case isTrue h => subst h; rfl
  split
  case isTrue h => subst h; rfl
  split
  case isTrue h => subst h; rfl
  split
  case isTrue h => subst h; rfl
  split
  case isTrue h => subst h; rfl
  split
  case isTrue h => subst h; rfl
  split
  case isTrue h => subst h; rfl
  split
  case isTrue h => exact stringBody_controlEscape h done rest
  case isFalse hquote hbackslash _ _ _ _ _ hcontrol =>
    rw [List.singleton_append, stringBody, if_neg hbackslash, if_neg (by decide), if_neg hquote,
      if_neg hcontrol]

theorem stringBody_flatMap (chars done rest : List Char) :
    stringBody .between none done (chars.flatMap escapeChar ++ '"' :: rest)
      = .ok (String.ofList (done.reverse ++ chars), rest) := by
  induction chars generalizing done with
  | nil => simp [stringBody]
  | cons c chars ih =>
    rw [List.flatMap_cons, List.append_assoc, stringBody_escapeChar, ih, List.reverse_cons,
      List.append_assoc, List.singleton_append]

/-- **A string is read as it was written**, after its opening mark. -/
theorem string_flatMap (s : String) (rest : List Char) :
    string (s.toList.flatMap escapeChar ++ '"' :: rest) = .ok (s, rest) := by
  unfold string
  rw [stringBody_flatMap, List.reverse_nil, List.nil_append, String.ofList_toList]

end InstructionStore.Json.Reader
