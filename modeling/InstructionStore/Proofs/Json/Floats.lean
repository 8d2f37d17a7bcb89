import InstructionStore.Proofs.Json.Numbers
import InstructionStore.Proofs.Number.Shortest

/-!
# Floats are read as floats

The text of a float has a point or an exponent, so it is read as a float again
(`exists_reads_printFloat`). Which one is not said: the reader rounds more than
once, and can miss the number by a little.

It does not miss by so much that the number is out of range. The digits of a
number that is not the greatest are so far below half way to infinity that three
roundings do not matter, and those of the greatest are read as it
(`rankOfParts_shortest_lt`).
-/

namespace InstructionStore.Json.Reader

open Binary64
open Nat (ofDigitChars)

/-! ## The range -/

theorem scaleDown_le (rank exponent : Nat) : scaleDown rank exponent ≤ rank := by
  fun_induction scaleDown rank exponent with
  | case1 rank exponent => exact divRank_le (unitsInOne_le_powerOfTenRank exponent)
  | case2 => exact Nat.zero_le _
  | case3 rank exponent _ _ ih =>
    exact Nat.le_trans ih (divRank_le (unitsInOne_le_powerOfTenRank 308))

/-- Few digits and a negative exponent are in range. -/
theorem rankOfParts_negSucc_lt {digits : Nat} (h : digits ≤ 10 ^ 18) (e : Nat) :
    rankOfParts digits (.negSucc e) < limit := by
  have hbound : rankOfRatio (10 ^ 18) 1 < limit := by decide +kernel
  exact Nat.lt_of_le_of_lt
    (Nat.le_trans (scaleDown_le _ _) (rankOfRatio_mono Nat.one_pos h)) hbound

theorem rankOfParts_ofNat_le {digits digits' e e' : Nat} (hdigits : digits ≤ digits')
    (he : e ≤ e') (he' : e' ≤ 308) :
    rankOfParts digits (.ofNat e) ≤ mulRank (rankOfRatio digits' 1) (powerOfTenRank e') := by
  unfold rankOfParts
  dsimp only
  rw [if_pos (Nat.le_trans he he')]
  exact mulRank_mono (rankOfRatio_mono Nat.one_pos hdigits) (powerOfTenRank_mono he)

/-- Half way between the two greatest numbers, in half units. -/
def lastHalf : Nat := units (limit - 2) + units (limit - 1)

/-- **The decimal of a number that is not the greatest** is in range. For large
exponents the digits are few, and each of these exponents is looked at alone. -/
theorem rankOfParts_lt_of_isNear {rank e : Nat} {digits : Nat}
    (h : Decimal.IsNear rank ⟨digits, .ofNat e⟩) (hrank : rank ≤ limit - 2) :
    rankOfParts digits (.ofNat e) < limit := by
  have hlimit : limit - 2 < limit := by decide
  have he : e ≤ 308 := by
    have hle := h.exponent_le (Nat.lt_of_le_of_lt hrank hlimit)
    exact Int.ofNat_le.1 hle
  by_cases hsmall : e ≤ 291
  · have hbound : mulRank (rankOfRatio (10 ^ 17) 1) (powerOfTenRank 291) < limit := by
      decide +kernel
    exact Nat.lt_of_le_of_lt (rankOfParts_ofNat_le h.short hsmall (by decide)) hbound
  · have hbound : ∀ i : Fin 17, mulRank
        (rankOfRatio (lastHalf / (powerOfTen (292 + i.val) * (2 * unitsInOne))) 1)
        (powerOfTenRank (292 + i.val)) < limit := by
      decide +kernel
    have hdigits : digits ≤ lastHalf / (powerOfTen e * (2 * unitsInOne)) := by
      have hden : 0 < powerOfTen e * (2 * unitsInOne) :=
        Nat.mul_pos (ten_pow_pos e) (Nat.mul_pos Nat.two_pos unitsInOne_pos)
      have hle : digits * powerOfTen e * (2 * unitsInOne)
          ≤ (units rank + units (rank + 1)) * 10 ^ (-(e : Int)).toNat := h.atMost
      rw [Int.toNat_neg_natCast, Nat.pow_zero, Nat.mul_one, Nat.mul_assoc] at hle
      rw [Nat.le_div_iff_mul_le hden]
      exact Nat.le_trans hle (Nat.add_le_add (units_le hrank) (units_le (Nat.succ_le_succ hrank)))
    have hlast := hbound ⟨e - 292, by omega⟩
    dsimp only at hlast
    rw [show 292 + (e - 292) = e by omega] at hlast
    exact Nat.lt_of_le_of_lt (rankOfParts_ofNat_le hdigits (Nat.le_refl e) he) hlast

theorem shortest_greatest : shortest (limit - 1) = ⟨17976931348623157, 292⟩ := by
  have hgrid : firstGrid (limit - 1) (leadingExponent (limit - 1)) 1 17
      = ⟨17976931348623157, 292⟩ := by decide +kernel
  unfold shortest
  rw [if_neg (by decide), hgrid]
  unfold Decimal.trim
  rfl

/-- **The shortest decimal of a number is in range.** -/
theorem rankOfParts_shortest_lt {rank : Nat} (hpos : 0 < rank) (hrank : rank < limit) :
    rankOfParts (shortest rank).digits (shortest rank).exponent < limit := by
  by_cases hlast : rank = limit - 1
  · have hbound : rankOfParts 17976931348623157 292 < limit := by decide +kernel
    rw [hlast, shortest_greatest]
    exact hbound
  · have hnear := shortest_isNear hpos
    generalize shortest rank = d at hnear ⊢
    obtain ⟨digits, e | e⟩ := d
    · exact rankOfParts_lt_of_isNear hnear (by omega)
    · exact rankOfParts_negSucc_lt (Nat.le_trans hnear.short (by decide)) e

/-! ## The forms of a float -/

/-- **The text is read as a float with the given parts**, after its sign. -/
structure ReadsParts (text : List Char) (significand : Nat) (exponent : Int) : Prop where
  /-- The text begins with a digit. -/
  begins : ∃ c rest, text = c :: rest ∧ c.isDigit = true
  /-- The text is read up to its end. -/
  reads : ∀ (negative : Bool) (rest : List Char), Ends rest →
    number negative (text ++ rest) = floatOfParts negative significand exponent rest

theorem afterDigits_of_ends {negative : Bool} {significand : Nat} {exponent : Int}
    {rest : List Char} (h : Ends rest) :
    afterDigits negative significand exponent rest
      = floatOfParts negative significand exponent rest := by
  unfold afterDigits
  split
  case h_1 rest => rcases h _ rfl with hc | hc | hc <;> cases hc
  case h_2 rest => rcases h _ rfl with hc | hc | hc <;> cases hc
  case h_3 => rfl

/-- **The digits after a point** go on with the number before it. -/
theorem fractionPart_digits {negative : Bool} {n : Nat} {exponent : Int}
    {digits rest : List Char} (hdigits : ∀ c ∈ digits, c.isDigit = true) (hne : digits ≠ [])
    (hfits : ofDigitChars 10 digits n ≤ maxWord) (hrest : NoDigit rest) :
    fractionPart negative n exponent (digits ++ rest)
      = afterDigits negative (ofDigitChars 10 digits n) (exponent - digits.length) rest := by
  unfold fractionPart
  dsimp only
  rw [takeWhile_digits hdigits hrest, dropWhile_digits hdigits hrest,
    if_neg (by rwa [List.isEmpty_iff]), accumulate_eq hfits]
  rfl

/-- **The digits of an exponent** are read after their sign. -/
theorem exponentPart_decimal {negative minus : Bool} {significand m : Nat} {exponent : Int}
    {rest : List Char} (hm : m ≤ maxExponent) (hrest : Ends rest) :
    exponentPart negative significand exponent
        ((if minus then '-' else '+') :: (Text.decimal m ++ rest))
      = floatOfParts negative significand (if minus then exponent - m else exponent + m)
          rest := by
  have hdigits : ∀ c ∈ Text.decimal m, c.isDigit = true := fun c => Text.isDigit_of_mem_decimal
  have hvalue := Text.ofDigitChars_decimal m
  obtain ⟨c, digits, hc⟩ := List.exists_cons_of_ne_nil (Text.decimal_ne_nil m)
  rw [hc] at hdigits hvalue ⊢
  have htail : ∀ d ∈ digits, d.isDigit = true := fun d hd =>
    hdigits d (List.mem_cons_of_mem c hd)
  rw [List.cons_append]
  -- the reader branches on the sign first, and goes on the same either way
  have hread : (if c.isDigit then
        let after := (digits ++ rest).dropWhile Char.isDigit
        let read := accumulate maxExponent 0 (c :: (digits ++ rest).takeWhile Char.isDigit)
        if read.2.isEmpty then
          floatOfParts negative significand
            (if minus then exponent - read.1 else exponent + read.1) after
        else if significand ≠ 0 ∧ minus = false then
          .error (.located .numberOutOfRange (byteLength after + (read.2.length - 1)))
        else .ok (.float (.zero negative), after)
      else .error (.located .invalidNumber (byteLength (c :: (digits ++ rest)) - 1)))
      = floatOfParts negative significand (if minus then exponent - m else exponent + m)
          rest := by
    rw [if_pos (hdigits c List.mem_cons_self), takeWhile_digits htail hrest.noDigit,
      dropWhile_digits htail hrest.noDigit, accumulate_eq (by rw [hvalue]; exact hm), hvalue]
    rfl
  cases minus with
  | false => exact hread
  | true => exact hread

variable {d : Decimal}

/-- The digits of a decimal in order, with at least one of them first. -/
theorem exists_digits (d : Decimal) (hpos : 1 ≤ d.digits) :
    ∃ c fraction, Text.decimal d.digits = c :: fraction ∧ c ≠ '0'
      ∧ (∀ x ∈ c :: fraction, x.isDigit = true)
      ∧ ofDigitChars 10 (c :: fraction) 0 = d.digits := by
  obtain ⟨c, fraction, hc⟩ := List.exists_cons_of_ne_nil (Text.decimal_ne_nil d.digits)
  refine ⟨c, fraction, hc, ?_, ?_, ?_⟩
  · rintro rfl
    exact absurd (Text.eq_zero_of_decimal hc) (Nat.ne_of_gt hpos)
  · rw [← hc]
    exact fun x => Text.isDigit_of_mem_decimal
  · rw [← hc, Text.ofDigitChars_decimal]

/-- Digits, a point, and digits again are read as all the digits. -/
theorem number_point {negative : Bool} {whole fraction rest : List Char} {n : Nat}
    (hwhole : ∀ x ∈ whole, x.isDigit = true) (hne : whole ≠ [])
    (hzero : ∀ ds, whole = '0' :: ds → ds = [])
    (hfraction : ∀ x ∈ fraction, x.isDigit = true) (hne' : fraction ≠ [])
    (hn : ofDigitChars 10 (whole ++ fraction) 0 = n) (hfits : n ≤ maxWord)
    (hrest : NoDigit rest) :
    number negative (whole ++ '.' :: (fraction ++ rest))
      = afterDigits negative n (-(fraction.length : Int)) rest := by
  rw [Nat.ofDigitChars_append] at hn
  have hle := le_ofDigitChars fraction (ofDigitChars 10 whole 0)
  rw [number_digits hwhole hne hzero rfl (by omega) (noDigit_cons (by decide))]
  show fractionPart negative _ 0 (fraction ++ rest) = _
  rw [fractionPart_digits hfraction hne' (by omega) hrest, hn, Int.zero_sub]

/-- **Scientific notation** is read as the decimal. -/
theorem readsParts_scientific (hpos : 1 ≤ d.digits) (hfits : d.digits ≤ maxWord)
    (hexponent : d.magnitude.natAbs ≤ maxExponent) :
    ReadsParts d.scientific d.digits d.exponent := by
  obtain ⟨c, fraction, hc, hne, hdigits, hvalue⟩ := exists_digits d hpos
  refine ⟨⟨c, _, by rw [Decimal.scientific, hc]; rfl, hdigits c List.mem_cons_self⟩,
    fun negative rest hrest => ?_⟩
  have hmagnitude : d.magnitude = fraction.length + d.exponent := by
    unfold Decimal.magnitude
    rw [hc, List.length_cons]
    omega
  have hhead : ∀ x ∈ [c], x.isDigit = true := fun x hx =>
    hdigits x (List.mem_cons.2 (.inl (List.mem_singleton.1 hx)))
  have hzero : ∀ ds, [c] = '0' :: ds → ds = [] := fun ds h => absurd (List.cons.inj h).1 hne
  have hsign : (if d.magnitude < 0 then '-' else '+')
      = (if decide (d.magnitude < 0) then '-' else '+') := by
    simp only [decide_eq_true_eq]
  have hsum : (if decide (d.magnitude < 0) then
      (-(fraction.length : Int)) - d.magnitude.natAbs else
      (-(fraction.length : Int)) + d.magnitude.natAbs) = d.exponent := by
    simp only [decide_eq_true_eq]
    split <;> omega
  -- whether there is a fraction or not, the exponent is read after all digits
  have hnumber (tail : List Char) :
      number negative ([c] ++ (if fraction.isEmpty then [] else '.' :: fraction) ++ 'e' :: tail)
        = exponentPart negative d.digits (-(fraction.length : Int)) tail := by
    cases fraction with
    | nil =>
      exact number_digits hhead (List.cons_ne_nil c []) hzero hvalue hfits
        (noDigit_cons (by decide))
    | cons x fraction =>
      have htail : ∀ y ∈ x :: fraction, y.isDigit = true := fun y hy =>
        hdigits y (List.mem_cons_of_mem c hy)
      exact number_point hhead (List.cons_ne_nil c []) hzero htail (List.cons_ne_nil x fraction)
        hvalue hfits (noDigit_cons (by decide))
  have hread := hnumber ((if decide (d.magnitude < 0) then '-' else '+')
    :: (Text.decimal d.magnitude.natAbs ++ rest))
  rw [exponentPart_decimal hexponent hrest, hsum] at hread
  rw [← hread]
  unfold Decimal.scientific
  rw [hc, hsign]
  simp only [List.take_succ_cons, List.take_zero, List.drop_succ_cons, List.drop_zero,
    List.append_assoc, List.cons_append, List.nil_append]

theorem ofDigitChars_zeros_append (n : Nat) (digits : List Char) :
    ofDigitChars 10 (List.replicate n '0' ++ digits) 0 = ofDigitChars 10 digits 0 := by
  rw [Nat.ofDigitChars_append, Nat.ofDigitChars_replicate_zero, Nat.mul_zero]

theorem isDigit_of_mem_zeros {n : Nat} {c : Char} (h : c ∈ List.replicate n '0') :
    c.isDigit = true := by
  rw [List.eq_of_mem_replicate h]
  rfl

theorem isDigit_of_mem_zero (c : Char) (h : c ∈ ['0']) : c.isDigit = true :=
  isDigit_of_mem_zeros (n := 1) h

/-- **Positional notation with decimal places** is read as the decimal. -/
theorem readsParts_positional_negSucc {digits e : Nat} (hpos : 1 ≤ digits)
    (hfits : digits ≤ maxWord) :
    ReadsParts (Decimal.positional ⟨digits, .negSucc e⟩) digits (.negSucc e) := by
  obtain ⟨c, fraction, hc, hne, hdigits, hvalue⟩ := exists_digits ⟨digits, .negSucc e⟩ hpos
  dsimp only at hc hvalue
  unfold Decimal.positional
  dsimp only
  rw [hc]
  split
  case isTrue hplaces =>
    -- the point stands among the digits
    generalize hk : (c :: fraction).length - (e + 1) = k
    obtain ⟨k, rfl⟩ := Nat.exists_eq_succ_of_ne_zero (show k ≠ 0 by omega)
    refine ⟨⟨c, _, rfl, hdigits c List.mem_cons_self⟩, fun negative rest hrest => ?_⟩
    have hsplit := List.take_append_drop (k + 1) (c :: fraction)
    have hlength : ((c :: fraction).drop (k + 1)).length = e + 1 := by
      rw [List.length_drop]
      omega
    have hzero : ∀ ds, (c :: fraction).take (k + 1) = '0' :: ds → ds = [] :=
      fun ds h => absurd (List.cons.inj h).1 hne
    have hwhole : (c :: fraction).take (k + 1) ≠ [] := List.cons_ne_nil c _
    have hfraction : (c :: fraction).drop (k + 1) ≠ [] := by
      intro h
      rw [h] at hlength
      exact nomatch hlength
    rw [List.append_assoc, List.cons_append, number_point
      (fun x hx => hdigits x (List.mem_of_mem_take hx)) hwhole hzero
      (fun x hx => hdigits x (List.mem_of_mem_drop hx)) hfraction (hsplit.symm ▸ hvalue) hfits
      hrest.noDigit, afterDigits_of_ends hrest, hlength]
    rfl
  case isFalse hplaces =>
    -- zeros stand between the point and the digits
    generalize hzeros : e + 1 - (c :: fraction).length = zeros
    refine ⟨⟨'0', _, rfl, rfl⟩, fun negative rest hrest => ?_⟩
    have hzero : ∀ ds, ['0'] = '0' :: ds → ds = [] := fun ds h => (List.cons.inj h).2.symm
    have hfraction : ∀ x ∈ List.replicate zeros '0' ++ c :: fraction, x.isDigit = true := by
      intro x hx
      rcases List.mem_append.1 hx with hx | hx
      · exact isDigit_of_mem_zeros hx
      · exact hdigits x hx
    have hne' : List.replicate zeros '0' ++ c :: fraction ≠ [] :=
      List.append_ne_nil_of_right_ne_nil _ (List.cons_ne_nil c fraction)
    have hall : ofDigitChars 10 (['0'] ++ (List.replicate zeros '0' ++ c :: fraction)) 0
        = digits := by
      rw [List.singleton_append, Nat.ofDigitChars_cons, Nat.mul_zero, Nat.sub_self, Nat.add_zero,
        ofDigitChars_zeros_append, hvalue]
    have hlength : (List.replicate zeros '0' ++ c :: fraction).length = e + 1 := by
      rw [List.length_append, List.length_replicate]
      omega
    have hread : number negative (['0'] ++ '.' :: ((List.replicate zeros '0' ++ c :: fraction)
        ++ rest)) = afterDigits negative digits (-((e + 1 : Nat) : Int)) rest := by
      rw [← hlength]
      exact number_point isDigit_of_mem_zero (List.cons_ne_nil _ _) hzero hfraction hne' hall
        hfits hrest.noDigit
    rw [afterDigits_of_ends hrest] at hread
    simp only [List.append_assoc, List.cons_append, List.nil_append] at hread ⊢
    exact hread

/-- **Positional notation without decimal places** is read with one more zero. -/
theorem readsParts_positional_ofNat {digits e : Nat} (hpos : 1 ≤ digits)
    (hfits : digits * 10 ^ e * 10 ≤ maxWord) :
    ReadsParts (Decimal.positional ⟨digits, .ofNat e⟩) (digits * 10 ^ e * 10) (.negSucc 0) := by
  obtain ⟨c, fraction, hc, hne, hdigits, hvalue⟩ := exists_digits ⟨digits, .ofNat e⟩ hpos
  dsimp only at hc hvalue
  unfold Decimal.positional
  dsimp only
  rw [hc]
  refine ⟨⟨c, _, rfl, hdigits c List.mem_cons_self⟩, fun negative rest hrest => ?_⟩
  have hwhole : ∀ x ∈ c :: fraction ++ List.replicate e '0', x.isDigit = true := by
    intro x hx
    rcases List.mem_append.1 hx with hx | hx
    · exact hdigits x hx
    · exact isDigit_of_mem_zeros hx
  have hzero : ∀ ds, c :: fraction ++ List.replicate e '0' = '0' :: ds → ds = [] :=
    fun ds h => absurd (List.cons.inj h).1 hne
  have hall : ofDigitChars 10 (c :: fraction ++ List.replicate e '0' ++ ['0']) 0
      = digits * 10 ^ e * 10 := by
    rw [Nat.ofDigitChars_append, Nat.ofDigitChars_append, hvalue,
      Nat.ofDigitChars_replicate_zero, Nat.mul_comm (10 ^ e), Nat.ofDigitChars_cons,
      Nat.ofDigitChars_nil, Nat.sub_self, Nat.add_zero, Nat.mul_comm]
  have hread : number negative ((c :: fraction ++ List.replicate e '0') ++ '.' :: (['0'] ++ rest))
      = afterDigits negative (digits * 10 ^ e * 10) (.negSucc 0) rest :=
    number_point hwhole (List.cons_ne_nil c _) hzero isDigit_of_mem_zero (List.cons_ne_nil '0' [])
      hall hfits hrest.noDigit
  rw [afterDigits_of_ends hrest] at hread
  simp only [List.append_assoc, List.cons_append, List.nil_append] at hread ⊢
  exact hread

theorem readsParts_zero : ReadsParts (printMagnitude 0) 0 (.negSucc 0) := by
  have hprint : printMagnitude 0 = ['0', '.', '0'] := by decide
  rw [hprint]
  refine ⟨⟨'0', _, rfl, rfl⟩, fun negative rest hrest => ?_⟩
  have hread : number negative (['0'] ++ '.' :: (['0'] ++ rest))
      = afterDigits negative 0 (.negSucc 0) rest :=
    number_point isDigit_of_mem_zero (List.cons_ne_nil _ _)
      (fun ds h => (List.cons.inj h).2.symm) isDigit_of_mem_zero (List.cons_ne_nil _ _) rfl
      (Nat.zero_le _) hrest.noDigit
  rw [afterDigits_of_ends hrest] at hread
  exact hread

/-- **The magnitude of a float is read as parts that are in range.** -/
theorem exists_readsParts {rank : Nat} (hrank : rank < limit) :
    ∃ significand exponent, ReadsParts (printMagnitude rank) significand exponent
      ∧ rankOfParts significand exponent < limit := by
  rcases Nat.eq_zero_or_pos rank with rfl | hpos
  · exact ⟨0, .negSucc 0, readsParts_zero, rankOfParts_negSucc_lt (Nat.zero_le _) 0⟩
  · have hnear := shortest_isNear hpos
    have hrange := rankOfParts_shortest_lt hpos hrank
    have hlow := le_leadingExponent hpos
    have hhigh := hnear.exponent_le hrank
    have hexponent := hnear.exponent
    have hfits : (shortest rank).digits ≤ maxWord := Nat.le_trans hnear.short (by decide)
    have hlength : (Text.decimal (shortest rank).digits).length ≤ 18 := by
      rw [show Text.decimal (shortest rank).digits = Nat.toDigits 10 (shortest rank).digits from
        rfl, Nat.length_toDigits_le_iff (by decide) (by decide)]
      exact Nat.lt_of_le_of_lt hnear.short (by decide)
    have hpos' := List.length_pos_iff.2 (Text.decimal_ne_nil (shortest rank).digits)
    unfold printMagnitude
    dsimp only
    split
    -- exponents are read up to a bound, far from those that are written
    case isFalse =>
      refine ⟨_, _, readsParts_scientific hnear.pos hfits ?_, hrange⟩
      unfold Decimal.magnitude maxExponent
      omega
    case isTrue hmagnitude =>
      have hdigits := lt_ten_pow_decimalLength (shortest rank).digits
      unfold decimalLength at hdigits
      have hbound := hmagnitude.2
      unfold Decimal.magnitude at hbound
      generalize shortest rank = d at *
      obtain ⟨digits, e | e⟩ := d
      · -- a zero is read after the point, so there is one digit more than was written
        have hsmall : digits * 10 ^ e * 10 ≤ 10 ^ 18 := by
          dsimp only at hdigits hbound hpos'
          generalize (Text.decimal digits).length = length at *
          have hmul : digits * 10 ^ e ≤ 10 ^ length * 10 ^ e :=
            Nat.mul_le_mul_right _ (Nat.le_of_lt hdigits)
          have hpow : 10 ^ length * 10 ^ e ≤ 10 ^ 16 := by
            rw [← Nat.pow_add]
            refine Nat.pow_le_pow_right (by decide) ?_
            rw [Int.ofNat_eq_natCast] at hbound
            omega
          omega
        exact ⟨_, _, readsParts_positional_ofNat hnear.pos (Nat.le_trans hsmall (by decide)),
          rankOfParts_negSucc_lt hsmall 0⟩
      · exact ⟨_, _, readsParts_positional_negSucc hnear.pos hfits, hrange⟩

theorem floatOfParts_eq {negative : Bool} {significand : Nat} {exponent : Int}
    (h : rankOfParts significand exponent < limit) (rest : List Char) :
    floatOfParts negative significand exponent rest
      = .ok (.float ⟨negative, rankOfParts significand exponent, h⟩, rest) := by
  unfold floatOfParts ofRank?
  rw [dif_pos h]

/-- **A float is read as a float.** -/
theorem exists_reads_printFloat (x : Binary64) :
    ∃ y, ∀ room, Reads (value room) (printFloat x) (.number (.float y)) := by
  obtain ⟨significand, exponent, hparts, hrange⟩ := exists_readsParts x.rank_lt
  refine ⟨⟨x.negative, rankOfParts significand exponent, hrange⟩, fun room => ?_⟩
  have hreads (rest : List Char) (hrest : Ends rest) :
      number x.negative (printMagnitude x.rank ++ rest)
        = .ok (.float ⟨x.negative, rankOfParts significand exponent, hrange⟩, rest) := by
    rw [hparts.reads x.negative rest hrest, floatOfParts_eq hrange]
  unfold printFloat
  generalize x.negative = negative at hreads ⊢
  cases negative with
  | true => exact reads_of_minus hreads
  | false =>
    obtain ⟨c, text, htext, hc⟩ := hparts.begins
    rw [htext] at hreads
    rw [if_neg Bool.false_ne_true, htext]
    exact reads_of_digit hc hreads

end InstructionStore.Json.Reader
