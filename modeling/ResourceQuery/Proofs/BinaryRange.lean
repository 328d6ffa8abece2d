import Mathlib
import ResourceQuery.Number.Binary64

namespace ResourceQuery.Number.Binary64

/-- From here on a positive number is rounded to infinity. -/
def range : ℚ :=
  2 ^ 1024 - 2 ^ 970

theorem range_eq : range = (2 ^ 53 - 1 / 2) * 2 ^ 971 := by
  have hlast : (2 : ℚ) ^ 971 = 2 * 2 ^ 970 := pow_succ' 2 970
  have hnext : (2 : ℚ) ^ 1024 = 2 ^ 54 * 2 ^ 970 := pow_add 2 54 970
  rw [range, hlast, hnext]
  generalize (2 : ℚ) ^ 970 = unit
  ring

theorem two_pow_lt_range : (2 : ℚ) ^ 1023 < range := by
  have hsplit : (2 : ℚ) ^ 1023 = 2 ^ 52 * 2 ^ 971 := pow_add 2 52 971
  rw [range_eq, hsplit]
  exact mul_lt_mul_of_pos_right (by norm_num) (by positivity)

theorem range_le_two_pow : range ≤ 2 ^ 1024 :=
  sub_le_self _ (by positivity)

theorem range_le_ten_pow : range ≤ 10 ^ 310 := by
  have hhalf : ((2 : ℚ) ^ 256) ^ 2 ≤ 10 ^ 155 := by norm_num
  calc range ≤ 2 ^ 1024 := range_le_two_pow
    _ = (((2 : ℚ) ^ 256) ^ 2) ^ 2 := by rw [← pow_mul, ← pow_mul]
    _ ≤ (10 ^ 155) ^ 2 := pow_le_pow_left₀ (by positivity) hhalf 2
    _ = 10 ^ 310 := by rw [← pow_mul]

theorem one_lt_range : 1 < range :=
  (one_lt_pow₀ one_lt_two (by decide)).trans two_pow_lt_range

theorem twoTo_cast (n : Nat) : (twoTo n : ℚ) = 2 ^ n := by
  rw [twoTo, Nat.pow_eq]
  push_cast
  rfl

theorem tenTo_cast (n : Nat) : (tenTo n : ℚ) = 10 ^ n := by
  rw [tenTo, Nat.pow_eq]
  push_cast
  rfl

theorem twoTo_pos (n : Nat) : 0 < twoTo n :=
  Nat.pow_pos Nat.two_pos

theorem tenTo_pos (n : Nat) : 0 < tenTo n :=
  Nat.pow_pos (by decide)

theorem rescale_den_pos (num : Nat) {den : Nat} (hden : 0 < den) (q : Int) :
    0 < (rescale num den q).2 := by
  unfold rescale
  split
  next => exact hden
  next => exact Nat.mul_pos hden (twoTo_pos _)

theorem rescale_quotient (num den : Nat) (q : Int) :
    ((rescale num den q).1 : ℚ) / (rescale num den q).2 = (num : ℚ) / den / 2 ^ q := by
  unfold rescale
  split
  next hneg =>
    have hpow : (2 : ℚ) ^ q = (2 ^ q.natAbs)⁻¹ := by
      rw [← zpow_natCast, Int.ofNat_natAbs_of_nonpos hneg.le, zpow_neg, inv_inv]
    rw [Nat.cast_mul, twoTo_cast, hpow, div_inv_eq_mul, mul_div_right_comm]
  next hnonneg =>
    have hpow : (2 : ℚ) ^ q = 2 ^ q.toNat := by
      rw [← zpow_natCast, Int.toNat_of_nonneg (not_lt.mp hnonneg)]
    rw [Nat.cast_mul, twoTo_cast, hpow, div_div]

section
variable {num den : Nat}

/-- The two lengths tell the fraction up to a factor of two on either side. -/
theorem quotient_bounds (hnum : num ≠ 0) (hden : den ≠ 0) :
    (2 : ℚ) ^ ((num.log2 : Int) - den.log2 - 1) < (num : ℚ) / den ∧
      (num : ℚ) / den < 2 ^ ((num.log2 : Int) - den.log2 + 1) := by
  have hnumLow : (2 : ℚ) ^ num.log2 ≤ num := by exact_mod_cast Nat.log2_self_le hnum
  have hnumHigh : (num : ℚ) < 2 ^ (num.log2 + 1) := by exact_mod_cast Nat.lt_log2_self
  have hdenLow : (2 : ℚ) ^ den.log2 ≤ den := by exact_mod_cast Nat.log2_self_le hden
  have hdenHigh : (den : ℚ) < 2 ^ (den.log2 + 1) := by exact_mod_cast Nat.lt_log2_self
  have hpos : (0 : ℚ) < den := by exact_mod_cast Nat.pos_of_ne_zero hden
  constructor
  · rw [lt_div_iff₀ hpos]
    calc (2 : ℚ) ^ ((num.log2 : Int) - den.log2 - 1) * den
        < 2 ^ ((num.log2 : Int) - den.log2 - 1) * 2 ^ (den.log2 + 1) := by gcongr
      _ = 2 ^ num.log2 := by
        rw [← zpow_natCast, ← zpow_natCast, ← zpow_add₀ two_ne_zero]
        congr 1
        push_cast
        ring
      _ ≤ num := hnumLow
  · rw [div_lt_iff₀ hpos]
    calc (num : ℚ) < 2 ^ (num.log2 + 1) := hnumHigh
      _ = 2 ^ ((num.log2 : Int) - den.log2 + 1) * 2 ^ den.log2 := by
        rw [← zpow_natCast, ← zpow_natCast, ← zpow_add₀ two_ne_zero]
        congr 1
        push_cast
        ring
      _ ≤ 2 ^ ((num.log2 : Int) - den.log2 + 1) * den := by gcongr

theorem rescale_ge_iff (num : Nat) (hden : 0 < den) (k : Nat) (q : Int) :
    twoTo k * (rescale num den q).2 ≤ (rescale num den q).1 ↔
      (2 : ℚ) ^ (k + q) ≤ (num : ℚ) / den := by
  have hpos : (0 : ℚ) < (rescale num den q).2 := by
    exact_mod_cast rescale_den_pos num hden q
  have hcast : twoTo k * (rescale num den q).2 ≤ (rescale num den q).1 ↔
      (2 : ℚ) ^ k * (rescale num den q).2 ≤ (rescale num den q).1 := by
    rw [← twoTo_cast]
    norm_cast
  rw [hcast, ← le_div_iff₀ hpos, rescale_quotient, le_div_iff₀ (zpow_pos two_pos _),
    ← zpow_natCast, ← zpow_add₀ two_ne_zero]

/-- Scaled by its exponent a fraction lies below `2 ^ 53`, and from `2 ^ 52` on unless the exponent
is the least one. -/
theorem exponentFor_bounds (hnum : num ≠ 0) (hden : den ≠ 0) :
    (num : ℚ) / den < 2 ^ (53 + exponentFor num den) ∧
      (-1074 < exponentFor num den → (2 : ℚ) ^ (52 + exponentFor num den) ≤ (num : ℚ) / den) := by
  obtain ⟨hlow, hhigh⟩ := quotient_bounds hnum hden
  have hge := rescale_ge_iff num (Nat.pos_of_ne_zero hden) 53
  unfold exponentFor
  generalize hq : max (-1074) ((num.log2 : Int) - den.log2 - 53) = q
  dsimp only
  have hmono : ∀ {a b : Int}, a ≤ b → (2 : ℚ) ^ a ≤ 2 ^ b := fun h =>
    zpow_le_zpow_right₀ one_le_two h
  split
  next h =>
    have hnext := (hge q).mp h
    refine ⟨lt_of_lt_of_le hhigh (hmono (by omega)), fun _ => ?_⟩
    have hexp : 52 + (q + 1) = ((53 : Nat) : Int) + q := by push_cast; ring
    rw [hexp]
    exact hnext
  next h =>
    have hnext := mt (hge q).mpr h
    refine ⟨lt_of_not_ge hnext, fun hq' => ?_⟩
    exact (lt_of_le_of_lt (hmono (by omega)) hlow).le

end

/-- An odd number is left behind by what lies half way to the next one or beyond. -/
theorem roundQuotient_eq_succ_iff {n d k : Nat} (hd : 0 < d) (hn : n < (k + 1) * d)
    (hodd : k % 2 = 1) : roundQuotient n d = k + 1 ↔ (2 * k + 1) * d ≤ 2 * n := by
  have hle : n / d ≤ k := Nat.lt_succ_iff.mp ((Nat.div_lt_iff_lt_mul hd).mpr hn)
  have hsplit : d * (n / d) + n % d = n := Nat.div_add_mod n d
  have hmod : n % d < d := Nat.mod_lt n hd
  have hdouble : (2 * k + 1) * d = 2 * (d * k) + d := by ring
  rw [hdouble, roundQuotient]
  rcases Nat.lt_or_eq_of_le hle with hlt | heq
  · have hbelow : d * (n / d + 1) ≤ d * k := Nat.mul_le_mul_left d hlt
    rw [Nat.mul_add, Nat.mul_one] at hbelow
    constructor
    · intro h
      split at h
      · omega
      · split at h
        · omega
        · split at h <;> omega
    · intro h
      omega
  · rw [heq] at hsplit ⊢
    split
    · omega
    · split
      · omega
      · rw [if_neg (by omega)]
        omega

/-- What the 53 bits cannot hold is rounded up to one bit more, half a unit below it included. -/
theorem roundQuotient_overflow_iff {num den : Nat} (hden : den ≠ 0) {q : Int}
    (hhigh : (num : ℚ) / den < 2 ^ (53 + q)) :
    roundQuotient (rescale num den q).1 (rescale num den q).2 = twoTo 53 ↔
      (2 ^ 53 - 1 / 2) * 2 ^ q ≤ (num : ℚ) / den := by
  have hquotient := rescale_quotient num den q
  have hge := rescale_ge_iff num (Nat.pos_of_ne_zero hden) 53 q
  have hdpos := rescale_den_pos num (Nat.pos_of_ne_zero hden) q
  generalize (rescale num den q).1 = n at hquotient hge ⊢
  generalize (rescale num den q).2 = d at hquotient hge hdpos ⊢
  have hbits : twoTo 53 = (2 ^ 53 - 1) + 1 := rfl
  have hn : n < (2 ^ 53 - 1 + 1) * d := by
    rw [← hbits]
    exact lt_of_not_ge (mt hge.mp (not_le_of_gt hhigh))
  have hd : (0 : ℚ) < d := by exact_mod_cast hdpos
  rw [hbits, roundQuotient_eq_succ_iff hdpos hn (by decide), ← le_div_iff₀ (zpow_pos two_pos q),
    ← hquotient, le_div_iff₀ hd]
  constructor
  · intro h
    have hcast : ((2 * (2 ^ 53 - 1) + 1 : Nat) : ℚ) * d ≤ 2 * n := by exact_mod_cast h
    norm_num at hcast ⊢
    linarith
  · intro h
    have hcast : ((2 * (2 ^ 53 - 1) + 1 : Nat) : ℚ) * d ≤ 2 * n := by
      norm_num at h ⊢
      linarith
    exact_mod_cast hcast

theorem ofRatio_isFinite {negative : Bool} {num den : Nat} (hnum : num ≠ 0) :
    (ofRatio negative num den).isFinite = true ↔
      exponentFor num den ≤ 970 ∨ exponentFor num den = 971 ∧
        roundQuotient (rescale num den (exponentFor num den)).1
          (rescale num den (exponentFor num den)).2 ≠ twoTo 53 := by
  rw [ofRatio, if_neg hnum]
  generalize exponentFor num den = q
  dsimp only
  split
  next hover =>
    split
    next hlarge =>
      simp only [isFinite, Bool.false_eq_true, false_iff, not_or, not_and, not_not]
      exact ⟨by omega, fun _ => hover⟩
    next hsmall =>
      simp only [isFinite, true_iff]
      exact .inl (by omega)
  next hfits =>
    split
    next hlarge =>
      simp only [isFinite, Bool.false_eq_true, false_iff]
      omega
    next hsmall =>
      simp only [isFinite, true_iff]
      exact (lt_or_eq_of_le (not_lt.mp hsmall)).imp Int.lt_add_one_iff.mp fun h => ⟨h, hfits⟩

/-- A fraction has a finite number next to it if it lies below the range. -/
theorem ofRatio_isFinite_iff (negative : Bool) (num : Nat) {den : Nat} (hden : den ≠ 0) :
    (ofRatio negative num den).isFinite = true ↔ (num : ℚ) / den < range := by
  by_cases hnum : num = 0
  · have hrange : 0 < range := one_pos.trans one_lt_range
    simp [ofRatio, hnum, zero, isFinite, hrange]
  rw [ofRatio_isFinite hnum]
  obtain ⟨hhigh, hlow⟩ := exponentFor_bounds hnum hden
  have hover := roundQuotient_overflow_iff hden hhigh
  generalize exponentFor num den = q at hhigh hlow hover ⊢
  rcases lt_trichotomy q 971 with hq | rfl | hq
  · -- below the last exponent nothing reaches the range
    have hbelow : (num : ℚ) / den < range := by
      calc (num : ℚ) / den < 2 ^ (53 + q) := hhigh
        _ ≤ 2 ^ (1023 : Int) := zpow_le_zpow_right₀ one_le_two (by omega)
        _ < range := two_pow_lt_range
    exact iff_of_true (.inl (by omega)) hbelow
  · -- here the last bit decides: the range is where rounding up leaves the 53 bits
    have hlast : ((2 : ℚ) ^ 53 - 1 / 2) * 2 ^ (971 : Int) = range := range_eq.symm
    rw [hlast] at hover
    simp [hover]
  · have habove : range ≤ (num : ℚ) / den := by
      calc range ≤ 2 ^ (1024 : Int) := range_le_two_pow
        _ ≤ 2 ^ (52 + q) := zpow_le_zpow_right₀ one_le_two (by omega)
        _ ≤ (num : ℚ) / den := hlow (by omega)
    refine iff_of_false ?_ (not_lt_of_ge habove)
    omega

theorem range_le_decimal {n : Nat} {e : Int} (hn : n ≠ 0) (he : 310 ≤ e) :
    range ≤ n * 10 ^ e := by
  have hone : (1 : ℚ) ≤ n := by exact_mod_cast Nat.one_le_iff_ne_zero.mpr hn
  calc range ≤ 10 ^ (310 : Int) := range_le_ten_pow
    _ ≤ 10 ^ e := zpow_le_zpow_right₀ (by norm_num) he
    _ ≤ n * 10 ^ e := le_mul_of_one_le_left (zpow_nonneg (by norm_num) e) hone

/-- A number whose digits all stand behind the point is less than one. -/
theorem decimal_lt_range {n : Nat} {e : Int} (he : e + n.log2 + 1 ≤ 0) : n * 10 ^ e < range := by
  have hbinary : (n : ℚ) ≤ 2 ^ (n.log2 + 1) := by exact_mod_cast Nat.lt_log2_self.le
  have hdecimal : (n : ℚ) ≤ 10 ^ (n.log2 + 1) :=
    hbinary.trans (pow_le_pow_left₀ two_pos.le (by norm_num) _)
  calc (n : ℚ) * 10 ^ e ≤ 10 ^ (n.log2 + 1) * 10 ^ e := by gcongr
    _ = 10 ^ (e + n.log2 + 1) := by
      rw [← zpow_natCast, ← zpow_add₀ (by norm_num)]
      congr 1
      push_cast
      ring
    _ ≤ 10 ^ (0 : Int) := zpow_le_zpow_right₀ (by norm_num) he
    _ < range := one_lt_range

/-- A decimal number has a finite number next to it if it lies below the range. -/
theorem ofDecimal_isFinite_iff (negative : Bool) (n : Nat) (e : Int) :
    (ofDecimal negative n e).isFinite = true ↔ (n : ℚ) * 10 ^ e < range := by
  unfold ofDecimal
  split
  next hzero =>
    have hrange : 0 < range := one_pos.trans one_lt_range
    simp [hzero, zero, isFinite, hrange]
  next hn =>
    split
    next hlarge => simp [isFinite, range_le_decimal hn hlarge]
    next =>
      split
      next hsmall =>
        have hbelow := decimal_lt_range (n := n) (e := e) (by omega)
        simp [zero, isFinite, hbelow]
      next =>
        split
        next hnonneg =>
          have hpow : (10 : ℚ) ^ e = 10 ^ e.toNat := by
            rw [← zpow_natCast, Int.toNat_of_nonneg hnonneg]
          rw [ofRatio_isFinite_iff negative _ one_ne_zero, Nat.cast_mul, tenTo_cast, Nat.cast_one,
            div_one, hpow]
        next hneg =>
          have hpow : (10 : ℚ) ^ e = (10 ^ e.natAbs)⁻¹ := by
            rw [← zpow_natCast, Int.ofNat_natAbs_of_nonpos (not_le.mp hneg).le, zpow_neg, inv_inv]
          rw [ofRatio_isFinite_iff negative _ (tenTo_pos _).ne', tenTo_cast, hpow, div_eq_mul_inv]

end ResourceQuery.Number.Binary64
