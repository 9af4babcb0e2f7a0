import Mathlib
import MarkerAtlas.Proofs.Scalar.Monotone

/-!
# What a factor makes of a double

A factor of one or more makes no double less, and a factor of one or less makes no double greater.
That it makes another one needs more, since a product may be rounded back to the double: a factor
above one differs from it by `2 ^ -52` at least, and one below by `2 ^ -53`, which is enough for
every double with a full mantissa. Below the least of these, products may be rounded back.
-/

namespace MarkerAtlas.Double

open Float.Model (UnpackedFloat)
open Float.Model.UnpackedFloat

variable {m n k : Nat} {e f g : Int} {a : Accuracy} {q : ℚ} {x y : Float}

/-! ## Below the middle -/

theorem roundBit_shiftRight (em : ExtendedMantissa) (j : Nat) :
    (em >>> (j + 1)).roundBit = (em.mantissa / 2 ^ j % 2 != 0) := by
  show ((em >>> j).mantissa % 2 != 0) = _
  rw [mantissa_shiftRight]

theorem roundedMantissa_of_roundBit {em : ExtendedMantissa} (h : em.roundBit = false) :
    em.roundedMantissa = em.mantissa := by
  obtain ⟨m, round, sticky⟩ := em
  obtain rfl : round = false := h
  cases sticky <;> rfl

theorem rounded_of_even {j : Nat} (hj : excess m e = j + 1) (heven : m / 2 ^ j % 2 = 0) :
    rounded m e a = m / 2 ^ (j + 1) := by
  rw [rounded, hj, roundedMantissa_of_roundBit, mantissa_shiftRight, mantissa_ofMantissaAndAccuracy]
  rw [roundBit_shiftRight, mantissa_ofMantissaAndAccuracy, heven]
  rfl

/-- What lies below the middle of two doubles is rounded down. -/
theorem rounded_lt_of_below (h : size m e < size (2 * k - 1) (e + excess m e - 1)) :
    rounded m e .exact < k := by
  cases hexcess : excess m e with
  | zero =>
    rw [hexcess, Nat.cast_zero, add_zero] at h
    have hscale := size_mul_two_pow m 1 (e - 1)
    rw [Nat.cast_one, sub_add_cancel] at hscale
    rw [← hscale, size_lt_size_iff] at h
    have hexact : rounded (m * 2 ^ 0) e .exact = m := rounded_exact (by simpa using hexcess)
    rw [Nat.pow_zero, Nat.mul_one] at hexact
    omega
  | succ j =>
    have hexponent : e + ((j + 1 : Nat) : Int) - 1 = e + j := by omega
    rw [hexcess, hexponent, ← size_mul_two_pow, size_lt_size_iff] at h
    have hhalf : m / 2 ^ j < 2 * k - 1 := (Nat.div_lt_iff_lt_mul (Nat.two_pow_pos _)).mpr h
    have hquotient : m / 2 ^ (j + 1) = m / 2 ^ j / 2 := by rw [Nat.div_div_eq_div_mul, Nat.pow_succ]
    obtain ⟨-, hbound⟩ := rounded_bounds m e .exact
    rw [hexcess, hquotient] at hbound
    -- Below the middle the first bit that is shifted out is a zero, or there is a unit to spare.
    by_cases heven : m / 2 ^ j % 2 = 0
    · rw [rounded_of_even hexcess heven, hquotient]
      generalize m / 2 ^ j = half at hhalf
      omega
    · generalize m / 2 ^ j = half at hhalf hbound heven
      omega

/-- What lies below the middle of a double and the one below it is not rounded to the former. -/
theorem Unrounded.rounded_size_lt (h : Unrounded m e .exact q) (hkg : Aligned k g)
    (hk : 2 ^ 52 < k) (hq : q < size (2 * k - 1) (g - 1)) :
    size (rounded m e .exact) (e + excess m e) < size k g := by
  have hle : q ≤ size k g := by
    have hscale := size_mul_two_pow k 1 (g - 1)
    rw [Nat.cast_one, sub_add_cancel] at hscale
    exact hq.le.trans (hscale ▸ size_le_size_iff.mpr (by omega))
  rcases (h.exponent_le hkg hle).eq_or_lt with rfl | hlt
  · exact size_lt_size_iff.mpr (rounded_lt_of_below (h.size_le.trans_lt hq))
  · exact (size_le_size_two_pow h.rounded_fits.1 hlt).trans_lt (size_lt_size_iff.mpr hk)

/-! ## Factors -/

theorem one_eq_size : (1 : ℚ) = size (2 ^ 52) (-52) := by norm_num [size]

theorem aligned_one : Aligned (2 ^ 52) (-52) := ⟨by decide, by decide, by decide, .inl le_rfl⟩

theorem aligned_pred_one : Aligned (2 ^ 53 - 1) (-53) :=
  ⟨by decide, by decide, by decide, .inl (by decide)⟩

/-- A double above one is above it by `2 ^ -52` at least. -/
theorem le_value_of_one_lt (hy : y.isFinite = true) (h : 1 < value y) :
    1 + 1 / 2 ^ 52 ≤ value y := by
  obtain ⟨n, f, -, hnf, -, hyv⟩ := unpack_of_pos hy (zero_lt_one.trans h)
  rw [hyv, one_eq_size] at h
  rw [hyv]
  refine le_trans (le_of_eq ?_) (aligned_one.size_succ_le hnf h)
  norm_num [size]

/-- A double below one is below it by `2 ^ -53` at least. -/
theorem value_le_of_lt_one (hy : y.isFinite = true) (hpos : 0 < value y) (h : value y < 1) :
    value y ≤ 1 - 1 / 2 ^ 53 := by
  obtain ⟨n, f, -, hnf, -, hyv⟩ := unpack_of_pos hy hpos
  rw [hyv] at h ⊢
  refine le_of_not_gt fun hgt => ?_
  have hpred : size (2 ^ 53 - 1) (-53) = 1 - 1 / 2 ^ 53 := by norm_num [size]
  have hone : size (2 ^ 53 - 1 + 1) (-53) = 1 := by norm_num [size]
  have hnext := aligned_pred_one.size_succ_le hnf (hpred ▸ hgt)
  rw [hone] at hnext
  exact hnext.not_gt h

/-- The least double with a full mantissa. -/
theorem leastNormal_eq_size : 2 ^ (-1022 : ℤ) = size (2 ^ 52) (-1074) := by
  have hone : 2 ^ 52 = 1 * 2 ^ 52 := by decide
  rw [hone, size_mul_two_pow, size, Nat.cast_one, one_mul]
  norm_num

theorem Aligned.full_of_normal (hme : Aligned m e) (h : 2 ^ (-1022 : ℤ) ≤ size m e) :
    2 ^ 52 ≤ m := by
  rw [leastNormal_eq_size] at h
  rcases hme.full with hfull | rfl
  · exact hfull
  · exact size_le_size_iff.mp h

section
variable (hx : x.isFinite = true) (hy : y.isFinite = true)
include hx hy

/-- A factor of one or more does not make a double less. -/
theorem value_le_mul (hxpos : 0 < value x) (h : 1 ≤ value y) (hxy : (x * y).isFinite = true) :
    value x ≤ value (x * y) := by
  obtain ⟨m, e, -, hme, -, hxv⟩ := unpack_of_pos hx hxpos
  have hround := roundsTo_mul hx hy hxpos (zero_lt_one.trans_le h)
  rw [hxv] at hround ⊢
  exact hround.lower hme.fits.le hme.least (le_mul_of_one_le_right size_nonneg h) hxy

/-- A factor above one makes a normal double greater. -/
theorem value_lt_mul (hnormal : 2 ^ (-1022 : ℤ) ≤ value x) (h : 1 < value y)
    (hxy : (x * y).isFinite = true) : value x < value (x * y) := by
  have hxpos : 0 < value x := (zpow_pos two_pos _).trans_le hnormal
  obtain ⟨m, e, -, hme, -, hxv⟩ := unpack_of_pos hx hxpos
  have hround := roundsTo_mul hx hy hxpos (zero_lt_one.trans h)
  rw [hxv] at hround hnormal ⊢
  have hfull := hme.full_of_normal hnormal
  refine (size_lt_size_iff.mpr (Nat.lt_succ_self m)).trans_le ?_
  refine hround.lower hme.fits hme.least ?_ hxy
  -- One unit of a full mantissa is a small part of it.
  have hfull : (2 : ℚ) ^ 52 ≤ m := by exact_mod_cast hfull
  have hscale : (0 : ℚ) < 2 ^ e := zpow_pos two_pos e
  calc size (m + 1) e
    _ = (m + 1) * 2 ^ e := by rw [size]; push_cast; rfl
    _ ≤ m * (1 + 1 / 2 ^ 52) * 2 ^ e := by
      refine mul_le_mul_of_nonneg_right ?_ hscale.le
      linarith
    _ = size m e * (1 + 1 / 2 ^ 52) := by rw [size]; ring
    _ ≤ size m e * value y := mul_le_mul_of_nonneg_left (le_value_of_one_lt hy h) size_nonneg

/-- A positive factor of one or less does not make a double greater. -/
theorem value_mul_le (hxpos : 0 < value x) (hypos : 0 < value y) (h : value y ≤ 1) :
    (x * y).isFinite = true ∧ value (x * y) ≤ value x := by
  obtain ⟨m, e, -, hme, -, hxv⟩ := unpack_of_pos hx hxpos
  have hround := roundsTo_mul hx hy hxpos hypos
  rw [hxv] at hround ⊢
  exact hround.upper hme (mul_le_of_le_one_right size_nonneg h)

/-- A positive factor below one makes a double less that is more than the least normal one. -/
theorem value_mul_lt (hnormal : 2 ^ (-1022 : ℤ) < value x) (hypos : 0 < value y)
    (h : value y < 1) : value (x * y) < value x := by
  have hxpos : 0 < value x := (zpow_pos two_pos _).trans hnormal
  have hround := roundsTo_mul hx hy hxpos hypos
  have hfactor := value_le_of_lt_one hy hypos h
  obtain ⟨m, e, hm, hme, hxu, hxv⟩ := unpack_of_pos hx hxpos
  rw [hxv] at hround hnormal ⊢
  have hle : size m e * value y ≤ size m e * (1 - 1 / 2 ^ 53) :=
    mul_le_mul_of_nonneg_left hfactor size_nonneg
  rcases (hme.full_of_normal hnormal.le).eq_or_lt with rfl | hmore
  · -- The double below has the next smaller exponent, and is passed or met.
    have he : -1074 < e := by
      refine lt_of_le_of_ne hme.least ?_
      rintro rfl
      exact hnormal.ne leastNormal_eq_size
    have hbelow : Aligned (2 ^ 53 - 1) (e - 1) :=
      ⟨by decide, by omega, by have := hme.greatest; omega, .inl (by decide)⟩
    refine (hround.upper hbelow (hle.trans_eq ?_)).2.trans_lt
      (size_lt_size_two_pow (by decide) (by omega))
    rw [size, size, zpow_sub_one₀ two_ne_zero]
    norm_num
    ring
  · -- The product lies below the middle of the double and the one below it.
    obtain ⟨n, f, hn, hnf, hyu, hyv⟩ := unpack_of_pos hy hypos
    have hunrounded := hme.unrounded_mul hnf hm hn
    have hmodel : (x * y).toModel =
        Float.Model.pack (UnpackedFloat.mul .binary64 x.toModel.unpack y.toModel.unpack) := rfl
    rw [hxu, hyu] at hmodel
    rw [hyv] at hle
    have hone : size m e * (1 - 1 / 2 ^ 53) ≤ size m e := by
      refine mul_le_of_le_one_right size_nonneg ?_
      norm_num
    rw [(hunrounded.isFinite_of_le hmodel hme (hle.trans hone)).2]
    refine hunrounded.rounded_size_lt hme hmore (hle.trans_lt ?_)
    have hmore : (2 : ℚ) ^ 52 < m := by exact_mod_cast hmore
    have hscale : (0 : ℚ) < 2 ^ e := zpow_pos two_pos e
    have hcast : ((2 * m - 1 : Nat) : ℚ) = 2 * m - 1 := by
      rw [Nat.cast_sub (by omega)]
      push_cast
      rfl
    rw [size, size, hcast, zpow_sub_one₀ two_ne_zero]
    have hbelow : m * (1 - 1 / 2 ^ 53) < ((2 : ℚ) * m - 1) / 2 := by linarith
    calc (m : ℚ) * 2 ^ e * (1 - 1 / 2 ^ 53)
      _ = m * (1 - 1 / 2 ^ 53) * 2 ^ e := by ring
      _ < (2 * m - 1) / 2 * 2 ^ e := mul_lt_mul_of_pos_right hbelow hscale
      _ = (2 * m - 1) * (2 ^ e * 2⁻¹) := by ring

/-- A product that is not finite has a factor above one on either side. -/
theorem one_lt_of_not_isFinite_mul (hxpos : 0 < value x) (hypos : 0 < value y)
    (hxy : (x * y).isFinite = false) : 1 < value x := by
  refine lt_of_not_ge fun hle => ?_
  obtain ⟨n, f, -, hnf, -, hyv⟩ := unpack_of_pos hy hypos
  have hround := roundsTo_mul hx hy hxpos hypos
  rw [hyv] at hround
  have hfinite := (hround.upper hnf (mul_le_of_le_one_left size_nonneg hle)).1
  rw [hxy] at hfinite
  cases hfinite

end

/-! ## One, inverses and halves -/

theorem value_one : (1.0 : Float).isFinite = true ∧ value 1.0 = 1 := by
  have hunpack : (1.0 : Float).toModel.unpack = .finite .positive (2 ^ 52) (-52) (by decide) := rfl
  refine ⟨rfl, ?_⟩
  rw [value, hunpack, one_eq_size]
  rfl

theorem pos_iff_value_pos (hx : x.isFinite = true) : 0.0 < x ↔ 0 < value x := by
  have hunpack : (0.0 : Float).toModel.unpack = .zero .positive := rfl
  have hzero : value 0.0 = 0 := by
    rw [value, hunpack]
    rfl
  rw [lt_iff_value_lt rfl hx, hzero]

theorem lt_one_iff_value_lt (hx : x.isFinite = true) : x < 1.0 ↔ value x < 1 := by
  rw [lt_iff_value_lt hx value_one.1, value_one.2]

theorem le_one_iff_value_le (hx : x.isFinite = true) : x ≤ 1.0 ↔ value x ≤ 1 := by
  rw [le_iff_value_le hx value_one.1, value_one.2]

/-- The inverse of a double above one is a positive double below one. -/
theorem inverse_of_one_lt (hy : y.isFinite = true) (h : 1 < value y) :
    (1.0 / y).isFinite = true ∧ 0 < value (1.0 / y) ∧ value (1.0 / y) < 1 := by
  have hypos : 0 < value y := zero_lt_one.trans h
  obtain ⟨hfinite, hone⟩ := value_one
  have hround := roundsTo_div hfinite hy (hone ▸ zero_lt_one) hypos
  rw [hone] at hround
  have hupper : 1 / value y ≤ size (2 ^ 53 - 1) (-53) := by
    calc 1 / value y
      _ ≤ 1 / (1 + 1 / 2 ^ 52) := one_div_le_one_div_of_le (by norm_num) (le_value_of_one_lt hy h)
      _ ≤ size (2 ^ 53 - 1) (-53) := by norm_num [size]
  obtain ⟨hinverse, hless⟩ := hround.upper aligned_pred_one hupper
  refine ⟨hinverse, ?_, hless.trans_lt (by norm_num [size])⟩
  -- Even the greatest double has an inverse that is not rounded to zero.
  have hlower : size 1 (-1074) ≤ 1 / value y := by
    obtain ⟨n, f, hn, hnf, -, hyv⟩ := unpack_of_pos hy hypos
    rw [hyv, le_div_iff₀ (size_pos hn)]
    calc size 1 (-1074) * size n f
      _ ≤ 2 ^ (-1074 : ℤ) * (2 ^ 53 * 2 ^ (971 : ℤ)) := by
        rw [size, size, Nat.cast_one, one_mul]
        have hfits : (n : ℚ) ≤ 2 ^ 53 := by exact_mod_cast hnf.fits.le
        have hgreatest : (2 : ℚ) ^ f ≤ 2 ^ (971 : ℤ) := zpow_le_zpow_right₀ one_le_two hnf.greatest
        gcongr
      _ ≤ 1 := by
        rw [← zpow_natCast, ← zpow_add₀ two_ne_zero, ← zpow_add₀ two_ne_zero]
        norm_num
  exact (size_pos one_pos).trans_le (hround.lower (by decide) le_rfl hlower hinverse)

/-- What is not finite has no positive inverse. -/
theorem inverse_of_not_isFinite (hx : x.isFinite = false) :
    (1.0 / x).isFinite = false ∨ ¬0.0 < 1.0 / x := by
  have hone : (1.0 : Float).toModel.unpack = .finite .positive (2 ^ 52) (-52) (by decide) := rfl
  have hmodel : (1.0 / x).toModel = Float.Model.pack
      (UnpackedFloat.div .binary64 (1.0 : Float).toModel.unpack x.toModel.unpack) := rfl
  have hx : x.toModel.unpack.isFinite = false := hx
  cases hu : x.toModel.unpack with
  | notANumber =>
    rw [hone, hu] at hmodel
    refine .inl ?_
    show (1.0 / x).toModel.unpack.isFinite = false
    rw [hmodel]
    rfl
  | infinity s =>
    rw [hone, hu] at hmodel
    refine .inr ?_
    rw [lt_iff_compare, hmodel]
    cases s <;> decide +kernel
  | zero s =>
    rw [hu] at hx
    cases hx
  | finite s m e hm =>
    rw [hu] at hx
    cases hx

theorem isFinite_div_two {x : Float} (hx : x.isFinite = true) :
    (x / Double.ofNat 2).isFinite = true := by
  have htwo : (Double.ofNat 2).toModel.unpack = .finite .positive (2 ^ 52) (-51) (by decide) := rfl
  have hmodel : (x / Double.ofNat 2).toModel = Float.Model.pack
      (UnpackedFloat.div .binary64 x.toModel.unpack (Double.ofNat 2).toModel.unpack) := rfl
  rcases unpack_of_isFinite hx with ⟨s, hu⟩ | ⟨s, m, e, hm, hme, hu⟩
  · rw [hu, htwo] at hmodel
    show (x / Double.ofNat 2).toModel.unpack.isFinite = true
    rw [hmodel]
    cases s <;> rfl
  · obtain ⟨i, t, a, hcore, hdiv⟩ :=
      unrounded_div (e := e) (f := -51) hm (Nat.two_pow_pos 52)
    rw [hu, htwo, UnpackedFloat.div, hcore] at hmodel
    refine (hdiv.isFinite_of_le hmodel hme ?_).1
    refine div_le_self size_nonneg ?_
    norm_num [size]

end MarkerAtlas.Double
