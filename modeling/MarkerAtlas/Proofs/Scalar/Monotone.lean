import Mathlib
import MarkerAtlas.Proofs.Scalar.Rounding

/-!
# Rounding passes no double

What an operation comes to is a mantissa that is exact, or a number above it by less than one unit.
It is rounded to one of the doubles that it lies between. So a double that is at most the exact
result is at most the rounded one, and a double that is at least the exact result is at least the
rounded one: a product or a quotient that lies beyond a double is not rounded back past it.

## Plan

* `Unrounded`: what is handed to rounding, and the exact number that it stands for.
* `Unrounded.size_le_rounded`, `Unrounded.rounded_size_le`: no double is passed.
* `RoundsTo`: the same for the double that comes of it.
* `roundsTo_mul`, `roundsTo_div`: products and quotients of positive doubles.
-/

namespace MarkerAtlas.Double

open Float.Model (UnpackedFloat Format totalExponent)
open Float.Model.UnpackedFloat

variable {m n k : Nat} {e f g : Int} {a : Accuracy} {s : Sign} {q : ℚ}

/-! ## Sizes -/

theorem size_lt_size_two_pow (h : k < 2 ^ 53) (hg : g < e) : size k g < size (2 ^ 52) e := by
  obtain ⟨j, rfl⟩ : ∃ j : Nat, e = g + ((j + 1 : Nat) : Int) := ⟨(e - g - 1).toNat, by omega⟩
  rw [← size_mul_two_pow, size_lt_size_iff]
  calc k < 2 ^ 52 * 2 ^ 1 := h
    _ ≤ 2 ^ 52 * 2 ^ (j + 1) := Nat.mul_le_mul_left _ (Nat.pow_le_pow_right two_pos (by omega))

theorem size_le_size_two_pow (h : k ≤ 2 ^ 53) (hg : g < e) : size k g ≤ size (2 ^ 52) e := by
  obtain ⟨j, rfl⟩ : ∃ j : Nat, e = g + ((j + 1 : Nat) : Int) := ⟨(e - g - 1).toNat, by omega⟩
  rw [← size_mul_two_pow, size_le_size_iff]
  calc k ≤ 2 ^ 52 * 2 ^ 1 := h
    _ ≤ 2 ^ 52 * 2 ^ (j + 1) := Nat.mul_le_mul_left _ (Nat.pow_le_pow_right two_pos (by omega))

/-- The next double is the one with the next mantissa. -/
theorem Aligned.size_succ_le (hm : Aligned m e) (hn : Aligned n f) (h : size m e < size n f) :
    size (m + 1) e ≤ size n f := by
  rcases (hm.size_lt_iff hn).mp h with hef | ⟨rfl, hmn⟩
  · have hfull : 2 ^ 52 ≤ n := hn.full.resolve_right (by have := hm.least; omega)
    exact (size_le_size_two_pow hm.fits hef).trans (size_le_size_iff.mpr hfull)
  · exact size_le_size_iff.mpr hmn

/-! ## What is rounded -/

/-- A mantissa, its exponent and its accuracy that stand for the number `q`, which is not negative:
it is exact, or `q` lies above it by less than one unit. The mantissa is long enough to be
rounded. -/
structure Unrounded (m : Nat) (e : Int) (a : Accuracy) (q : ℚ) : Prop where
  full : 52 ≤ m.log2 ∨ e ≤ -1074
  near : (a = .exact ∧ q = size m e) ∨ (size m e < q ∧ q < size (m + 1) e)

namespace Unrounded

theorem size_le (h : Unrounded m e a q) : size m e ≤ q := by
  rcases h.near with ⟨-, rfl⟩ | ⟨hlt, -⟩
  · exact le_rfl
  · exact hlt.le

theorem le_mantissa (h : Unrounded m e a q) (hn : size n e ≤ q) : n ≤ m := by
  rcases h.near with ⟨-, rfl⟩ | ⟨-, hlt⟩
  · exact size_le_size_iff.mp hn
  · exact Nat.lt_succ_iff.mp (size_lt_size_iff.mp (hn.trans_lt hlt))

theorem mantissa_lt_or (h : Unrounded m e a q) (hn : q ≤ size n e) :
    m < n ∨ m = n ∧ a = .exact := by
  rcases h.near with ⟨ha, rfl⟩ | ⟨hlt, -⟩
  · exact (size_le_size_iff.mp hn).lt_or_eq.imp_right fun heq => ⟨heq, ha⟩
  · exact .inl (size_lt_size_iff.mp (hlt.trans_le hn))

/-- What is left of the mantissa fills it, unless the exponent is the least. -/
theorem full_quotient (h : Unrounded m e a q) :
    2 ^ 52 ≤ m / 2 ^ excess m e ∨ e + excess m e = -1074 := by
  by_cases hm : m = 0
  · subst hm
    have hleast : e ≤ -1074 := h.full.resolve_left (by simp)
    refine .inr ?_
    unfold excess
    rw [Nat.log2_zero]
    omega
  · exact full_div_excess hm h.full

theorem size_quotient_le (h : Unrounded m e a q) :
    size (m / 2 ^ excess m e) (e + excess m e) ≤ q := by
  rw [← size_mul_two_pow]
  exact (size_le_size_iff.mpr (Nat.div_mul_le_self _ _)).trans h.size_le

/-- A number with the exponent that is rounded to, or a greater one, as a mantissa that is not
rounded yet. -/
theorem exists_size_eq (hg : e + excess m e ≤ g) (k : Nat) :
    ∃ n, size k g = size n (e + excess m e) ∧ size k g = size (n * 2 ^ excess m e) e ∧
      (g = e + excess m e → n = k) := by
  obtain ⟨j, rfl⟩ : ∃ j : Nat, g = e + excess m e + j := ⟨(g - (e + excess m e)).toNat, by omega⟩
  refine ⟨k * 2 ^ j, (size_mul_two_pow _ _ _).symm, ?_, fun hj => ?_⟩
  · rw [size_mul_two_pow, size_mul_two_pow]
  · have hzero : j = 0 := by omega
    rw [hzero, Nat.pow_zero, Nat.mul_one]

/-- What is rounded is not rounded down past a double. -/
theorem size_le_rounded (h : Unrounded m e a q) (hk : k ≤ 2 ^ 53) (hg : -1074 ≤ g)
    (hq : size k g ≤ q) : size k g ≤ size (rounded m e a) (e + excess m e) := by
  obtain ⟨hbound, -⟩ := rounded_bounds m e a
  by_cases hexponent : e + excess m e ≤ g
  · obtain ⟨n, hn, hn', -⟩ := exists_size_eq hexponent k
    rw [hn, size_le_size_iff]
    refine le_trans ?_ hbound
    rw [Nat.le_div_iff_mul_le (Nat.two_pow_pos _)]
    exact h.le_mantissa (hn' ▸ hq)
  · -- The mantissa that is rounded to is full, so that its greater exponent decides.
    have hfull : 2 ^ 52 ≤ m / 2 ^ excess m e := h.full_quotient.resolve_right (by omega)
    calc size k g
      _ ≤ size (2 ^ 52) (e + excess m e) := size_le_size_two_pow hk (by omega)
      _ ≤ size (rounded m e a) (e + excess m e) := size_le_size_iff.mpr (hfull.trans hbound)

theorem exponent_le (h : Unrounded m e a q) (hkg : Aligned k g) (hq : q ≤ size k g) :
    e + excess m e ≤ g := by
  by_contra hexponent
  have hfull : 2 ^ 52 ≤ m / 2 ^ excess m e :=
    h.full_quotient.resolve_right (by have := hkg.least; omega)
  have hlt : size k g < size k g := by
    calc size k g
      _ < size (2 ^ 52) (e + excess m e) := size_lt_size_two_pow hkg.fits (by omega)
      _ ≤ size (m / 2 ^ excess m e) (e + excess m e) := size_le_size_iff.mpr hfull
      _ ≤ q := h.size_quotient_le
      _ ≤ size k g := hq
  exact hlt.false

/-- What is rounded is not rounded up past a double, and fits if one is not exceeded. -/
theorem rounded_size_le (h : Unrounded m e a q) (hkg : Aligned k g) (hq : q ≤ size k g) :
    size (rounded m e a) (e + excess m e) ≤ size k g ∧
      (e + excess m e ≤ 970 ∨ e + excess m e ≤ 971 ∧ rounded m e a < 2 ^ 53) := by
  have hexponent := h.exponent_le hkg hq
  obtain ⟨n, hn, hn', hsame⟩ := exists_size_eq hexponent k
  have hrounded : rounded m e a ≤ n := by
    rcases h.mantissa_lt_or (hn' ▸ hq) with hlt | ⟨heq, rfl⟩
    · -- There is room for rounding up, which adds one at most.
      obtain ⟨-, hbound⟩ := rounded_bounds m e a
      have hquotient : m / 2 ^ excess m e < n := (Nat.div_lt_iff_lt_mul (Nat.two_pow_pos _)).mpr hlt
      omega
    · -- Only zeros are shifted out.
      have hexact : rounded (n * 2 ^ excess m e) e .exact = n := rounded_exact (by rw [← heq])
      rw [← heq] at hexact
      exact hexact.le
  refine ⟨hn ▸ size_le_size_iff.mpr hrounded, ?_⟩
  have hgreatest := hkg.greatest
  have hfits := hkg.fits
  by_cases hlt : e + excess m e < g
  · exact .inl (by omega)
  · have hnk := hsame (by omega)
    exact .inr ⟨by omega, by omega⟩

end Unrounded

/-! ## Doubles that are rounded to -/

theorem not_isFinite_pack (hm : 0 < m) (he : 972 ≤ e) :
    (Float.Model.pack (.finite s m e hm)).unpack.isFinite = false := by
  have hbias : ((Format.binary64.exponentBias : Nat) : Int) = 1023 := rfl
  have hpack : pack .binary64 (.finite s m e hm) = packedInfinity .binary64 s := by
    simp only [pack, hbias]
    rw [if_pos]
    show 2 ^ 11 ≤ (e + 1023 + (52 : Nat)).toNat + 1
    omega
  show (unpack .binary64 (pack .binary64 (.finite s m e hm))).isFinite = false
  rw [hpack]
  cases s <;> rfl

/-- What is rounded and packed is of the value rounded to, if it is finite. -/
theorem value_of_isFinite {x : Float} (hx : x.toModel = Float.Model.pack (settled s m e))
    (hm : m ≤ 2 ^ 53) (hleast : -1074 ≤ e) (hfull : 2 ^ 52 ≤ m ∨ e = -1074)
    (hfinite : x.isFinite = true) : value x = signed s (size m e) := by
  by_cases hfits : e ≤ 970 ∨ e ≤ 971 ∧ m < 2 ^ 53
  · exact (value_pack_settled hx hm hleast hfits hfull).2
  -- The exponent would be too large, also if the mantissa has grown to 54 bits.
  have hzero : m ≠ 0 := by omega
  have hinfinite : x.toModel.unpack.isFinite = false := by
    rw [hx]
    unfold settled
    rw [dif_neg hzero]
    split
    · exact not_isFinite_pack _ (by omega)
    · exact not_isFinite_pack _ (by omega)
  have hfinite : x.toModel.unpack.isFinite = true := hfinite
  rw [hinfinite] at hfinite
  cases hfinite

/-- The double `x` is what the number `q` is rounded to, as far as it does not pass any double: one
that is at most `q` is at most `x`, and one that is at least `q` is at least `x`, which then is
finite. -/
structure RoundsTo (q : ℚ) (x : Float) : Prop where
  lower : ∀ {k : Nat} {g : Int}, k ≤ 2 ^ 53 → -1074 ≤ g → size k g ≤ q → x.isFinite = true →
    size k g ≤ value x
  upper : ∀ {k : Nat} {g : Int}, Aligned k g → q ≤ size k g → x.isFinite = true ∧ value x ≤ size k g

namespace Unrounded

variable {x : Float}

theorem rounded_fits (h : Unrounded m e a q) :
    rounded m e a ≤ 2 ^ 53 ∧ (2 ^ 52 ≤ rounded m e a ∨ e + excess m e = -1074) := by
  obtain ⟨hlow, hhigh⟩ := rounded_bounds m e a
  have hlt := div_excess_lt m e
  exact ⟨by omega, h.full_quotient.imp_left fun hfull => hfull.trans hlow⟩

theorem isFinite_of_le (h : Unrounded m e a q)
    (hx : x.toModel = Float.Model.pack (roundWithAccuracy .binary64 s m e a)) (hkg : Aligned k g)
    (hq : q ≤ size k g) :
    x.isFinite = true ∧ value x = signed s (size (rounded m e a) (e + excess m e)) := by
  rw [roundWithAccuracy_eq] at hx
  exact value_pack_settled hx h.rounded_fits.1 (least_le_add_excess m e)
    (h.rounded_size_le hkg hq).2 h.rounded_fits.2

theorem roundsTo (h : Unrounded m e a q)
    (hx : x.toModel = Float.Model.pack (roundWithAccuracy .binary64 .positive m e a)) :
    RoundsTo q x where
  lower hk hg hq hfinite := by
    rw [roundWithAccuracy_eq] at hx
    rw [value_of_isFinite hx h.rounded_fits.1 (least_le_add_excess m e) h.rounded_fits.2 hfinite]
    exact h.size_le_rounded hk hg hq
  upper hkg hq := by
    obtain ⟨hfinite, hvalue⟩ := h.isFinite_of_le hx hkg hq
    rw [hvalue]
    exact ⟨hfinite, (h.rounded_size_le hkg hq).1⟩

end Unrounded

/-! ## Products and quotients -/

theorem Aligned.unrounded_mul (hm : Aligned m e) (hn : Aligned n f) (hmpos : 0 < m)
    (hnpos : 0 < n) :
    Unrounded (m * n) (e + f) .exact (size m e * size n f) where
  full := by
    have hzero : m * n ≠ 0 := (Nat.mul_pos hmpos hnpos).ne'
    rw [Nat.le_log2 hzero]
    rcases hm.full with hfull | rfl
    · exact .inl (hfull.trans (Nat.le_mul_of_pos_right m hnpos))
    · rcases hn.full with hfull | rfl
      · exact .inl (hfull.trans (Nat.le_mul_of_pos_left n hmpos))
      · exact .inr (by omega)
  near := by
    refine .inl ⟨rfl, ?_⟩
    rw [size, size, size, zpow_add₀ two_ne_zero]
    push_cast
    ring

/-- A fraction and how accurate its integer part is. -/
theorem unrounded_div_of_full (hn : 0 < n) (hfull : 52 ≤ (m / n).log2 ∨ e ≤ -1074) :
    Unrounded (m / n) e (accuracyOfFraction (m % n) n) (m / n * 2 ^ e) where
  full := hfull
  near := by
    have hpos : (0 : ℚ) < n := Nat.cast_pos.mpr hn
    have hscale : (0 : ℚ) < 2 ^ e := zpow_pos two_pos e
    have hsplit : (m : ℚ) = n * (m / n : Nat) + (m % n : Nat) := by
      exact_mod_cast (Nat.div_add_mod m n).symm
    by_cases hrest : m % n = 0
    · refine .inl ⟨if_pos hrest, ?_⟩
      rw [hrest, Nat.cast_zero, add_zero] at hsplit
      rw [size, hsplit, mul_div_cancel_left₀ _ hpos.ne']
    · refine .inr ⟨?_, ?_⟩
      · have hlt : (0 : ℚ) < (m % n : Nat) := Nat.cast_pos.mpr (Nat.pos_of_ne_zero hrest)
        rw [size, mul_lt_mul_iff_left₀ hscale, lt_div_iff₀ hpos]
        linarith
      · have hlt : ((m % n : Nat) : ℚ) < n := Nat.cast_lt.mpr (Nat.mod_lt m hn)
        rw [size, mul_lt_mul_iff_left₀ hscale, div_lt_iff₀ hpos]
        push_cast
        linarith

theorem unrounded_div (hm : 0 < m) (hn : 0 < n) : ∃ i t a,
    divCore .binary64 m e n f = (i, t, a) ∧ Unrounded i t a (size m e / size n f) := by
  rw [divCore_eq]
  dsimp only
  generalize htarget : min (e - f) (max (m.log2 + e - (n.log2 + f) - 53) (-1074)) = t
  generalize hshift : (e - f - t).toNat = j
  have hsize : size m e / size n f = (m * 2 ^ j : Nat) / n * 2 ^ t := by
    have hexponent : e = t + f + j := by omega
    rw [hexponent, ← size_mul_two_pow, size, size, zpow_add₀ two_ne_zero]
    have hpos : (n : ℚ) ≠ 0 := Nat.cast_ne_zero.mpr hn.ne'
    field_simp
  refine ⟨_, _, _, rfl, hsize ▸ unrounded_div_of_full hn ?_⟩
  by_cases hleast : t ≤ -1074
  · exact .inr hleast
  · -- Enough bits are shifted in for a full mantissa.
    have hbits : n.log2 + 53 ≤ m.log2 + j := by omega
    have hlarge : 2 ^ 52 ≤ m * 2 ^ j / n := by
      rw [Nat.le_div_iff_mul_le hn]
      calc 2 ^ 52 * n
        _ ≤ 2 ^ 52 * 2 ^ (n.log2 + 1) := Nat.mul_le_mul_left _ Nat.lt_log2_self.le
        _ = 2 ^ (n.log2 + 53) := by rw [← Nat.pow_add]; congr 1; omega
        _ ≤ 2 ^ (m.log2 + j) := Nat.pow_le_pow_right two_pos hbits
        _ = 2 ^ m.log2 * 2 ^ j := Nat.pow_add ..
        _ ≤ m * 2 ^ j := Nat.mul_le_mul_right _ (Nat.log2_self_le hm.ne')
    exact .inl ((Nat.le_log2 (by omega)).mpr hlarge)

variable {x y : Float}

/-- A positive double as a mantissa and an exponent. -/
theorem unpack_of_pos (hx : x.isFinite = true) (hpos : 0 < value x) :
    ∃ m e, ∃ hm : 0 < m, Aligned m e ∧ x.toModel.unpack = .finite .positive m e hm ∧
      value x = size m e := by
  unfold value at hpos ⊢
  rcases unpack_of_isFinite hx with ⟨s, hu⟩ | ⟨_ | _, m, e, hm, hme, hu⟩
  · rw [hu] at hpos
    cases s <;> exact absurd hpos (lt_irrefl 0)
  · rw [hu] at hpos
    exact absurd hpos (neg_nonpos.mpr size_nonneg).not_gt
  · exact ⟨m, e, hm, hme, hu, by rw [hu]; rfl⟩

theorem roundsTo_mul (hx : x.isFinite = true) (hy : y.isFinite = true) (hxpos : 0 < value x)
    (hypos : 0 < value y) : RoundsTo (value x * value y) (x * y) := by
  obtain ⟨m, e, hm, hme, hxu, hxv⟩ := unpack_of_pos hx hxpos
  obtain ⟨n, f, hn, hnf, hyu, hyv⟩ := unpack_of_pos hy hypos
  have hmodel : (x * y).toModel =
      Float.Model.pack (UnpackedFloat.mul .binary64 x.toModel.unpack y.toModel.unpack) := rfl
  rw [hxu, hyu] at hmodel
  rw [hxv, hyv]
  exact (hme.unrounded_mul hnf hm hn).roundsTo hmodel

theorem roundsTo_div (hx : x.isFinite = true) (hy : y.isFinite = true) (hxpos : 0 < value x)
    (hypos : 0 < value y) : RoundsTo (value x / value y) (x / y) := by
  obtain ⟨m, e, hm, hme, hxu, hxv⟩ := unpack_of_pos hx hxpos
  obtain ⟨n, f, hn, hnf, hyu, hyv⟩ := unpack_of_pos hy hypos
  obtain ⟨i, t, a, hcore, hdiv⟩ := unrounded_div (e := e) (f := f) hm hn
  have hmodel : (x / y).toModel =
      Float.Model.pack (UnpackedFloat.div .binary64 x.toModel.unpack y.toModel.unpack) := rfl
  rw [hxu, hyu, UnpackedFloat.div, hcore] at hmodel
  rw [hxv, hyv]
  exact hdiv.roundsTo hmodel

end MarkerAtlas.Double
