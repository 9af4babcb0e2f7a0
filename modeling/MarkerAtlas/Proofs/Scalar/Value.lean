import Mathlib
import MarkerAtlas.Proofs.Scalar.Order

/-!
# What doubles are worth

A finite double is read as a mantissa and a power of two, which are worth a rational number. The
mantissa of a double fills its 53 bits unless the exponent is the least there is; doubles
therefore are in order exactly as what they are worth.
-/

namespace MarkerAtlas.Double

open Float.Model (UnpackedFloat Format)
open Float.Model.UnpackedFloat

variable {m n : Nat} {e f : Int}

/-! ## Mantissa and exponent -/

/-- Do a mantissa and an exponent stand in a double as they are? The mantissa has 53 bits, fewer
only with the least exponent. -/
structure Aligned (m : Nat) (e : Int) : Prop where
  fits : m < 2 ^ 53
  least : -1074 ≤ e
  greatest : e ≤ 971
  full : 2 ^ 52 ≤ m ∨ e = -1074

/-- What a mantissa with an exponent is worth. -/
def size (m : Nat) (e : Int) : ℚ := m * 2 ^ e

theorem size_pos (hm : 0 < m) : 0 < size m e :=
  mul_pos (Nat.cast_pos.mpr hm) (zpow_pos two_pos e)

theorem size_nonneg : 0 ≤ size m e := mul_nonneg m.cast_nonneg (zpow_pos two_pos e).le

/-- A power of two in the mantissa is one in the exponent. -/
theorem size_mul_two_pow (m k : Nat) (e : Int) : size (m * 2 ^ k) e = size m (e + k) := by
  rw [size, size, zpow_add₀ two_ne_zero, zpow_natCast]
  push_cast
  ring

theorem size_le_size_iff : size m e ≤ size n e ↔ m ≤ n := by
  rw [size, size, mul_le_mul_iff_left₀ (zpow_pos two_pos e), Nat.cast_le]

theorem size_lt_size_iff : size m e < size n e ↔ m < n := by
  rw [← not_le, size_le_size_iff, not_le]

/-- Of two sizes the one with the greater exponent is the greater one: its mantissa is full. -/
theorem Aligned.size_lt (hm : Aligned m e) (hn : Aligned n f) (h : e < f) :
    size m e < size n f := by
  have hfull : 2 ^ 52 ≤ n := hn.full.resolve_right (by have := hm.least; omega)
  obtain ⟨k, rfl⟩ : ∃ k : Nat, f = e + ((k + 1 : Nat) : Int) := ⟨(f - e - 1).toNat, by omega⟩
  rw [← size_mul_two_pow, size_lt_size_iff]
  calc m < 2 ^ 53 := hm.fits
    _ ≤ n * 2 := by omega
    _ ≤ n * 2 ^ (k + 1) := Nat.mul_le_mul_left n (Nat.le_self_pow (Nat.succ_ne_zero k) 2)

theorem Aligned.size_lt_iff (hm : Aligned m e) (hn : Aligned n f) :
    size m e < size n f ↔ e < f ∨ e = f ∧ m < n := by
  rcases lt_trichotomy e f with h | rfl | h
  · exact iff_of_true (hm.size_lt hn h) (.inl h)
  · simp [size_lt_size_iff]
  · exact iff_of_false (hn.size_lt hm h).not_gt (by omega)

theorem log2_le_of_lt (h : m < 2 ^ 53) : m.log2 ≤ 52 := by
  by_cases hm : m = 0
  · rw [hm, Nat.log2_zero]
    exact Nat.zero_le 52
  · exact Nat.lt_succ_iff.mp ((Nat.log2_lt hm).mpr h)

theorem aligned_of_unpack_bits {b : BitVec Format.binary64.numBits} {s : Sign} {hm : 0 < m}
    (h : unpack .binary64 b = .finite s m e hm) : Aligned m e := by
  have hmantissa : (unpackMantissa b).toNat < 2 ^ 52 := BitVec.isLt _
  have hexponent : (unpackExponent b).toNat < 2 ^ 11 := BitVec.isLt _
  have hbias : ((Format.binary64.exponentBias : Nat) : Int) = 1023 := rfl
  rw [unpack] at h
  simp only [hbias] at h
  split at h
  · split at h <;> cases h
  · next hinfinite =>
    have hinfinite : (unpackExponent b).toNat ≠ 2047 :=
      fun heq => hinfinite (BitVec.toNat_inj.mp heq)
    split at h
    · next hzero =>
      split at h
      · cases h
      · -- The least exponent comes without the implicit bit.
        obtain ⟨-, rfl, rfl⟩ : _ ∧ _ ∧ _ := by simpa using h
        have hzero' : (unpackExponent b).toNat = 0 := by rw [hzero]; rfl
        exact ⟨by omega, by simp [hzero'], by simp [hzero'], .inr (by simp [hzero'])⟩
    · next hzero =>
      have hzero : (unpackExponent b).toNat ≠ 0 :=
        fun heq => hzero (BitVec.toNat_inj.mp heq)
      have happend : (1#1 ++ unpackMantissa b).toNat =
          2 ^ 52 + (unpackMantissa b).toNat := by
        rw [BitVec.toNat_append, ← Nat.shiftLeft_add_eq_or_of_lt hmantissa]
        rfl
      obtain ⟨-, rfl, rfl⟩ : _ ∧ _ ∧ _ := by simpa only [UnpackedFloat.finite.injEq] using h
      rw [happend]
      refine ⟨by omega, ?_, ?_, .inl (by omega)⟩ <;> push_cast <;> omega

/-- Doubles hold aligned numbers only. -/
theorem aligned_of_unpack {x : Float} {s : Sign} {hm : 0 < m}
    (h : x.toModel.unpack = .finite s m e hm) : Aligned m e := aligned_of_unpack_bits h

/-! ## The value of a double -/

/-- What is read is worth; what is not finite counts as zero. -/
def worth : UnpackedFloat → ℚ
  | .finite .positive m e _ => size m e
  | .finite .negative m e _ => -size m e
  | _ => 0

/-- The exact value of a finite double. -/
def value (x : Float) : ℚ := worth x.toModel.unpack

/-- What is finite is a zero, or an aligned number with a sign. -/
theorem unpack_of_isFinite {x : Float} (hx : x.isFinite = true) :
    (∃ s, x.toModel.unpack = .zero s) ∨
      ∃ s m e, ∃ hm : 0 < m, Aligned m e ∧ x.toModel.unpack = .finite s m e hm := by
  replace hx : x.toModel.unpack.isFinite = true := hx
  cases h : x.toModel.unpack with
  | notANumber => rw [h] at hx; cases hx
  | infinity s => rw [h] at hx; cases hx
  | zero s => exact .inl ⟨s, rfl⟩
  | finite s m e hm => exact .inr ⟨s, m, e, hm, aligned_of_unpack h, rfl⟩

theorem isNaN_of_isFinite {x : Float} (hx : x.isFinite = true) : x.isNaN = false := by
  show x.toModel.unpack.isNaN = false
  rcases unpack_of_isFinite hx with ⟨s, h⟩ | ⟨s, m, e, hm, -, h⟩ <;> rw [h] <;> rfl

/-- Finite doubles are in order as what they are worth. -/
theorem place_lt_iff_value_lt {x y : Float} (hx : x.isFinite = true) (hy : y.isFinite = true) :
    place x.toModel.unpack < place y.toModel.unpack ↔ value x < value y := by
  unfold value
  rcases unpack_of_isFinite hx with ⟨s, hx⟩ | ⟨_ | _, m, e, hm, hme, hx⟩ <;>
    rcases unpack_of_isFinite hy with ⟨t, hy⟩ | ⟨_ | _, n, f, hn, hnf, hy⟩ <;>
    rw [hx, hy] <;> simp only [place, worth, Prod.Lex.toLex_lt_toLex]
  · simp
  · simp [size_nonneg]
  · simp [size_pos hn]
  · simp [size_pos hm]
  · rw [neg_lt_neg_iff (a := size m e), hnf.size_lt_iff hme]
    simp [eq_comm]
  · simp [(neg_neg_of_pos (size_pos hm)).trans (size_pos hn)]
  · simp [size_nonneg]
  · simp [((neg_neg_of_pos (size_pos hn)).trans (size_pos hm)).le]
  · rw [hme.size_lt_iff hnf]
    simp

theorem rank_lt_iff_value_lt {x y : Float} (hx : x.isFinite = true) (hy : y.isFinite = true) :
    rank x < rank y ↔ value x < value y := by
  simp only [rank, isNaN_of_isFinite hx, isNaN_of_isFinite hy, Bool.false_eq_true, if_false,
    WithBot.coe_lt_coe, place_lt_iff_value_lt hx hy]

theorem rank_le_iff_value_le {x y : Float} (hx : x.isFinite = true) (hy : y.isFinite = true) :
    rank x ≤ rank y ↔ value x ≤ value y := by
  rw [← not_lt, rank_lt_iff_value_lt hy hx, not_lt]

theorem lt_iff_value_lt {x y : Float} (hx : x.isFinite = true) (hy : y.isFinite = true) :
    x < y ↔ value x < value y := by
  rw [lt_iff_rank (isNaN_of_isFinite hx) (isNaN_of_isFinite hy), rank_lt_iff_value_lt hx hy]

theorem le_iff_value_le {x y : Float} (hx : x.isFinite = true) (hy : y.isFinite = true) :
    x ≤ y ↔ value x ≤ value y := by
  rw [le_iff_rank (isNaN_of_isFinite hx) (isNaN_of_isFinite hy), rank_le_iff_value_le hx hy]

/-- Finite doubles of one value are the same, but for the two zeros. -/
theorem eq_of_value_eq {x y : Float} (hx : x.isFinite = true) (hy : y.isFinite = true)
    (hxzero : value x ≠ 0) (h : value x = value y) : x = y := by
  have hxnumber := isNaN_of_isFinite hx
  have hynumber := isNaN_of_isFinite hy
  have hrank : rank x = rank y := le_antisymm ((rank_le_iff_value_le hx hy).mpr h.le)
    ((rank_le_iff_value_le hy hx).mpr h.ge)
  have hplace : place x.toModel.unpack = place y.toModel.unpack := by
    simpa only [rank, hxnumber, hynumber, Bool.false_eq_true, if_false, WithBot.coe_inj] using hrank
  rcases eq_or_zero_of_place_eq hxnumber hynumber hplace with heq | ⟨s, t, hs, -⟩
  · exact unpack_injective heq
  · rw [value, hs] at hxzero
    cases s <;> exact absurd rfl hxzero

/-! ## The greatest value -/

end MarkerAtlas.Double
