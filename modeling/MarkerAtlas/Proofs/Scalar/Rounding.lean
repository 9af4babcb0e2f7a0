import Mathlib
import MarkerAtlas.Proofs.Scalar.Value

/-!
# Rounding

An operation on doubles works on mantissas and exponents, rounds what comes out to 53 bits and
packs it. Packing keeps what is aligned, and rounding aligns whatever is not too large.
-/

namespace MarkerAtlas.Double

open Float.Model (UnpackedFloat Format totalExponent)
open Float.Model.UnpackedFloat

variable {m : Nat} {e : Int} {s : Sign}

/-! ## Packing -/

theorem ofBitVec_toBitVec (s : Sign) : Sign.ofBitVec s.toBitVec = s := by cases s <;> rfl

theorem unpackSign_packComponents (exponent : BitVec 11) (mantissa : BitVec 52) :
    unpackSign (packComponents .binary64 s exponent mantissa) = s.toBitVec := by
  refine BitVec.toNat_inj.mp ?_
  rw [unpackSign_toNat]
  have hexponent : exponent.toNat < 2 ^ 11 := exponent.isLt
  have hmantissa : mantissa.toNat < 2 ^ 52 := mantissa.isLt
  have hsign : s.toBitVec.toNat < 2 := s.toBitVec.isLt
  -- The three parts stand side by side, the sign above the others.
  have hbits : (packComponents .binary64 s exponent mantissa).toNat =
      (s.toBitVec.toNat * 2 ^ 11 + exponent.toNat) * 2 ^ 52 + mantissa.toNat := by
    show (s.toBitVec ++ exponent ++ mantissa).toNat = _
    rw [BitVec.toNat_append, BitVec.toNat_append, ← Nat.shiftLeft_add_eq_or_of_lt hmantissa,
      ← Nat.shiftLeft_add_eq_or_of_lt hexponent, Nat.shiftLeft_eq, Nat.shiftLeft_eq]
  rw [hbits]
  omega

theorem unpack_pack_zero (s : Sign) : (Float.Model.pack (.zero s)).unpack = .zero s := by
  cases s <;> rfl

/-- What is aligned is packed without loss. -/
theorem Aligned.unpack_pack (h : Aligned m e) (hm : 0 < m) :
    (Float.Model.pack (.finite s m e hm)).unpack = .finite s m e hm := by
  have hfits := h.fits
  have hleast := h.least
  have hgreatest := h.greatest
  have hbias : ((Format.binary64.exponentBias : Nat) : Int) = 1023 := rfl
  have hwidth : Format.binary64.mantissaBits = 53 := rfl
  show unpack .binary64 (pack .binary64 (.finite s m e hm)) = _
  simp only [pack, hbias, hwidth]
  rw [if_neg (by omega)]
  -- A full mantissa is packed with its exponent, a smaller one with the exponent zero.
  split
  · next hbits =>
    -- The implicit bit is the 53rd one.
    have hfull : 2 ^ 52 ≤ m := (Nat.le_log2 hm.ne').mp (by omega)
    have hexponent : (BitVec.ofNat 11 (e + 1023 + (52 : Nat)).toNat).toNat = (e + 1075).toNat := by
      rw [BitVec.toNat_ofNat, Nat.mod_eq_of_lt] <;> omega
    have happend : (1#1 ++ BitVec.ofNat 52 m).toNat = m := by
      rw [BitVec.toNat_append, ← Nat.shiftLeft_add_eq_or_of_lt (BitVec.isLt _),
        BitVec.toNat_ofNat]
      show 2 ^ 52 + m % 2 ^ 52 = m
      omega
    rw [unpack]
    simp only [unpackExponent_packComponents, unpackMantissa_packComponents,
      unpackSign_packComponents, ofBitVec_toBitVec, ← BitVec.toNat_inj, hexponent, happend, hbias]
    rw [if_neg (by show ¬ (e + 1075).toNat = 2047; omega),
      if_neg (by show ¬ (e + 1075).toNat = 0; omega)]
    congr 1
    push_cast
    omega
  · next hbits =>
    have hlog : m.log2 ≤ 52 := log2_le_of_lt hfits
    have hless : m < 2 ^ 52 := (Nat.log2_lt hm.ne').mp (by omega)
    have he : e = -1074 := h.full.resolve_left (by omega)
    have hmantissa : (BitVec.ofNat 52 m).toNat = m := by
      rw [BitVec.toNat_ofNat, Nat.mod_eq_of_lt hless]
    rw [unpack]
    simp only [unpackExponent_packComponents, unpackMantissa_packComponents,
      unpackSign_packComponents, ofBitVec_toBitVec, ← BitVec.toNat_inj, hmantissa, hbias]
    rw [if_neg (by decide), if_pos trivial, dif_neg (by show ¬ m = 0; omega), he]
    rfl

/-! ## Shifting -/

theorem mantissa_shiftRight (em : ExtendedMantissa) (k : Nat) :
    (em >>> k).mantissa = em.mantissa / 2 ^ k := by
  induction k with
  | zero => exact (Nat.div_one _).symm
  | succ k ih =>
    show (em >>> k).mantissa / 2 = _
    rw [ih, Nat.div_div_eq_div_mul, Nat.pow_succ]

/-- Zeros are shifted out without leaving a trace. -/
theorem exact_shiftRight (m k : Nat) :
    (⟨m * 2 ^ k, false, false⟩ : ExtendedMantissa) >>> k = ⟨m, false, false⟩ := by
  induction k generalizing m with
  | zero => rw [Nat.pow_zero, Nat.mul_one]; rfl
  | succ k ih =>
    show ((⟨m * 2 ^ (k + 1), false, false⟩ : ExtendedMantissa) >>> k).shiftRightOne = _
    rw [Nat.pow_succ', ← Nat.mul_assoc, ih]
    simp [ExtendedMantissa.shiftRightOne]

theorem roundedMantissa_bounds (em : ExtendedMantissa) :
    em.mantissa ≤ em.roundedMantissa ∧ em.roundedMantissa ≤ em.mantissa + 1 := by
  obtain ⟨m, round, sticky⟩ := em
  cases round <;> cases sticky <;>
    simp [ExtendedMantissa.roundedMantissa, ExtendedMantissa.accuracy,
      Accuracy.roundToNearestEven]
  omega

theorem targetExponent_eq (m : Nat) (e : Int) :
    Format.binary64.targetExponent (totalExponent m e) = max (m.log2 + e - 52) (-1074) := by
  simp only [Format.targetExponent, totalExponent, Format.mantissaBits, Format.minExponent]
  norm_num
  omega

/-- How many bits are shifted out of a mantissa so that 53 are left, or fewer with the least
exponent. -/
def excess (m : Nat) (e : Int) : Nat := (max ((m.log2 : Int) + e - 52) (-1074) - e).toNat

theorem least_le_add_excess (m : Nat) (e : Int) : -1074 ≤ e + excess m e := by
  unfold excess
  omega

theorem div_excess_lt (m : Nat) (e : Int) : m / 2 ^ excess m e < 2 ^ 53 := by
  rw [Nat.div_lt_iff_lt_mul (Nat.two_pow_pos _), ← Nat.pow_add]
  refine Nat.lt_log2_self.trans_le (Nat.pow_le_pow_right two_pos ?_)
  unfold excess
  omega

theorem full_div_excess (hm : m ≠ 0) (h : 52 ≤ m.log2 ∨ e ≤ -1074) :
    2 ^ 52 ≤ m / 2 ^ excess m e ∨ e + excess m e = -1074 := by
  by_cases hleast : (m.log2 : Int) + e - 52 ≤ -1074
  · exact .inr (by unfold excess; omega)
  · refine .inl ((Nat.le_div_iff_mul_le (Nat.two_pow_pos _)).mpr ?_)
    rw [← Nat.pow_add]
    refine (Nat.pow_le_pow_right two_pos ?_).trans (Nat.log2_self_le hm)
    unfold excess
    omega

theorem excess_eq_zero (hm : m < 2 ^ 53) (he : -1074 ≤ e) : excess m e = 0 := by
  have hlog : m.log2 ≤ 52 := log2_le_of_lt hm
  unfold excess
  omega

theorem excess_two_pow (he : -1074 ≤ e) : excess (2 ^ 53) e = 1 := by
  unfold excess
  rw [Nat.log2_two_pow]
  omega

theorem shiftToTargetExponent_eq (m : Nat) (e : Int) (a : Accuracy) :
    shiftToTargetExponent .binary64 m e a =
      (ExtendedMantissa.ofMantissaAndAccuracy m a >>> excess m e, e + excess m e) := by
  simp only [shiftToTargetExponent, shiftToExponent, targetExponent_eq, excess]

/-! ## Rounding -/

/-- A rounded mantissa with its exponent. One that has grown to 54 bits loses a zero. -/
def settled (s : Sign) (m : Nat) (e : Int) : UnpackedFloat :=
  if h : m = 0 then .zero s
  else if m < 2 ^ 53 then .finite s m e (Nat.pos_of_ne_zero h)
  else .finite s (2 ^ 52) (e + 1) (by decide)

theorem mantissa_ofMantissaAndAccuracy (m : Nat) (a : Accuracy) :
    (ExtendedMantissa.ofMantissaAndAccuracy m a).mantissa = m := by
  rcases a with _ | _ | _ | _ <;> rfl

/-- The mantissa that is rounded to, of those that the bits shifted out lie between. -/
def rounded (m : Nat) (e : Int) (a : Accuracy) : Nat :=
  (ExtendedMantissa.ofMantissaAndAccuracy m a >>> excess m e).roundedMantissa

theorem rounded_bounds (m : Nat) (e : Int) (a : Accuracy) :
    m / 2 ^ excess m e ≤ rounded m e a ∧ rounded m e a ≤ m / 2 ^ excess m e + 1 := by
  have h := roundedMantissa_bounds (ExtendedMantissa.ofMantissaAndAccuracy m a >>> excess m e)
  rwa [mantissa_shiftRight, mantissa_ofMantissaAndAccuracy] at h

/-- Only zeros are shifted out of a mantissa that is exact: it is rounded to what is left. -/
theorem rounded_exact {k : Nat} (h : excess (m * 2 ^ k) e = k) :
    rounded (m * 2 ^ k) e .exact = m := by
  rw [rounded, h]
  show ((⟨m * 2 ^ k, false, false⟩ : ExtendedMantissa) >>> k).roundedMantissa = m
  rw [exact_shiftRight]
  rfl

theorem roundWithAccuracy_eq (s : Sign) (m : Nat) (e : Int) (a : Accuracy) :
    roundWithAccuracy .binary64 s m e a = settled s (rounded m e a) (e + excess m e) := by
  have hlow := least_le_add_excess m e
  have hhigh := div_excess_lt m e
  obtain ⟨-, hbound⟩ := rounded_bounds m e a
  have hround : rounded m e a ≤ 2 ^ 53 := by omega
  rw [roundWithAccuracy, shiftToTargetExponent_eq]
  simp only
  rw [← rounded, shiftToTargetExponent_eq]
  generalize rounded m e a = r at hround
  generalize e + excess m e = f at hlow
  -- The second shift only is one when rounding made a 54th bit.
  unfold settled
  by_cases hsmall : r < 2 ^ 53
  · simp only [excess_eq_zero hsmall hlow, mantissa_shiftRight, mantissa_ofMantissaAndAccuracy,
      Nat.pow_zero, Nat.div_one, hsmall, if_true, Nat.cast_zero, add_zero]
  · obtain rfl : r = 2 ^ 53 := by omega
    simp only [excess_two_pow hlow, mantissa_shiftRight, mantissa_ofMantissaAndAccuracy]
    rfl

/-- What a sign makes of a size. -/
def signed (s : Sign) (q : ℚ) : ℚ :=
  match s with
  | .negative => -q
  | .positive => q

/-- What is rounded and packed is a finite double of the value rounded to, unless it is too
large. -/
theorem value_pack_settled {x : Float} (hx : x.toModel = Float.Model.pack (settled s m e))
    (hm : m ≤ 2 ^ 53) (hleast : -1074 ≤ e) (hgreatest : e ≤ 970 ∨ e ≤ 971 ∧ m < 2 ^ 53)
    (hfull : 2 ^ 52 ≤ m ∨ e = -1074) : x.isFinite = true ∧ value x = signed s (size m e) := by
  -- In each case what is packed is aligned, or zero.
  have hunpack : x.toModel.unpack = settled s m e := by
    rw [hx]
    unfold settled
    split
    · exact unpack_pack_zero s
    · split
      · next hzero hfits => exact Aligned.unpack_pack ⟨hfits, hleast, by omega, hfull⟩ _
      · exact Aligned.unpack_pack ⟨by decide, by omega, by omega, .inl le_rfl⟩ _
  refine ⟨?_, ?_⟩
  · show x.toModel.unpack.isFinite = true
    rw [hunpack]
    unfold settled
    split
    · rfl
    · split <;> rfl
  · unfold value
    rw [hunpack]
    unfold settled
    split
    · next hzero => cases s <;> simp [worth, hzero, size, signed]
    · split
      · cases s <;> rfl
      · next hfits =>
        obtain rfl : m = 2 ^ 52 * 2 ^ 1 := by omega
        rw [size_mul_two_pow]
        cases s <;> rfl

/-- Whatever is not too large is rounded to a finite double. -/
theorem isFinite_pack_round {x : Float} {a : Accuracy}
    (hx : x.toModel = Float.Model.pack (roundWithAccuracy .binary64 s m e a)) (hm : m ≠ 0)
    (hfull : 52 ≤ m.log2 ∨ e ≤ -1074) (hgreatest : e + excess m e ≤ 970) :
    x.isFinite = true ∧ value x = signed s (size (rounded m e a) (e + excess m e)) := by
  rw [roundWithAccuracy_eq] at hx
  have hbounds := rounded_bounds m e a
  have hlt := div_excess_lt m e
  refine value_pack_settled hx (by omega) (least_le_add_excess m e) (.inl hgreatest) ?_
  exact (full_div_excess hm hfull).imp_left fun h => h.trans hbounds.1

/-- A quotient before it is rounded: as many bits are shifted in as its mantissa needs. -/
theorem divCore_eq (m n : Nat) (e f : Int) : divCore .binary64 m e n f =
    let target := min (e - f) (max (m.log2 + e - (n.log2 + f) - 53) (-1074))
    let shifted := m * 2 ^ (e - f - target).toNat
    (shifted / n, target, accuracyOfFraction (shifted % n) n) := by
  have htarget : Format.binary64.targetExponent (totalExponent m e - totalExponent n f) =
      max (m.log2 + e - (n.log2 + f) - 53) (-1074) := by
    simp only [Format.targetExponent, totalExponent, Format.mantissaBits, Format.minExponent]
    norm_num
    omega
  simp only [divCore, htarget, Nat.shiftLeft_eq]

/-! ## Whole numbers -/

theorem log2_mul_two_pow (hm : m ≠ 0) (k : Nat) : (m * 2 ^ k).log2 = m.log2 + k := by
  induction k with
  | zero => rw [Nat.pow_zero, Nat.mul_one, Nat.add_zero]
  | succ k ih =>
    rw [Nat.pow_succ', Nat.mul_left_comm,
      Nat.log2_two_mul (Nat.mul_ne_zero hm (Nat.two_pow_pos k).ne'), ih, Nat.add_assoc]

/-- A double times one is itself. -/
theorem mul_one_of_isFinite {x y : Float} (hx : x.isFinite = true)
    (hy : ∃ h, y.toModel.unpack = .finite .positive (2 ^ 52) (-52) h) : x * y = x := by
  obtain ⟨hone, hy⟩ := hy
  have hmodel : (x * y).toModel = Float.Model.pack
      (UnpackedFloat.mul .binary64 x.toModel.unpack (.finite .positive (2 ^ 52) (-52) hone)) :=
    hy ▸ rfl
  refine unpack_injective ?_
  rcases unpack_of_isFinite hx with ⟨s, hu⟩ | ⟨s, m, e, hm, hme, hu⟩ <;> rw [hmodel, hu]
  · cases s <;> exact unpack_pack_zero _
  · have hlog := log2_mul_two_pow hm.ne' 52
    have hbound : m.log2 ≤ 52 := log2_le_of_lt hme.fits
    -- The product has 52 zeros behind the mantissa, and these are what is shifted out.
    have hexcess : excess (m * 2 ^ 52) (e + -52) = 52 := by
      have hleast := hme.least
      rcases hme.full with hfull | rfl
      · have hfull := (Nat.le_log2 hm.ne').mpr hfull
        unfold excess
        omega
      · unfold excess
        omega
    have hsign : s * .positive = s := by cases s <;> rfl
    rw [UnpackedFloat.mul, hsign, roundWithAccuracy_eq, rounded_exact hexcess, hexcess]
    have hexponent : e + -52 + (52 : Nat) = e := by omega
    rw [hexponent, settled, dif_neg hm.ne', if_pos hme.fits]
    exact hme.unpack_pack hm

theorem isFinite_neg {x : Float} (hx : x.isFinite = true) : (-x).isFinite = true := by
  have hmodel : (-x).toModel = Float.Model.pack (UnpackedFloat.neg x.toModel.unpack) := rfl
  show (-x).toModel.unpack.isFinite = true
  rcases unpack_of_isFinite hx with ⟨s, hu⟩ | ⟨s, m, e, hm, hme, hu⟩ <;> rw [hmodel, hu]
  · cases s <;> rfl
  · rw [UnpackedFloat.neg, hme.unpack_pack hm]
    rfl

theorem isFinite_pack_whole {x : Float}
    (hx : x.toModel = Float.Model.pack (UnpackedFloat.round .binary64 s m 0))
    (hm : m ≠ 0) (hlt : m < 2 ^ 64) : x.isFinite = true := by
  have hbound : m.log2 < 64 := (Nat.log2_lt hm).mpr hlt
  simp only [UnpackedFloat.round, decreaseExponent, targetExponent_eq, Nat.shiftLeft_eq] at hx
  -- The mantissa is first extended to 53 bits.
  have hlog := log2_mul_two_pow hm (0 - max (m.log2 + 0 - 52 : Int) (-1074)).toNat
  refine (isFinite_pack_round hx (Nat.mul_ne_zero hm (Nat.two_pow_pos _).ne') ?_ ?_).1
  · omega
  · unfold excess
    omega

theorem isFinite_toFloat (n : UInt64) : n.toFloat.isFinite = true := by
  have hmodel : n.toFloat.toModel =
      Float.Model.pack (normalize .binary64 n.toNat 0 .positive) := rfl
  by_cases hzero : n.toNat = 0
  · show n.toFloat.toModel.unpack.isFinite = true
    rw [hmodel, hzero]
    rfl
  · have hpos : compare (n.toNat : Int) 0 = .gt := Int.compare_eq_gt.mpr (by omega)
    rw [UnpackedFloat.normalize, hpos] at hmodel
    exact isFinite_pack_whole hmodel hzero n.toNat_lt

/-- Whole numbers of 64 bits are finite doubles. -/
theorem isFinite_ofNat {n : Nat} (hn : n < 2 ^ 64) : (Double.ofNat n).isFinite = true := by
  unfold Double.ofNat Float.ofScientific
  by_cases hsmall : n < 2 ^ 53 ∧ 0 ≤ 22
  · rw [dif_pos hsmall]
    show (UInt64.toFloat n.toUInt64 * _).isFinite = true
    have hone : ∃ h, (Float.exactlyRepresentablePowersOfTen[0]).toModel.unpack =
        .finite .positive (2 ^ 52) (-52) h := by
      refine ⟨by decide, ?_⟩
      show (Float.ofBits 4607182418800017408).toModel.unpack = _
      rfl
    rw [mul_one_of_isFinite (isFinite_toFloat _) hone]
    exact isFinite_toFloat _
  · -- Numbers of more than 53 bits are rounded once.
    rw [dif_neg hsmall]
    have hzero : n ≠ 0 := by omega
    have hbound : n.log2 < 64 := (Nat.log2_lt hzero).mpr hn
    have hlog := log2_mul_two_pow hzero 53
    have hsign : Sign.positive * Sign.positive = Sign.positive := rfl
    have hmodel : UnpackedFloat.ofScientific .binary64 n 0 =
        roundWithAccuracy .binary64 .positive (n * 2 ^ 53) (-53) .exact := by
      have hlarge : ¬ (0 : Int) < -(2 ^ 11 + n.log2) := by omega
      rw [UnpackedFloat.ofScientific, dif_neg hzero, if_neg (by decide), if_neg hlarge,
        if_pos le_rfl, UnpackedFloat.mul, hsign, Nat.shiftLeft_eq, Int.toNat_zero, Nat.pow_zero,
        Nat.mul_one, Int.add_zero]
      rfl
    refine (isFinite_pack_round (congrArg Float.Model.pack hmodel) ?_ ?_ ?_).1
    · exact Nat.mul_ne_zero hzero (Nat.two_pow_pos _).ne'
    · omega
    · unfold excess
      omega

theorem isFinite_ofInt {i : Int} (h : i.natAbs < 2 ^ 64) : (Double.ofInt i).isFinite = true := by
  unfold Double.ofInt
  split
  · exact isFinite_neg (isFinite_ofNat h)
  · exact isFinite_ofNat h

end MarkerAtlas.Double
