import MarkerAtlas.Decimal.Layout
import MarkerAtlas.Proofs.Decimal.Shortest

/-!
# Sizes and signs in the bits of a double

The size and the sign that the bits of a finite double hold are those that the double is read as,
and together they make up the double.
-/

namespace MarkerAtlas.Decimal

open Double (Aligned fields signField unpack_of_isFinite)

variable {x y : Float}

theorem fields_eq_bits (x : Float) : fields x.toModel.unpack =
    (x.toBits.toNat / 2 ^ 63 % 2, x.toBits.toNat / 2 ^ 52 % 2 ^ 11, x.toBits.toNat % 2 ^ 52) := by
  obtain ⟨⟨⟨b⟩, hb⟩⟩ := x
  have hfields := Double.fields_unpack hb
  rw [Double.unpackSign_toNat, Double.unpackExponent_toNat, Double.unpackMantissa_toNat] at hfields
  exact hfields

theorem toNat_and_ones (b : UInt64) (k : Nat) {ones : UInt64} (h : ones.toNat = 2 ^ k - 1) :
    (b &&& ones).toNat = b.toNat % 2 ^ k := by
  rw [UInt64.toNat_and, h, Nat.and_two_pow_sub_one_eq_mod]

theorem toNat_shiftRight (b : UInt64) {k : UInt64} (hk : k.toNat < 64) :
    (b >>> k).toNat = b.toNat / 2 ^ k.toNat := by
  rw [UInt64.toNat_shiftRight, Nat.mod_eq_of_lt hk, Nat.shiftRight_eq_div_pow]

theorem signBit_iff (x : Float) : signBit x = true ↔ x.toBits.toNat / 2 ^ 63 % 2 = 1 := by
  have hlt : x.toBits.toNat < 2 ^ 64 := x.toBits.toNat_lt
  have hshift : (x.toBits >>> 63).toNat = x.toBits.toNat / 2 ^ 63 := toNat_shiftRight _ (by decide)
  have hone : (1 : UInt64).toNat = 1 := rfl
  rw [signBit, beq_iff_eq, ← UInt64.toNat_inj, hshift, hone]
  omega

theorem ofBits_eq (b : UInt64) : Magnitude.ofBits b =
    if b.toNat / 2 ^ 52 % 2 ^ 11 = 0 then ⟨b.toNat % 2 ^ 52, -1074, false⟩
    else ⟨2 ^ 52 + b.toNat % 2 ^ 52, (b.toNat / 2 ^ 52 % 2 ^ 11 : Nat) - 1075,
      b.toNat % 2 ^ 52 == 0 && b.toNat / 2 ^ 52 % 2 ^ 11 > 1⟩ := by
  have hshift : (b >>> 52).toNat = b.toNat / 2 ^ 52 := toNat_shiftRight b (by decide)
  have hbiased : ((b >>> 52) &&& 0x7FF).toNat = b.toNat / 2 ^ 52 % 2 ^ 11 := by
    rw [toNat_and_ones _ 11 rfl, hshift]
  have hfraction : (b &&& 0xFFFFFFFFFFFFF).toNat = b.toNat % 2 ^ 52 := toNat_and_ones b 52 rfl
  rw [Magnitude.ofBits, hbiased, hfraction]
  rfl

/-- The greatest exponent is that of infinity and of what is no number. -/
theorem exponentBits_lt (hx : x.isFinite = true) : x.toBits.toNat / 2 ^ 52 % 2 ^ 11 < 2047 := by
  have hfields := fields_eq_bits x
  rcases unpack_of_isFinite hx with ⟨s, hu⟩ | ⟨s, m, e, hm, hme, hu⟩ <;>
    rw [hu] at hfields <;> simp only [fields, Prod.mk.injEq] at hfields
  · omega
  · have hgreatest := hme.greatest
    split at hfields <;> omega

/-- The bits of a finite double hold a proper size. -/
theorem proper_ofBits (hx : x.isFinite = true) : (Magnitude.ofBits x.toBits).Proper := by
  have hexponent := exponentBits_lt hx
  have hfraction : x.toBits.toNat % 2 ^ 52 < 2 ^ 52 := Nat.mod_lt _ (Nat.two_pow_pos 52)
  rw [ofBits_eq]
  split
  · refine ⟨⟨by simp only; omega, le_rfl, by norm_num, .inr rfl⟩, ?_⟩
    simp only [Bool.false_eq_true, false_iff]
    omega
  · refine ⟨⟨by simp only; omega, by simp only; omega, by simp only; omega,
      .inl (Nat.le_add_right _ _)⟩, ?_⟩
    simp only [Bool.and_eq_true, beq_iff_eq, decide_eq_true_eq]
    omega

/-- A double is made up of its sign and its size. -/
theorem eq_of_ofBits_eq (hsign : signBit x = signBit y)
    (hsize : Magnitude.ofBits x.toBits = Magnitude.ofBits y.toBits) : x = y := by
  have hx : x.toBits.toNat < 2 ^ 64 := x.toBits.toNat_lt
  have hy : y.toBits.toNat < 2 ^ 64 := y.toBits.toNat_lt
  rw [Bool.eq_iff_iff, signBit_iff, signBit_iff] at hsign
  have hrest : x.toBits.toNat / 2 ^ 52 % 2 ^ 11 = y.toBits.toNat / 2 ^ 52 % 2 ^ 11 ∧
      x.toBits.toNat % 2 ^ 52 = y.toBits.toNat % 2 ^ 52 := by
    rw [ofBits_eq, ofBits_eq] at hsize
    -- The implicit bit tells the least exponent apart from the others.
    split at hsize <;> split at hsize <;> simp only [Magnitude.mk.injEq] at hsize <;> omega
  have hbits : x.toBits = y.toBits := UInt64.toNat_inj.mp (by omega)
  obtain ⟨⟨b, hb⟩⟩ := x
  obtain ⟨⟨c, hc⟩⟩ := y
  obtain rfl : b = c := hbits
  rfl

end MarkerAtlas.Decimal
