import MarkerAtlas.Decimal.Shortest
import MarkerAtlas.Proofs.Scalar.Value

/-!
# Which double a decimal is the text of

The decimals that read back to a double fill an interval around it, which ends halfway to its
neighbours. The intervals of two doubles never share a number: where they meet, the end belongs to
the one with the even significand, and the other one is odd. The decimal that is written for a
double lies in its interval, so it tells the double apart from every other.

## Steps

* `readsBack_iff`: the test on natural numbers says that the decimal is in the interval.
* `Proper.eq_of_holds`: proper sizes whose intervals share a number are the same.
* `holds_shortest`: what is written for a size is in its interval.
-/

namespace MarkerAtlas

open Double (size size_nonneg Aligned)

namespace Decimal

/-! ## Exact comparison -/

/-- The number that a decimal stands for. -/
def value (d : Decimal) : ℚ := d.digits * 10 ^ d.exponent

/-- Numbers are compared as their multiples by one positive number. -/
theorem compare_of_scaled {a b : Nat} {p q scale : ℚ} (hscale : 0 < scale)
    (hp : p * scale = a) (hq : q * scale = b) : compare a b = compare p q := by
  have hlt : a < b ↔ p < q := by
    rw [← mul_lt_mul_iff_of_pos_right hscale, hp, hq, Nat.cast_lt]
  have hgt : b < a ↔ q < p := by
    rw [← mul_lt_mul_iff_of_pos_right hscale, hp, hq, Nat.cast_lt]
  rcases lt_trichotomy p q with h | h | h
  · rw [compare_lt_iff_lt.mpr h, compare_lt_iff_lt.mpr (hlt.mpr h)]
  · have heq : a = b := by
      apply le_antisymm
      · exact not_lt.mp fun hba => (hgt.mp hba).ne' h
      · exact not_lt.mp fun hab => (hlt.mp hab).ne h
    rw [compare_eq_iff_eq.mpr h, compare_eq_iff_eq.mpr heq]
  · rw [compare_gt_iff_gt.mpr h, compare_gt_iff_gt.mpr (hgt.mpr h)]

theorem zpow_mul_pow_toNat (b : ℚ) (hb : b ≠ 0) (k : Int) :
    b ^ k * b ^ (-k).toNat = b ^ k.toNat := by
  rw [← zpow_natCast, ← zpow_natCast, ← zpow_add₀ hb]
  congr 1
  omega

theorem compareScaled_eq (d : Decimal) (n : Nat) (k : Int) :
    compareScaled d.digits d.exponent n k = compare d.value (size n k) := by
  have hscale : (0 : ℚ) < 10 ^ (-d.exponent).toNat * 2 ^ (-k).toNat := by positivity
  apply compare_of_scaled hscale
  · rw [value, Nat.shiftLeft_eq, Nat.pow_eq]
    push_cast
    rw [← zpow_mul_pow_toNat 10 (by norm_num) d.exponent]
    ring
  · rw [size, Nat.shiftLeft_eq, Nat.pow_eq]
    push_cast
    rw [← zpow_mul_pow_toNat 2 (by norm_num) k]
    ring

/-! ## The interval of a size -/

namespace Magnitude

/-- What a size is worth. -/
def worth (x : Magnitude) : ℚ := size x.significand x.exponent

/-- The midpoint to the neighbour below, in quarters of the last place. -/
def lowQuarters (x : Magnitude) : Nat :=
  if x.closeBelow then 4 * x.significand - 1 else 4 * x.significand - 2

/-- The midpoint to the neighbour below, which may be only half as far away as the one above. -/
def low (x : Magnitude) : ℚ := size x.lowQuarters (x.exponent - 2)

/-- The midpoint to the neighbour above. -/
def high (x : Magnitude) : ℚ := size (4 * x.significand + 2) (x.exponent - 2)

/-- Is the number between the midpoints, or one of them that goes to this size? -/
def Holds (x : Magnitude) (q : ℚ) : Prop :=
  (x.low < q ∨ x.significand % 2 = 0 ∧ x.low = q) ∧
    (q < x.high ∨ x.significand % 2 = 0 ∧ q = x.high)

theorem readsBack_iff {x : Magnitude} {d : Decimal} : x.readsBack d = true ↔ x.Holds d.value := by
  simp only [readsBack, compareScaled_eq, Holds, low, lowQuarters, high, Bool.and_eq_true,
    Bool.or_eq_true, beq_iff_eq, compare_lt_iff_lt, compare_gt_iff_gt, compare_eq_iff_eq]
  -- The lower end is compared from the other side.
  rw [eq_comm (b := d.value)]

/-- The significand fills the 53 bits of a double, and only a power of two is close to the double
below it. -/
structure Proper (x : Magnitude) : Prop where
  aligned : Aligned x.significand x.exponent
  closeBelow : x.closeBelow = true ↔ x.significand = 2 ^ 52 ∧ -1074 < x.exponent

theorem worth_eq (x : Magnitude) : x.worth = size (4 * x.significand) (x.exponent - 2) := by
  have hexponent : x.exponent - 2 + (2 : Nat) = x.exponent := by omega
  have hmantissa := Double.size_mul_two_pow x.significand 2 (x.exponent - 2)
  rw [hexponent] at hmantissa
  rw [worth, ← hmantissa, mul_comm 4]
  rfl

theorem worth_lt_high (x : Magnitude) : x.worth < x.high := by
  rw [worth_eq, high, Double.size_lt_size_iff]
  omega

theorem low_lt_worth {x : Magnitude} (hpos : x.significand ≠ 0) : x.low < x.worth := by
  rw [worth_eq, low, Double.size_lt_size_iff, lowQuarters]
  split <;> omega

/-- Every size is in its own interval. -/
theorem holds_worth (x : Magnitude) : x.Holds x.worth := by
  refine ⟨?_, .inl x.worth_lt_high⟩
  by_cases hzero : x.significand = 0
  · -- Nothing lies below zero, which is even.
    apply Or.inr
    simp [low, lowQuarters, worth, size, hzero]
  · exact .inl (low_lt_worth hzero)

/-! ## Intervals are apart -/

/-- The end of one interval and the start of another, in quarters of the last place of the first. -/
theorem high_le_low_of_quarters {x y : Magnitude} {k : Nat}
    (hexponent : y.exponent = x.exponent + k) (hle : 4 * x.significand + 2 ≤ y.lowQuarters * 2 ^ k)
    (hodd : 4 * x.significand + 2 = y.lowQuarters * 2 ^ k →
      x.significand % 2 = 1 ∨ y.significand % 2 = 1) :
    x.high < y.low ∨ x.high = y.low ∧ (x.significand % 2 = 1 ∨ y.significand % 2 = 1) := by
  have hlow : y.low = size (y.lowQuarters * 2 ^ k) (x.exponent - 2) := by
    rw [Double.size_mul_two_pow, low, lowQuarters, hexponent]
    congr 1
    omega
  rw [hlow, high]
  rcases hle.lt_or_eq with hlt | heq
  · exact .inl (Double.size_lt_size_iff.mpr hlt)
  · exact .inr ⟨by rw [heq], hodd heq⟩

/-- The interval of a smaller size ends where that of a greater one begins, or before. They only
meet where one of the two significands is odd. -/
theorem Proper.high_le_low {x y : Magnitude} (hx : x.Proper) (hy : y.Proper)
    (h : x.worth < y.worth) :
    x.high < y.low ∨ x.high = y.low ∧ (x.significand % 2 = 1 ∨ y.significand % 2 = 1) := by
  rcases (hx.aligned.size_lt_iff hy.aligned).mp h with hlt | ⟨heq, hlt⟩
  · -- The greater one fills its bits, the smaller one is at most all ones.
    have hexponent : -1074 < y.exponent := by have := hx.aligned.least; omega
    have hfull : 2 ^ 52 ≤ y.significand := hy.aligned.full.resolve_right (by omega)
    have hfits := hx.aligned.fits
    have hlow : 2 ^ 54 - 1 ≤ y.lowQuarters := by
      unfold lowQuarters
      split
      · omega
      · next hfar =>
        have hne : y.significand ≠ 2 ^ 52 := fun heq => hfar (hy.closeBelow.mpr ⟨heq, hexponent⟩)
        omega
    obtain ⟨k, hk⟩ : ∃ k : Nat, y.exponent = x.exponent + ((k + 1 : Nat) : Int) :=
      ⟨(y.exponent - x.exponent - 1).toNat, by omega⟩
    have hdouble : y.lowQuarters * 2 ≤ y.lowQuarters * 2 ^ (k + 1) :=
      Nat.mul_le_mul_left _ (Nat.le_self_pow (Nat.succ_ne_zero k) 2)
    apply high_le_low_of_quarters hk
    · omega
    · intro hmeet
      omega
  · -- Within one power of two the sizes are a whole place apart.
    apply high_le_low_of_quarters (k := 0) (by rw [heq, Nat.cast_zero, add_zero])
    · unfold lowQuarters
      split <;> omega
    · intro hmeet
      unfold lowQuarters at hmeet
      split at hmeet <;> omega

theorem Proper.not_holds_of_lt {x y : Magnitude} (hx : x.Proper) (hy : y.Proper) {q : ℚ}
    (hxq : x.Holds q) (hyq : y.Holds q) : ¬ x.worth < y.worth := by
  intro h
  rcases hx.high_le_low hy h with hlt | ⟨hmeet, hodd⟩
  · have hq : q ≤ x.high := hxq.2.elim (fun h => h.le) fun h => h.2.le
    have hq' : y.low ≤ q := hyq.1.elim (fun h => h.le) fun h => h.2.le
    exact absurd (hq'.trans hq) (not_le.mpr hlt)
  · -- The number is where the intervals meet, so that both significands are even.
    rcases hxq.2 with hq | ⟨hxeven, hq⟩
    · rcases hyq.1 with hq' | ⟨-, hq'⟩
      · exact absurd (hq.trans (hmeet ▸ hq')) (lt_irrefl _)
      · exact absurd (hq.trans_eq (hmeet.trans hq')) (lt_irrefl _)
    · rcases hyq.1 with hq' | ⟨hyeven, -⟩
      · exact absurd (hq.trans hmeet) hq'.ne'
      · omega

/-- Proper sizes of one worth are the same. -/
theorem Proper.eq_of_worth_eq {x y : Magnitude} (hx : x.Proper) (hy : y.Proper)
    (h : x.worth = y.worth) : x = y := by
  have hlt : ¬ x.worth < y.worth := h.not_lt
  have hgt : ¬ y.worth < x.worth := h.not_gt
  rw [worth, worth, hx.aligned.size_lt_iff hy.aligned] at hlt
  rw [worth, worth, hy.aligned.size_lt_iff hx.aligned] at hgt
  obtain ⟨m, e, c⟩ := x
  obtain ⟨n, f, d⟩ := y
  simp only at hlt hgt
  obtain ⟨rfl, rfl⟩ : e = f ∧ m = n := by omega
  obtain rfl : c = d := Bool.eq_iff_iff.mpr (hx.closeBelow.trans hy.closeBelow.symm)
  rfl

/-- A number is in the interval of one size only. -/
theorem Proper.eq_of_holds {x y : Magnitude} (hx : x.Proper) (hy : y.Proper) {q : ℚ}
    (hxq : x.Holds q) (hyq : y.Holds q) : x = y := by
  apply hx.eq_of_worth_eq hy
  apply le_antisymm
  · exact not_lt.mp (hy.not_holds_of_lt hx hyq hxq)
  · exact not_lt.mp (hx.not_holds_of_lt hy hxq hyq)

/-! ## The shortest decimal -/

theorem value_strip (fuel : Nat) (d : Decimal) : (d.strip fuel).value = d.value := by
  induction fuel generalizing d with
  | zero => rfl
  | succ fuel ih =>
    unfold strip
    split
    · next hzeros =>
      have hdigits : (d.digits : ℚ) = (d.digits / 10 : Nat) * 10 := by
        have hdiv : d.digits = d.digits / 10 * 10 := by omega
        exact_mod_cast hdiv
      rw [ih, value, value, hdigits, zpow_add_one₀ (by norm_num)]
      ring
    · rfl

theorem value_exact (x : Magnitude) : x.exact.value = x.worth := by
  rcases le_or_gt 0 x.exponent with hpos | hneg
  · obtain ⟨k, hk⟩ : ∃ k : Nat, x.exponent = k := ⟨x.exponent.toNat, by omega⟩
    have hnot : ¬ x.exponent < 0 := by omega
    have hfive : (-x.exponent).toNat = 0 := by omega
    rw [value, exact, if_neg hnot, hfive, worth, size, hk, Int.toNat_natCast, Nat.shiftLeft_eq,
      Nat.pow_eq, pow_zero, mul_one, zpow_zero, mul_one, zpow_natCast]
    push_cast
    rfl
  · obtain ⟨k, hk⟩ : ∃ k : Nat, x.exponent = -(k : Int) := ⟨(-x.exponent).toNat, by omega⟩
    have htwo : x.exponent.toNat = 0 := by omega
    -- Each half is a half of ten.
    have hten : (5 : ℚ) ^ k * 10 ^ (-(k : Int)) = 2 ^ (-(k : Int)) := by
      rw [zpow_neg, zpow_neg, zpow_natCast, zpow_natCast, mul_inv_eq_iff_eq_mul₀ (by positivity),
        inv_mul_eq_div, eq_div_iff (by positivity), ← mul_pow]
      norm_num
    rw [value, exact, if_pos hneg, htwo, worth, size, hk, neg_neg, Int.toNat_natCast,
      Nat.shiftLeft_eq, Nat.pow_eq, pow_zero, mul_one, ← hten]
    push_cast
    ring

/-- Of two neighbours that both read back, the nearer one does. -/
theorem readsBack_nearer {x : Magnitude} {digits : Nat} {grid : Int} (nearer : Bool)
    (hlow : x.readsBack ⟨digits, grid⟩ = true) (hhigh : x.readsBack ⟨digits + 1, grid⟩ = true) :
    x.readsBack ⟨if nearer then digits else digits + 1, grid⟩ = true := by
  cases nearer with
  | false => exact hhigh
  | true => exact hlow

theorem holds_of_onGrid {x : Magnitude} {tie : Tie} {grid : Int} {d : Decimal}
    (h : x.onGrid tie grid = some d) : x.Holds d.value := by
  rw [← readsBack_iff]
  unfold onGrid at h
  simp only at h
  split at h
  · next hboth =>
    rw [Bool.and_eq_true] at hboth
    obtain rfl := Option.some.inj h
    exact readsBack_nearer _ hboth.1 hboth.2
  · split at h
    · next hlow =>
      obtain rfl := Option.some.inj h
      exact hlow
    · split at h
      · next hhigh =>
        obtain rfl := Option.some.inj h
        exact hhigh
      · cases h

/-- The decimal that is written for a size reads back to it. -/
theorem holds_shortest (x : Magnitude) (tie : Tie) : x.Holds (x.shortest tie).value := by
  unfold shortest
  split
  · next hzero =>
    have hworth : x.worth = 0 := by simp [worth, size, hzero]
    have hvalue : (Decimal.mk 0 0).value = x.worth := by simp [value, hworth]
    rw [hvalue]
    exact x.holds_worth
  · simp only
    rw [value_strip]
    cases hfound : (List.range 17).findSome? fun n : Nat =>
      x.onGrid tie (x.decimalScale - ((n : Int) + 1)) with
    | none =>
      -- No short decimal was found: the exact value is written.
      rw [Option.getD_none, value_exact]
      exact x.holds_worth
    | some d =>
      obtain ⟨n, -, hn⟩ := List.exists_of_findSome?_eq_some hfound
      exact holds_of_onGrid hn

theorem pos_of_holds {x : Magnitude} {q : ℚ} (hx : x.significand ≠ 0) (h : x.Holds q) : 0 < q := by
  have hquarters : 0 < x.lowQuarters := by
    unfold lowQuarters
    split <;> omega
  have hlow : 0 < x.low := Double.size_pos hquarters
  rcases h.1 with hq | ⟨-, hq⟩
  · exact hlow.trans hq
  · exact hlow.trans_eq hq

/-- Only zero is written without digits, and then without a power of ten. -/
theorem exponent_shortest_of_digits {x : Magnitude} {tie : Tie} (h : (x.shortest tie).digits = 0) :
    (x.shortest tie).exponent = 0 := by
  by_cases hzero : x.significand = 0
  · rw [shortest, if_pos hzero]
  · have hpos := pos_of_holds hzero (x.holds_shortest tie)
    have hvalue : (x.shortest tie).value = 0 := by rw [value, h, Nat.cast_zero, zero_mul]
    exact absurd hvalue hpos.ne'

end Magnitude

end Decimal

end MarkerAtlas
