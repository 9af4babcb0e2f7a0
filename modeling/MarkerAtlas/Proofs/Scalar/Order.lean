import Mathlib
import MarkerAtlas.Scalar.Double

/-!
# The order of doubles

Two doubles are compared by what their bits are read as. Read this way they are ordered like
triples of integers, with two exceptions: what is no number compares to nothing, and the two zeros
are equal without being the same. Among doubles whose zero has no sign, the greatest one therefore
does not depend on the order in which they are looked at.
-/

namespace MarkerAtlas

theorem Scalar.plainZero_plainZero {α : Type} [Scalar α] (x : α) :
    plainZero (plainZero x) = plainZero x := by
  unfold plainZero
  by_cases hx : same x 0 = true
  · simp only [if_pos hx, ite_self]
  · simp only [if_neg hx]

namespace Double

open Float.Model (UnpackedFloat Format)
open Float.Model.UnpackedFloat

/-! ## Bits are read without loss -/

/-- The sign bit. -/
def signField : Sign → Nat
  | .negative => 1
  | .positive => 0

/-- The fields of the bits that are read as a double: sign, exponent and mantissa. -/
def fields : UnpackedFloat → Nat × Nat × Nat
  | .infinity s => (signField s, 2047, 0)
  | .notANumber => (0, 2047, 2 ^ 51)
  | .zero s => (signField s, 0, 0)
  | .finite s m e _ => (signField s, if m < 2 ^ 52 then 0 else (e + 1075).toNat, m % 2 ^ 52)

theorem unpackMantissa_toNat (b : BitVec Format.binary64.numBits) :
    (unpackMantissa b).toNat = b.toNat % 2 ^ 52 := by
  simp [unpackMantissa, BitVec.extractLsb]

theorem unpackExponent_toNat (b : BitVec Format.binary64.numBits) :
    (unpackExponent b).toNat = b.toNat / 2 ^ 52 % 2 ^ 11 := by
  simp [unpackExponent, BitVec.extractLsb, Nat.shiftRight_eq_div_pow]

theorem unpackSign_toNat (b : BitVec Format.binary64.numBits) :
    (unpackSign b).toNat = b.toNat / 2 ^ 63 % 2 := by
  simp [unpackSign, BitVec.extractLsb, Nat.shiftRight_eq_div_pow]

theorem signField_ofBitVec (b : BitVec 1) : signField (Sign.ofBitVec b) = b.toNat := by
  revert b
  decide

theorem fields_unpack {b : BitVec Format.binary64.numBits} (hv : Format.binary64.Valid b) :
    fields (unpack .binary64 b) =
      ((unpackSign b).toNat, (unpackExponent b).toNat, (unpackMantissa b).toNat) := by
  have hm : (unpackMantissa b).toNat < 2 ^ 52 := (unpackMantissa b).isLt
  have he : (unpackExponent b).toNat < 2 ^ 11 := (unpackExponent b).isLt
  -- The exponent tells what the bits are: all ones, zero, or that of a normal number.
  rw [unpack]
  split
  · next hexp =>
    split
    · next hmant => simp [fields, signField_ofBitVec, hexp, hmant]
    · next hmant =>
      -- The only bits that are valid without being a number.
      rw [hv.eq_packedNaN hexp hmant]
      decide
  · next hexp =>
    have hexp' : (unpackExponent b).toNat ≠ 2047 := fun h => hexp (BitVec.toNat_inj.mp h)
    split
    · next hzero =>
      split
      · next hmant => simp [fields, signField_ofBitVec, hzero, hmant]
      · next hmant =>
        simp only [fields, signField_ofBitVec, if_pos hm, Nat.mod_eq_of_lt hm, hzero]
        rfl
    · next hzero =>
      have hzero' : (unpackExponent b).toNat ≠ 0 := fun h => hzero (BitVec.toNat_inj.mp h)
      -- The implicit bit lies above the 52 bits that are kept.
      have happend : (1#1 ++ unpackMantissa b).toNat = 2 ^ 52 + (unpackMantissa b).toNat := by
        rw [BitVec.toNat_append, ← Nat.shiftLeft_add_eq_or_of_lt hm]
        rfl
      have hbias : ((Format.binary64.exponentBias : Nat) : Int) = 1023 := rfl
      simp only [fields, signField_ofBitVec, happend, hbias]
      rw [if_neg (by omega)]
      refine Prod.ext rfl (Prod.ext ?_ ?_)
      · show (((unpackExponent b).toNat : Int) - (1023 + 52) + 1075).toNat =
          (unpackExponent b).toNat
        omega
      · show (2 ^ 52 + (unpackMantissa b).toNat) % 2 ^ 52 = (unpackMantissa b).toNat
        omega

/-- Doubles that are read the same are the same. -/
theorem unpack_injective {x y : Float} (h : x.toModel.unpack = y.toModel.unpack) : x = y := by
  obtain ⟨⟨⟨xs⟩, hx⟩⟩ := x
  obtain ⟨⟨⟨ys⟩, hy⟩⟩ := y
  have hfields : fields (unpack .binary64 xs) = fields (unpack .binary64 ys) := congrArg fields h
  rw [fields_unpack hx, fields_unpack hy] at hfields
  simp only [Prod.mk.injEq, unpackSign_toNat, unpackExponent_toNat, unpackMantissa_toNat] at hfields
  obtain ⟨hsign, hexponent, hmantissa⟩ := hfields
  have hxlt : xs.toNat < 2 ^ 64 := xs.isLt
  have hylt : ys.toNat < 2 ^ 64 := ys.isLt
  have hbits : xs = ys := BitVec.toNat_inj.mp (by omega)
  subst hbits
  rfl

/-! ## Where a double lies in the order -/

/-- The place of what is read in the order, for all but what is no number. -/
def place : UnpackedFloat → Int ×ₗ Int ×ₗ Int
  | .notANumber => toLex (0, toLex (0, 0))
  | .zero _ => toLex (0, toLex (0, 0))
  | .infinity .negative => toLex (-2, toLex (0, 0))
  | .infinity .positive => toLex (2, toLex (0, 0))
  | .finite .negative m e _ => toLex (-1, toLex (-e, -(m : Int)))
  | .finite .positive m e _ => toLex (1, toLex (e, m))

theorem compare_sign_self (s : Sign) : compare s s = .eq := by cases s <;> rfl

theorem compare_negative_positive : compare Sign.negative Sign.positive = .lt := rfl

theorem compare_positive_negative : compare Sign.positive Sign.negative = .gt := rfl

/-- What is a number is compared by its place. -/
theorem compare_iff_place {a b : UnpackedFloat} (ha : a.isNaN = false) (hb : b.isNaN = false) :
    (a.compare b = some .lt ↔ place a < place b) ∧
      (a.compare b = some .eq ↔ place a = place b) := by
  rcases a with s | _ | s | ⟨s, m, e, hm⟩
  case notANumber => cases ha
  all_goals
    rcases b with t | _ | t | ⟨t, n, f, hn⟩
    case notANumber => cases hb
    all_goals
      -- The signs come first; only two finite numbers of one sign are compared any further.
      rcases s with _ | _ <;> rcases t with _ | _ <;>
        simp [UnpackedFloat.compare, place, Prod.Lex.toLex_lt_toLex, Ordering.then_eq_lt,
          Ordering.then_eq_gt, Ordering.then_eq_eq, Ordering.swap_eq_lt, Ordering.swap_eq_eq,
          compare_lt_iff_lt, compare_gt_iff_gt, compare_sign_self, compare_negative_positive,
          compare_positive_negative]

theorem eq_of_isNaN {a b : UnpackedFloat} (ha : a.isNaN = true) (hb : b.isNaN = true) : a = b := by
  cases a <;> cases ha
  cases b <;> cases hb
  rfl

/-- Only the two zeros share a place. -/
theorem eq_or_zero_of_place_eq {a b : UnpackedFloat} (ha : a.isNaN = false) (hb : b.isNaN = false)
    (h : place a = place b) : a = b ∨ ∃ s t, a = .zero s ∧ b = .zero t := by
  rcases a with s | _ | s | ⟨s, m, e, hm⟩
  case notANumber => cases ha
  all_goals
    rcases b with t | _ | t | ⟨t, n, f, hn⟩
    case notANumber => cases hb
    all_goals
      rcases s with _ | _ <;> rcases t with _ | _ <;> simp_all [place]

/-! ## The greatest of several doubles -/

/-- The place of a double in the order; what is no number comes before all numbers. -/
def rank (x : Float) : WithBot (Int ×ₗ Int ×ₗ Int) :=
  if x.isNaN then ⊥ else ↑(place x.toModel.unpack)

theorem lt_iff_compare (x y : Float) :
    x < y ↔ x.toModel.unpack.compare y.toModel.unpack = some .lt := by
  show Float.lt x y = true ↔ _
  unfold Float.lt
  rw [decide_eq_true_iff]
  show (x.toModel.unpack.compare y.toModel.unpack == some Ordering.lt) = true ↔ _
  exact beq_iff_eq

theorem lt_iff_rank {x y : Float} (hx : x.isNaN = false) (hy : y.isNaN = false) :
    x < y ↔ rank x < rank y := by
  rw [lt_iff_compare, (compare_iff_place hx hy).1]
  simp only [rank, hx, hy, Bool.false_eq_true, if_false, WithBot.coe_lt_coe]

theorem le_iff_compare (x y : Float) :
    x ≤ y ↔ x.toModel.unpack.compare y.toModel.unpack = some .lt ∨
      x.toModel.unpack.compare y.toModel.unpack = some .eq := by
  show Float.le x y = true ↔ _
  unfold Float.le
  rw [decide_eq_true_iff]
  show (x.toModel.unpack.compare y.toModel.unpack).any (·.isLE) = true ↔ _
  cases x.toModel.unpack.compare y.toModel.unpack with
  | none => simp
  | some o => cases o <;> simp

theorem le_iff_rank {x y : Float} (hx : x.isNaN = false) (hy : y.isNaN = false) :
    x ≤ y ↔ rank x ≤ rank y := by
  rw [le_iff_compare, (compare_iff_place hx hy).1, (compare_iff_place hx hy).2, ← le_iff_lt_or_eq]
  simp only [rank, hx, hy, Bool.false_eq_true, if_false, WithBot.coe_le_coe]

/-- What is no number compares to nothing. -/
theorem compare_of_isNaN {a b : UnpackedFloat} (h : a.isNaN = true ∨ b.isNaN = true) :
    a.compare b = none := by
  rcases h with h | h
  · cases a <;> cases h
    cases b <;> rfl
  · cases b <;> cases h
    cases a <;> rfl

theorem not_lt_of_isNaN {x y : Float} (hy : y.isNaN = true) : ¬ x < y := by
  rw [lt_iff_compare, compare_of_isNaN (.inr hy)]
  exact nofun

/-- Only numbers are in order. -/
theorem isNaN_of_le {x y : Float} (h : x ≤ y) : x.isNaN = false ∧ y.isNaN = false := by
  rw [le_iff_compare] at h
  constructor
  · refine Bool.eq_false_iff.mpr fun hx => ?_
    rw [compare_of_isNaN (.inl hx)] at h
    exact h.elim nofun nofun
  · refine Bool.eq_false_iff.mpr fun hy => ?_
    rw [compare_of_isNaN (.inr hy)] at h
    exact h.elim nofun nofun

theorem le_self {x : Float} (hx : x.isNaN = false) : x ≤ x := (le_iff_rank hx hx).mpr le_rfl

theorem le_of_not_lt {x y : Float} (hx : x.isNaN = false) (hy : y.isNaN = false) (h : ¬ x < y) :
    y ≤ x := (le_iff_rank hy hx).mpr (not_lt.mp (mt (lt_iff_rank hx hy).mpr h))

theorem lt_of_not_le {x y : Float} (hx : x.isNaN = false) (hy : y.isNaN = false) (h : ¬ x ≤ y) :
    y < x := (lt_iff_rank hy hx).mpr (not_le.mp (mt (le_iff_rank hx hy).mpr h))

/-- A number that is moved inside two bounds lies between them. -/
theorem clamp_between {x low high : Float} (hx : x.isNaN = false) (h : low ≤ high) :
    low ≤ Scalar.clamp x low high ∧ Scalar.clamp x low high ≤ high := by
  obtain ⟨hlow, hhigh⟩ := isNaN_of_le h
  -- Raising comes first, and a number that is raised to the lower bound is not above the upper one.
  have hraised : low ≤ (if x < low then low else x) := by
    split
    · exact le_self hlow
    · next hge => exact le_of_not_lt hx hlow hge
  unfold Scalar.clamp
  generalize (if x < low then low else x) = raised at hraised ⊢
  show low ≤ (if raised > high then high else raised) ∧
    (if raised > high then high else raised) ≤ high
  split
  · exact ⟨h, le_self hhigh⟩
  · next hle => exact ⟨hraised, le_of_not_lt hhigh (isNaN_of_le hraised).2 hle⟩

theorem isNaN_of_lt {x y : Float} (h : x < y) : x.isNaN = false ∧ y.isNaN = false := by
  rw [lt_iff_compare] at h
  exact isNaN_of_le ((le_iff_compare x y).mpr (.inl h))

theorem lt_trans {x y z : Float} (h : x < y) (h' : y < z) : x < z := by
  obtain ⟨hx, hy⟩ := isNaN_of_lt h
  obtain ⟨-, hz⟩ := isNaN_of_lt h'
  rw [lt_iff_rank hx hz]
  exact ((lt_iff_rank hx hy).mp h).trans ((lt_iff_rank hy hz).mp h')

theorem lt_irrefl (x : Float) : ¬ x < x := by
  intro h
  obtain ⟨hx, -⟩ := isNaN_of_lt h
  exact ((lt_iff_rank hx hx).mp h).false

theorem le_of_lt {x y : Float} (h : x < y) : x ≤ y := by
  rw [lt_iff_compare] at h
  exact (le_iff_compare x y).mpr (.inl h)

/-- Nothing lies below the negative infinity. -/
theorem compare_negativeInfinity (a : UnpackedFloat) :
    a.compare (.infinity .negative) ≠ some .lt := by
  rcases a with (_ | _) | _ | _ | ⟨_ | _, m, e, hm⟩ <;>
    simp [UnpackedFloat.compare, compare_sign_self, compare_positive_negative]

/-- Nothing lies above the positive infinity. -/
theorem positiveInfinity_compare (a : UnpackedFloat) :
    UnpackedFloat.compare (.infinity .positive) a ≠ some .lt := by
  rcases a with (_ | _) | _ | _ | ⟨_ | _, m, e, hm⟩ <;>
    simp [UnpackedFloat.compare, compare_sign_self, compare_positive_negative]

/-- What lies properly between two doubles is finite. -/
theorem isFinite_of_between {x y z : Float} (h : x < y) (h' : y < z) : y.isFinite = true := by
  rw [lt_iff_compare] at h h'
  show y.toModel.unpack.isFinite = true
  cases hy : y.toModel.unpack with
  | notANumber =>
    rw [hy, compare_of_isNaN (.inr rfl)] at h
    cases h
  | infinity s =>
    rw [hy] at h h'
    -- There is nothing below one infinity and nothing above the other.
    cases s with
    | negative => exact absurd h (compare_negativeInfinity _)
    | positive => exact absurd h' (positiveInfinity_compare _)
  | zero s => rfl
  | finite s m e hm => rfl

section
variable {s x low high : Float} (hlow : low < s) (hhigh : s < high)
include hlow hhigh

/-- Moving a number inside two bounds does not take it past one that lies properly between them. -/
theorem lt_clamp_iff : s < Scalar.clamp x low high ↔ s < x := by
  unfold Scalar.clamp
  show s < (if (if x < low then low else x) > high then high else (if x < low then low else x)) ↔ _
  by_cases hx : x < low
  · rw [if_pos hx, if_neg fun h => lt_irrefl _ (lt_trans (lt_trans hlow hhigh) h)]
    exact iff_of_false (fun h => lt_irrefl _ (lt_trans hlow h))
      fun h => lt_irrefl _ (lt_trans (lt_trans hlow h) hx)
  · rw [if_neg hx]
    by_cases hx' : x > high
    · rw [if_pos hx']
      exact iff_of_true hhigh (lt_trans hhigh hx')
    · rw [if_neg hx']

theorem clamp_lt_iff : Scalar.clamp x low high < s ↔ x < s := by
  unfold Scalar.clamp
  show (if (if x < low then low else x) > high then high else (if x < low then low else x)) < s ↔ _
  by_cases hx : x < low
  · rw [if_pos hx, if_neg fun h => lt_irrefl _ (lt_trans (lt_trans hlow hhigh) h)]
    exact iff_of_true hlow (lt_trans hx hlow)
  · rw [if_neg hx]
    by_cases hx' : x > high
    · rw [if_pos hx']
      exact iff_of_false (fun h => lt_irrefl _ (lt_trans hhigh h))
        fun h => lt_irrefl _ (lt_trans hhigh (lt_trans hx' h))
    · rw [if_neg hx']

end

theorem rank_eq_bot_iff {x : Float} : rank x = ⊥ ↔ x.isNaN = true := by
  unfold rank
  by_cases hx : x.isNaN = true
  · exact iff_of_true (if_pos hx) hx
  · rw [if_neg hx]
    exact iff_of_false WithBot.coe_ne_bot hx

/-- The greater of two doubles is the one that comes later, also if one is no number. -/
theorem rank_greater (x y : Float) : rank (greater x y) = max (rank x) (rank y) := by
  unfold greater
  by_cases hy : y.isNaN = true
  · rw [if_pos hy, rank_eq_bot_iff.mpr hy, max_eq_left bot_le]
  · rw [if_neg hy]
    have hy : y.isNaN = false := Bool.eq_false_iff.mpr hy
    by_cases hx : x.isNaN = true
    · rw [if_neg (not_lt_of_isNaN hx), rank_eq_bot_iff.mpr hx, max_eq_right bot_le]
    · have hx : x.isNaN = false := Bool.eq_false_iff.mpr hx
      by_cases hlt : y < x
      · rw [if_pos hlt, max_eq_left ((lt_iff_rank hy hx).mp hlt).le]
      · rw [if_neg hlt, max_eq_right (not_lt.mp (mt (lt_iff_rank hy hx).mpr hlt))]

/-- Is it no negative zero? -/
def Plain (x : Float) : Prop := Scalar.plainZero x = x

theorem plain_zero : Plain 0 := by
  unfold Plain
  decide +kernel

/-- A zero without sign is the positive zero. -/
theorem Plain.eq_zero {x : Float} (h : Plain x) {s : Sign} (hx : x.toModel.unpack = .zero s) :
    x = 0.0 := by
  have hsame : (x == 0.0) = true := by
    show (x.toModel.unpack.compare (0.0 : Float).toModel.unpack == some Ordering.eq) = true
    rw [hx]
    cases s <;> decide +kernel
  have hplain : (if (x == 0.0) = true then 0.0 else x) = x := h
  rw [if_pos hsame] at hplain
  exact hplain.symm

/-- Plain doubles of one place are the same. -/
theorem Plain.eq_of_rank_eq {x y : Float} (hx : Plain x) (hy : Plain y) (h : rank x = rank y) :
    x = y := by
  by_cases hxn : x.isNaN = true
  · have hyn : y.isNaN = true := rank_eq_bot_iff.mp (h ▸ rank_eq_bot_iff.mpr hxn)
    exact unpack_injective (eq_of_isNaN hxn hyn)
  · have hyn : y.isNaN = false := by
      have hybot := mt (fun hbot => rank_eq_bot_iff.mp (h.trans hbot)) hxn
      exact Bool.eq_false_iff.mpr (mt rank_eq_bot_iff.mpr hybot)
    have hxn : x.isNaN = false := Bool.eq_false_iff.mpr hxn
    have hplace : place x.toModel.unpack = place y.toModel.unpack := by
      simpa only [rank, hxn, hyn, Bool.false_eq_true, if_false, WithBot.coe_inj] using h
    -- Only the two zeros share a place, and just one of them is plain.
    rcases eq_or_zero_of_place_eq hxn hyn hplace with heq | ⟨s, t, hxz, hyz⟩
    · exact unpack_injective heq
    · rw [hx.eq_zero hxz, hy.eq_zero hyz]

theorem greater_eq_or (x y : Float) : greater x y = x ∨ greater x y = y := by
  unfold greater
  split
  · exact .inl rfl
  · split
    · exact .inl rfl
    · exact .inr rfl

theorem foldl_greater_mem (x : Float) (xs : List Float) : xs.foldl greater x ∈ x :: xs := by
  induction xs generalizing x with
  | nil => exact List.mem_singleton.mpr rfl
  | cons y ys ih =>
    rw [List.foldl_cons]
    rcases List.mem_cons.mp (ih (greater x y)) with heq | hmem
    · rw [heq]
      rcases greater_eq_or x y with hxy | hxy <;> rw [hxy] <;> simp
    · exact List.mem_cons_of_mem x (List.mem_cons_of_mem y hmem)

theorem rank_foldl_greater (x : Float) (xs : List Float) :
    rank (xs.foldl greater x) = (xs.map rank).foldl max (rank x) := by
  induction xs generalizing x with
  | nil => rfl
  | cons y ys ih => rw [List.foldl_cons, ih, rank_greater, List.map_cons, List.foldl_cons]

/-- The greatest of some plain doubles does not depend on the order they are looked at in. -/
theorem foldl_greater_perm {x y : Float} {xs ys : List Float} (hplain : ∀ z ∈ x :: xs, Plain z)
    (h : (x :: xs).Perm (y :: ys)) : xs.foldl greater x = ys.foldl greater y := by
  have hx : Plain (xs.foldl greater x) := hplain _ (foldl_greater_mem x xs)
  have hy : Plain (ys.foldl greater y) := hplain _ (h.mem_iff.mpr (foldl_greater_mem y ys))
  refine hx.eq_of_rank_eq hy ?_
  rw [rank_foldl_greater, rank_foldl_greater]
  have hranks : ((x :: xs).map rank).foldl max ⊥ = ((y :: ys).map rank).foldl max ⊥ :=
    (h.map rank).foldl_eq ⊥
  simpa using hranks

end Double

end MarkerAtlas
