import MarkerAtlas.Json.Writer
import MarkerAtlas.Proofs.Decimal.Binary64
import MarkerAtlas.Proofs.Json.Token
import MarkerAtlas.Proofs.View.CellKey

/-!
# The text of a double

A finite double is written as the shortest decimal that reads back to it, with the point where the
layout wants it. Read as a number again, the text gives the sign and a decimal of the same value,
which no other double has in its interval.

## Shape of the proof

* `Spelling`: the parts of a number's text, as the layout puts them together.
* `numberParts_spelling`: a well-formed spelling is read as its parts.
* `exists_spells_*`: each way the layout writes a decimal is a spelling of that decimal's value.
* `numberParts_real`: the text of a double is read as a decimal in its interval.
-/

namespace MarkerAtlas

/-! ## Digits -/

namespace Text

theorem isDigit_eq (c : Char) : isDigit c = c.isDigit := by
  simp [isDigit, Char.isDigit, Char.le_def]

theorem numeral?_getD {cs : List Char} (h : ∀ c ∈ cs, isDigit c = true) :
    (numeral? cs).getD 0 = Nat.ofDigitChars 10 cs 0 := by
  cases cs with
  | nil => rfl
  | cons c cs =>
    have hdigits : ∀ d ∈ c :: cs, d.isDigit = true := by
      intro d hd
      rw [← isDigit_eq]
      exact h d hd
    show (numeralFrom 0 (c :: cs)).getD 0 = _
    rw [numeralFrom_eq_ofDigitChars hdigits]
    rfl

theorem digits_toDigits (n : Nat) : ∀ c ∈ Nat.toDigits 10 n, isDigit c = true := by
  intro c hc
  rw [isDigit_eq]
  exact isDigit_of_mem_toDigits hc

/-- The digits of a positive number begin with another digit than zero. -/
theorem head_toDigits_ne_zero {n : Nat} (hn : n ≠ 0) : (Nat.toDigits 10 n).head? ≠ some '0' := by
  induction n using Nat.strong_induction_on with
  | _ n ih =>
    rw [Nat.toDigits_eq_if (by decide)]
    by_cases hsmall : n < 10
    · rw [if_pos hsmall]
      have hdigit : ∀ k < 10, k ≠ 0 → Nat.digitChar k ≠ '0' := by decide
      simpa using hdigit n hsmall hn
    · rw [if_neg hsmall, List.head?_append_of_ne_nil _ Nat.toDigits_ne_nil]
      apply ih
      · omega
      · omega

end Text

namespace Json

open Reader
open Decimal (Magnitude)

/-! ## Spellings -/

/-- The text of a number without its sign, in parts: the digits before and behind the point, and
the exponent with its sign. -/
structure Spelling where
  whole : List Char
  fraction : Option (List Char)
  exponent : Option (Bool × List Char)

namespace Spelling

/-- The fraction with its point. -/
def fractionText (s : Spelling) : List Char :=
  match s.fraction with
  | none => []
  | some ds => '.' :: ds

/-- The exponent with its letter and its sign. -/
def exponentText (s : Spelling) : List Char :=
  match s.exponent with
  | none => []
  | some (negative, ds) => 'e' :: (if negative then '-' else '+') :: ds

/-- The text of all parts. -/
def text (s : Spelling) : List Char := s.whole ++ s.fractionText ++ s.exponentText

/-- Can the text be read as a number with these parts? -/
structure WellFormed (s : Spelling) : Prop where
  whole : noWhole s.whole = false
  wholeDigits : ∀ c ∈ s.whole, Text.isDigit c = true
  fraction : ∀ ds, s.fraction = some ds → ds ≠ [] ∧ ∀ c ∈ ds, Text.isDigit c = true
  exponent : ∀ negative ds, s.exponent = some (negative, ds) →
    ds ≠ [] ∧ ∀ c ∈ ds, Text.isDigit c = true

/-- The parts that are read. -/
def parts (negative : Bool) (s : Spelling) : NumberParts where
  negative := negative
  whole := s.whole
  fraction := s.fraction
  exponent := s.exponent.map fun p => exponentValue p.1 p.2

end Spelling

/-- The decimal that the parts of a number write. -/
def numberDecimal (p : NumberParts) : Decimal :=
  ⟨(Text.numeral? (p.whole ++ p.fraction.getD [])).getD 0,
    p.exponent.getD 0 - ((p.fraction.getD []).length : Int)⟩

theorem spanDigits_self {ds : List Char} (h : ∀ c ∈ ds, Text.isDigit c = true) :
    spanDigits ds = (ds, []) := by
  have hend : EndsDigits [] := by rintro c ⟨⟩
  have hspan := spanDigits_append h hend
  rwa [List.append_nil] at hspan

section
variable {s : Spelling} (h : s.WellFormed)
include h

theorem exponentPart_spelling :
    exponentPart s.exponentText = some (s.exponent.map fun p => exponentValue p.1 p.2, []) := by
  unfold Spelling.exponentText
  cases hexponent : s.exponent with
  | none => rfl
  | some p =>
    obtain ⟨negative, ds⟩ := p
    obtain ⟨hne, hds⟩ := h.exponent negative ds hexponent
    have hsign : exponentSign ((if negative then '-' else '+') :: ds) = (negative, ds) := by
      cases negative <;> rfl
    have hempty : ds.isEmpty = false := List.isEmpty_eq_false_iff.mpr hne
    show exponentPart ('e' :: (if negative then '-' else '+') :: ds) = _
    rw [exponentPart_cons, if_pos (.inl rfl), hsign, spanDigits_self hds, hempty]
    rfl

omit h in
theorem endsMantissa_exponentText (s : Spelling) : EndsMantissa s.exponentText := by
  intro c hc
  unfold Spelling.exponentText at hc
  split at hc
  · cases hc
  · obtain rfl : 'e' = c := Option.some.inj hc
    decide

theorem fractionPart_spelling :
    fractionPart (s.fractionText ++ s.exponentText) = some (s.fraction, s.exponentText) := by
  have hends := endsMantissa_exponentText s
  unfold Spelling.fractionText
  cases hfraction : s.fraction with
  | none =>
    show fractionPart s.exponentText = _
    unfold fractionPart
    split
    · -- A point does not end the mantissa.
      next heq =>
        rw [heq] at hends
        exact absurd rfl (hends '.' rfl).2
    · rfl
  | some ds =>
    obtain ⟨hne, hds⟩ := h.fraction ds hfraction
    have hempty : ds.isEmpty = false := List.isEmpty_eq_false_iff.mpr hne
    show fractionPart ('.' :: (ds ++ s.exponentText)) = _
    rw [fractionPart, spanDigits_append hds hends.endsDigits]
    simp only [hempty, Bool.false_eq_true, if_false]

/-- A well-formed text is read as its parts, up to its end. -/
theorem numberParts_spelling (negative : Bool) :
    numberParts ((if negative then ['-'] else []) ++ s.text) = some (s.parts negative, []) := by
  have hwhole : s.whole ≠ [] := by
    intro hnil
    have hnone := h.whole
    rw [hnil] at hnone
    cases hnone
  obtain ⟨c, cs, hcs⟩ := List.exists_cons_of_ne_nil hwhole
  have hc : c ≠ '-' := by
    rintro rfl
    have hdigit := h.wholeDigits '-' (hcs ▸ List.mem_cons_self)
    exact absurd hdigit (by decide)
  -- Without a minus the text begins with a digit, so that no sign is seen.
  have hsign : numberSign ((if negative then ['-'] else []) ++ s.text) = (negative, s.text) := by
    cases negative with
    | true => rfl
    | false =>
      show numberSign s.text = _
      unfold Spelling.text numberSign
      rw [hcs]
      split
      · next heq =>
        cases heq
        exact absurd rfl hc
      · rfl
  -- The digits in front of the point end at the point, or where there is none, where the mantissa
  -- ends.
  have hrest : EndsDigits (s.fractionText ++ s.exponentText) := by
    intro d hd
    unfold Spelling.fractionText at hd
    split at hd
    · exact (endsMantissa_exponentText s).endsDigits d hd
    · obtain rfl : '.' = d := Option.some.inj hd
      decide
  have hspan : spanDigits s.text = (s.whole, s.fractionText ++ s.exponentText) := by
    rw [Spelling.text, List.append_assoc, spanDigits_append h.wholeDigits hrest]
  rw [numberParts_eq, hsign, hspan, if_neg (by rw [h.whole]; decide), fractionPart_spelling h,
    Option.bind_some, exponentPart_spelling h]
  rfl

end

/-! ## The ways a decimal is written -/

/-- The spelling is well formed, has this text, and writes a decimal of this value. -/
structure Spells (s : Spelling) (text : List Char) (d : Decimal) : Prop where
  wellFormed : s.WellFormed
  text : s.text = text
  value : ∀ negative, (numberDecimal (s.parts negative)).value = d.value

theorem noWhole_of_head {cs : List Char} (hne : cs ≠ []) (hhead : cs.head? ≠ some '0') :
    noWhole cs = false := by
  have hempty : cs.isEmpty = false := List.isEmpty_eq_false_iff.mpr hne
  have hzero : (cs.head? == some '0') = false := beq_eq_false_iff_ne.mpr hhead
  rw [noWhole, hempty, hzero]
  rfl

theorem digits_append {cs ds : List Char} (hcs : ∀ c ∈ cs, Text.isDigit c = true)
    (hds : ∀ c ∈ ds, Text.isDigit c = true) : ∀ c ∈ cs ++ ds, Text.isDigit c = true := by
  intro c hc
  rcases List.mem_append.mp hc with hc | hc
  · exact hcs c hc
  · exact hds c hc

theorem digits_zeros (n : Nat) : ∀ c ∈ List.replicate n '0', Text.isDigit c = true := by
  intro c hc
  rw [List.eq_of_mem_replicate hc]
  decide

theorem Spelling.WellFormed.digits {s : Spelling} (h : s.WellFormed) :
    ∀ c ∈ s.whole ++ s.fraction.getD [], Text.isDigit c = true := by
  apply digits_append h.wholeDigits
  cases hfraction : s.fraction with
  | none => exact nofun
  | some ds => exact (h.fraction ds hfraction).2

/-- What a spelling writes, from the number that its digits write and its power of ten. -/
theorem Spells.of_digits {s : Spelling} {text : List Char} {d : Decimal} {n : Nat} {k : Int}
    (hwf : s.WellFormed) (htext : s.text = text)
    (hdigits : Nat.ofDigitChars 10 (s.whole ++ s.fraction.getD []) 0 = n)
    (hpower : (s.exponent.map fun p => exponentValue p.1 p.2).getD 0 -
      ((s.fraction.getD []).length : Int) = k)
    (hvalue : (n : ℚ) * 10 ^ k = d.value) : Spells s text d where
  wellFormed := hwf
  text := htext
  value := by
    intro negative
    -- The sign does not enter into the decimal.
    rw [← hvalue, Decimal.value, numberDecimal]
    show ((Text.numeral? (s.whole ++ s.fraction.getD [])).getD 0 : ℚ) * 10 ^ _ = _
    rw [Text.numeral?_getD hwf.digits, hdigits]
    congr 2

variable {d : Decimal}

/-- A whole number is written with its zeros, and one more behind a point. -/
theorem exists_spells_whole (hd : d.digits = 0 → d.exponent = 0) (hexponent : 0 ≤ d.exponent) :
    ∃ s, Spells s (numberLayout.plain d) d := by
  let s : Spelling :=
    ⟨Nat.toDigits 10 d.digits ++ List.replicate d.exponent.toNat '0', some ['0'], none⟩
  have hwhole : noWhole s.whole = false := by
    by_cases hzero : d.digits = 0
    · show noWhole (Nat.toDigits 10 d.digits ++ List.replicate d.exponent.toNat '0') = false
      rw [hzero, hd hzero, Nat.toDigits_zero]
      rfl
    · apply noWhole_of_head
      · exact List.append_ne_nil_of_left_ne_nil Nat.toDigits_ne_nil _
      · show (Nat.toDigits 10 d.digits ++ List.replicate d.exponent.toNat '0').head? ≠ some '0'
        rw [List.head?_append_of_ne_nil _ Nat.toDigits_ne_nil]
        exact Text.head_toDigits_ne_zero hzero
  have hwf : s.WellFormed := by
    refine ⟨hwhole, digits_append (Text.digits_toDigits _) (digits_zeros _), ?_, nofun⟩
    rintro ds ⟨⟩
    exact ⟨List.cons_ne_nil _ _, digits_zeros 1⟩
  have htext : s.text = numberLayout.plain d := by
    rw [Decimal.Layout.plain, if_pos hexponent]
    simp [s, Spelling.text, Spelling.fractionText, Spelling.exponentText, numberLayout,
      Decimal.digitChars]
  -- The zero behind the point is one digit more, which its place takes away again.
  have hdigits : Nat.ofDigitChars 10 (s.whole ++ s.fraction.getD []) 0 =
      10 ^ (d.exponent.toNat + 1) * d.digits := by
    show Nat.ofDigitChars 10 (_ ++ _ ++ List.replicate 1 '0') 0 = _
    rw [List.append_assoc, ← List.replicate_add, Nat.ofDigitChars_append,
      Nat.ofDigitChars_toDigits (by decide) (by decide), Nat.ofDigitChars_replicate_zero]
  refine ⟨s, .of_digits hwf htext hdigits rfl ?_⟩
  have hpower : (10 : ℚ) ^ d.exponent = 10 ^ d.exponent.toNat := by
    rw [← zpow_natCast, Int.toNat_of_nonneg hexponent]
  show ((10 ^ (d.exponent.toNat + 1) * d.digits : Nat) : ℚ) * 10 ^ (-1 : Int) = d.value
  rw [Decimal.value, hpower, zpow_neg_one]
  push_cast
  ring

/-- The digits are cut by the point where the exponent says. -/
theorem exists_spells_cut (hd : d.digits ≠ 0) (hexponent : d.exponent < 0)
    (hplaces : (-d.exponent).toNat < d.digitChars.length) :
    ∃ s, Spells s (numberLayout.plain d) d := by
  let places := d.digitChars.length - (-d.exponent).toNat
  let s : Spelling := ⟨d.digitChars.take places, some (d.digitChars.drop places), none⟩
  have hall : ∀ c ∈ d.digitChars, Text.isDigit c = true := Text.digits_toDigits _
  have hne : d.digitChars ≠ [] := Nat.toDigits_ne_nil
  -- Some digit is left in front of the point, and the first one is no zero.
  have hwhole : noWhole (d.digitChars.take places) = false := by
    apply noWhole_of_head
    · rw [Ne, List.take_eq_nil_iff]
      exact not_or.mpr ⟨by omega, hne⟩
    · rw [List.head?_take, if_neg (by omega)]
      exact Text.head_toDigits_ne_zero hd
  have hwf : s.WellFormed := by
    refine ⟨hwhole, fun c hc => hall c (List.mem_of_mem_take hc), ?_, nofun⟩
    rintro ds ⟨⟩
    refine ⟨?_, fun c hc => hall c (List.mem_of_mem_drop hc)⟩
    rw [Ne, List.drop_eq_nil_iff]
    omega
  have htext : s.text = numberLayout.plain d := by
    rw [Decimal.Layout.plain, if_neg (by omega), if_pos hplaces]
    simp [s, places, Spelling.text, Spelling.fractionText, Spelling.exponentText]
  have hdigits : Nat.ofDigitChars 10 (s.whole ++ s.fraction.getD []) 0 = d.digits := by
    show Nat.ofDigitChars 10 (d.digitChars.take places ++ d.digitChars.drop places) 0 = _
    rw [List.take_append_drop]
    exact Nat.ofDigitChars_toDigits (by decide) (by decide)
  refine ⟨s, .of_digits (k := d.exponent) hwf htext hdigits ?_ rfl⟩
  show 0 - ((d.digitChars.drop places).length : Int) = d.exponent
  rw [List.length_drop]
  omega

/-- The digits stand behind a point, with zeros in between. -/
theorem exists_spells_behind (hexponent : d.exponent < 0)
    (hplaces : ¬ (-d.exponent).toNat < d.digitChars.length) :
    ∃ s, Spells s (numberLayout.plain d) d := by
  let zeros := List.replicate ((-d.exponent).toNat - d.digitChars.length) '0'
  let s : Spelling := ⟨['0'], some (zeros ++ d.digitChars), none⟩
  have hwf : s.WellFormed := by
    refine ⟨rfl, digits_zeros 1, ?_, nofun⟩
    rintro ds ⟨⟩
    exact ⟨List.append_ne_nil_of_right_ne_nil _ Nat.toDigits_ne_nil,
      digits_append (digits_zeros _) (Text.digits_toDigits _)⟩
  have htext : s.text = numberLayout.plain d := by
    rw [Decimal.Layout.plain, if_neg (by omega), if_neg hplaces]
    simp [s, zeros, Spelling.text, Spelling.fractionText, Spelling.exponentText]
  -- The zeros in front of the digits do not change the number that they write.
  have hdigits : Nat.ofDigitChars 10 (s.whole ++ s.fraction.getD []) 0 = d.digits := by
    show Nat.ofDigitChars 10 (List.replicate 1 '0' ++ (zeros ++ d.digitChars)) 0 = _
    rw [← List.append_assoc, ← List.replicate_add, Nat.ofDigitChars_append,
      Nat.ofDigitChars_replicate_zero]
    exact Nat.ofDigitChars_toDigits (by decide) (by decide)
  refine ⟨s, .of_digits (k := d.exponent) hwf htext hdigits ?_ rfl⟩
  show 0 - ((zeros ++ d.digitChars).length : Int) = d.exponent
  rw [List.length_append, List.length_replicate]
  omega

theorem exponentValue_toDigits (e : Int) :
    exponentValue (decide (e < 0)) (Nat.toDigits 10 e.natAbs) = e := by
  rw [exponentValue, Text.numeral?_toDigits, Option.getD_some]
  by_cases he : e < 0
  · rw [decide_eq_true he, if_pos rfl]
    omega
  · rw [decide_eq_false he, if_neg Bool.false_ne_true]
    omega

/-- One digit stands before the point, and the others and the exponent behind. A single digit has
no point behind it. -/
theorem exists_spells_scientific (hd : d.digits ≠ 0) :
    ∃ s, Spells s (numberLayout.scientific d) d := by
  let e : Int := d.exponent + (d.digitChars.length : Int) - 1
  have hne : d.digitChars ≠ [] := Nat.toDigits_ne_nil
  obtain ⟨c, cs, hds⟩ := List.exists_cons_of_ne_nil hne
  let s : Spelling :=
    ⟨[c], if cs = [] then none else some cs, some (decide (e < 0), Nat.toDigits 10 e.natAbs)⟩
  have hfraction : s.fraction.getD [] = cs := by
    show (if cs = [] then none else some cs).getD [] = cs
    split
    · next hnil => exact hnil.symm
    · rfl
  have hwf : s.WellFormed := by
    have hall : ∀ a ∈ c :: cs, Text.isDigit a = true := hds ▸ Text.digits_toDigits d.digits
    have hhead : ([c] : List Char).head? ≠ some '0' := by
      have hfirst : d.digitChars.head? ≠ some '0' := Text.head_toDigits_ne_zero hd
      rwa [hds] at hfirst
    refine ⟨noWhole_of_head (List.cons_ne_nil _ _) hhead, ?_, ?_, ?_⟩
    · exact List.forall_mem_singleton.mpr (hall c List.mem_cons_self)
    · intro ds hsome
      obtain ⟨hcs, rfl⟩ : cs ≠ [] ∧ cs = ds := by simpa [s] using hsome
      exact ⟨hcs, fun a ha => hall a (List.mem_cons_of_mem c ha)⟩
    · rintro negative ds ⟨⟩
      exact ⟨Nat.toDigits_ne_nil, Text.digits_toDigits _⟩
  have htext : s.text = numberLayout.scientific d := by
    have hsign : (if e < 0 then ['-'] else ['+']) = [if decide (e < 0) then '-' else '+'] := by
      by_cases hneg : e < 0 <;> simp [hneg]
    show _ = _ ++ 'e' :: (if e < 0 then ['-'] else ['+']) ++ Nat.toDigits 10 e.natAbs
    rw [hsign, hds]
    cases cs <;> simp [s, Spelling.text, Spelling.fractionText, Spelling.exponentText]
  have hdigits : Nat.ofDigitChars 10 (s.whole ++ s.fraction.getD []) 0 = d.digits := by
    rw [hfraction]
    show Nat.ofDigitChars 10 (c :: cs) 0 = d.digits
    rw [← hds]
    exact Nat.ofDigitChars_toDigits (by decide) (by decide)
  -- Each digit behind the point takes one from the exponent, which was raised by as many.
  refine ⟨s, .of_digits (k := d.exponent) hwf htext hdigits ?_ rfl⟩
  rw [hfraction]
  show exponentValue (decide (e < 0)) (Nat.toDigits 10 e.natAbs) - (cs.length : Int) = d.exponent
  rw [exponentValue_toDigits]
  simp only [e, hds, List.length_cons]
  omega

/-! ## Doubles -/

open Decimal (signBit)

theorem exists_spells_magnitude (x : Magnitude) :
    ∃ s, Spells s (numberLayout.magnitude x) (x.shortest numberLayout.tie) := by
  have hzero : (x.shortest numberLayout.tie).digits = 0 →
      (x.shortest numberLayout.tie).exponent = 0 := Magnitude.exponent_shortest_of_digits
  unfold Decimal.Layout.magnitude
  generalize x.shortest numberLayout.tie = d at hzero
  simp only
  by_cases hplain : d.digits = 0 ∨
      numberLayout.positional (d.exponent + (d.digitChars.length : Int) - 1) = true
  · rw [if_pos hplain]
    -- Without an exponent the point stands behind, among or in front of the digits.
    rcases le_or_gt 0 d.exponent with hwhole | hfraction
    · exact exists_spells_whole hzero hwhole
    · have hdigits : d.digits ≠ 0 := by
        intro hnone
        rw [hzero hnone] at hfraction
        exact absurd hfraction (lt_irrefl 0)
      by_cases hplaces : (-d.exponent).toNat < d.digitChars.length
      · exact exists_spells_cut hdigits hfraction hplaces
      · exact exists_spells_behind hfraction hplaces
  · rw [if_neg hplain]
    exact exists_spells_scientific (not_or.mp hplain).1

/-- The text of a finite double is read as its sign and a decimal that only it has in its
interval, whatever follows that is no part of a number. -/
theorem numberParts_real {x : Float} (hx : x.isFinite = true) :
    ∃ p c u, numberText (.real x) = c :: u ∧ (c = '-' ∨ Text.isDigit c = true) ∧
      (∀ rest, EndsNumber rest → numberParts (numberText (.real x) ++ rest) = some (p, rest)) ∧
      p.negative = signBit x ∧ (Magnitude.ofBits x.toBits).Holds (numberDecimal p).value := by
  obtain ⟨s, hs⟩ := exists_spells_magnitude (Magnitude.ofBits x.toBits)
  have htext : numberText (.real x) = (if signBit x then ['-'] else []) ++ s.text := by
    rw [numberText, if_pos hx, Decimal.Layout.finite, hs.text]
    split <;> rfl
  have hread : numberParts (numberText (.real x)) = some (s.parts (signBit x), []) := by
    rw [htext]
    exact numberParts_spelling hs.wellFormed _
  -- What is read up to its end is read in front of other texts too.
  obtain ⟨c, u, hcu, hc, hrest⟩ := numberParts_again hread
  rw [List.append_nil] at hcu
  refine ⟨s.parts (signBit x), c, u, hcu, hc, ?_, rfl, ?_⟩
  · rw [hcu]
    exact hrest
  · rw [hs.value]
    exact Magnitude.holds_shortest _ _

end Json

end MarkerAtlas
