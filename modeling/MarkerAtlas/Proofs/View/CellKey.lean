import MarkerAtlas.Proofs.Text.Blank
import MarkerAtlas.View.Cluster

/-!
# Cell keys as text

The text of a cell's key is read back as the key, so that different cells have different texts.
-/

namespace MarkerAtlas

/-! ## Integers in text -/

namespace Text

theorem numeralFrom_eq_ofDigitChars {cs : List Char} (h : ∀ c ∈ cs, c.isDigit = true) (acc : Nat) :
    numeralFrom acc cs = some (Nat.ofDigitChars 10 cs acc) := by
  induction cs generalizing acc with
  | nil => rfl
  | cons c cs ih =>
    have hvalue : digitValue? c = some (c.toNat - '0'.toNat) := by
      have hc : c.isDigit = true := h c List.mem_cons_self
      simp only [Char.isDigit, Bool.and_eq_true, decide_eq_true_eq] at hc
      exact if_pos ⟨hc.1, hc.2⟩
    rw [numeralFrom, hvalue, Option.bind_some, ih fun d hd => h d (List.mem_cons_of_mem c hd)]
    rfl

theorem isDigit_of_mem_toDigits {n : Nat} {c : Char} (h : c ∈ Nat.toDigits 10 n) :
    c.isDigit = true := Nat.isDigit_of_mem_toDigits (by decide) (by decide) h

theorem numeral?_toDigits (n : Nat) : numeral? (Nat.toDigits 10 n) = some n := by
  have hfrom := numeralFrom_eq_ofDigitChars (fun c hc => isDigit_of_mem_toDigits (n := n) hc) 0
  rw [Nat.ofDigitChars_toDigits (by decide) (by decide)] at hfrom
  cases hdigits : Nat.toDigits 10 n with
  | nil => exact absurd hdigits Nat.toDigits_ne_nil
  | cons c cs =>
    rw [hdigits] at hfrom
    exact hfrom

/-- The text of an integer: its digits, after a minus sign if it is negative. -/
theorem toList_toString (n : Int) : (toString n).toList =
    match n with
    | .ofNat m => Nat.toDigits 10 m
    | .negSucc m => '-' :: Nat.toDigits 10 (m + 1) := by
  cases n with
  | ofNat m => exact Nat.toList_repr
  | negSucc m =>
    show ("-" ++ (m + 1).repr).toList = _
    rw [String.toList_append, Nat.toList_repr]
    rfl

theorem digit_or_minus_of_mem {n : Int} {c : Char} (h : c ∈ (toString n).toList) :
    c.isDigit = true ∨ c = '-' := by
  rw [toList_toString] at h
  cases n with
  | ofNat m => exact .inl (isDigit_of_mem_toDigits h)
  | negSucc m =>
    rcases List.mem_cons.mp h with rfl | hc
    · exact .inr rfl
    · exact .inl (isDigit_of_mem_toDigits hc)

theorem integer?_toString (n : Int) : integer? (toString n).toList = some n := by
  rw [toList_toString]
  cases n with
  | ofNat m =>
    -- A digit is no sign, so that the digits are read as they stand.
    have hread := numeral?_toDigits m
    have hdigit := fun c hc => isDigit_of_mem_toDigits (n := m) (c := c) hc
    show integer? (Nat.toDigits 10 m) = some (m : Int)
    generalize Nat.toDigits 10 m = cs at hread hdigit
    unfold integer?
    split
    · exact absurd (hdigit '-' List.mem_cons_self) (by decide)
    · exact absurd (hdigit '+' List.mem_cons_self) (by decide)
    · rw [hread]
      rfl
  | negSucc m =>
    show (numeral? (Nat.toDigits 10 (m + 1))).map (fun k => -(k : Int)) = some (.negSucc m)
    rw [numeral?_toDigits]
    rfl

theorem int64?_toString (n : Int64) : int64? (toString n.toInt).toList = some n := by
  have hlow : Int64.minValue.toInt ≤ n.toInt := n.minValue_le_toInt
  have hhigh : n.toInt ≤ Int64.maxValue.toInt := n.toInt_le
  have hwithin : (decide (Int64.minValue.toInt ≤ n.toInt) &&
      decide (n.toInt ≤ Int64.maxValue.toInt)) = true := by
    rw [decide_eq_true hlow, decide_eq_true hhigh]
    rfl
  rw [int64?, integerWithin?, integer?_toString, Option.filter_some, if_pos hwithin,
    Option.map_some, Int64.ofInt_toInt]

theorem isBlank_of_isDigit {c : Char} (h : c.isDigit = true) : isBlank c = false := by
  have hrange : 48 ≤ c.toNat ∧ c.toNat ≤ 57 := by
    simpa [Char.isDigit, Char.le_def, UInt32.le_iff_toNat_le] using h
  exact isBlank_of_visible (by omega)

theorem trimChars_toString (n : Int) : trimChars (toString n).toList = (toString n).toList := by
  have hblank : ∀ c ∈ (toString n).toList, isBlank c = false := by
    intro c hc
    rcases digit_or_minus_of_mem hc with hdigit | rfl
    · exact isBlank_of_isDigit hdigit
    · decide
  exact (trimmed_of_isBlank_eq_false hblank).trimChars_eq

end Text

/-! ## Keys -/

namespace CellKey

theorem ofText?_render (k : CellKey) : ofText? k.render = some k := by
  have hcolumn : ∀ c ∈ (toString k.column.toInt).toList, decide (c ≠ ':') = true := by
    intro c hc
    rcases Text.digit_or_minus_of_mem hc with hdigit | rfl
    · exact decide_eq_true fun heq => by rw [heq] at hdigit; cases hdigit
    · decide
  unfold ofText? render
  simp only [String.toList_ofList]
  rw [List.takeWhile_append_of_pos hcolumn, List.dropWhile_append_of_pos hcolumn]
  simp only [List.takeWhile_cons, List.dropWhile_cons, ne_eq, not_true, decide_false,
    Bool.false_eq_true, if_false, List.append_nil, Text.trimChars_toString, Text.int64?_toString]

theorem render_injective : Function.Injective render := by
  intro k k' h
  have hread := congrArg ofText? h
  rw [ofText?_render, ofText?_render] at hread
  exact Option.some.inj hread

end CellKey

end MarkerAtlas
