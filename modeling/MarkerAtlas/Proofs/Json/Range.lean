import MarkerAtlas.Database.Import
import MarkerAtlas.Proofs.Json.Reader
import MarkerAtlas.Proofs.Json.Value
import MarkerAtlas.Proofs.Scalar.Rounding

/-!
# The numbers of JSON

A JSON value cannot hold every whole number or double: whole numbers have 64 bits, with or without
sign, and doubles are finite. Each of them is a finite double to those who ask for one, and no text
is read as a value with other numbers.

* `InRange.memberFloat?`: the coordinates of a row are finite.
* `inRange_of_parse?`: what a text is read as has its numbers in range. The invariant is kept by
  every reader (`ReadsInRange`), and by the step from drafts to values.
-/

namespace MarkerAtlas

/-- Is it a number that a JSON value can hold? -/
def JsonNumber.InRange : JsonNumber → Prop
  | .whole n => Int64.minValue.toInt ≤ n ∧ n < UInt64.size
  | .real x => x.isFinite = true

theorem JsonNumber.InRange.isFinite {n : JsonNumber} (h : n.InRange) :
    n.toFloat.isFinite = true := by
  cases n with
  | whole n =>
    have hleast : Int64.minValue.toInt = -2 ^ 63 := rfl
    have hsize : UInt64.size = 2 ^ 64 := rfl
    obtain ⟨hlow, hhigh⟩ := h
    exact Double.isFinite_ofInt (by omega)
  | real x => exact h

namespace Json

/-- Are all its numbers such as a JSON value can hold? -/
inductive InRange : Json → Prop where
  | null : InRange .null
  | bool (b : Bool) : InRange (.bool b)
  | num {n : JsonNumber} (hn : n.InRange) : InRange (.num n)
  | str (s : String) : InRange (.str s)
  | arr {items : List Json} (hitems : ∀ j ∈ items, InRange j) : InRange (.arr items)
  | obj {members : List (String × Json)} (hmembers : ∀ m ∈ members, InRange m.2) :
    InRange (.obj members)

theorem InRange.member? {row j : Json} {name : String} (h : row.InRange)
    (hj : row.member? name = some j) : j.InRange := by
  cases h with
  | obj hmembers =>
    obtain ⟨m, hm, rfl⟩ := Option.map_eq_some_iff.mp hj
    exact hmembers m (List.mem_of_find?_eq_some hm)
  | _ => cases hj

/-- The coordinates of a row are finite. -/
theorem InRange.memberFloat? {row : Json} {name : String} {x : Float} (h : row.InRange)
    (hx : row.memberFloat? name = some x) : x.isFinite = true := by
  obtain ⟨j, hj, hfloat⟩ := Option.bind_eq_some_iff.mp hx
  cases h.member? hj with
  | num hn =>
    obtain rfl := Option.some.inj hfloat
    exact hn.isFinite
  | _ => cases hfloat

theorem inRange_object {ms : List (String × Json)} (h : ∀ m ∈ ms, m.2.InRange) :
    (object ms).InRange := .obj fun m hm => h m (mem_of_mem_object rfl hm)

end Json

/-! ## Values that are read -/

/-- Are all numbers of the draft such as a JSON value can hold? -/
inductive Draft.InRange : Draft → Prop where
  | null : InRange .null
  | bool (b : Bool) : InRange (.bool b)
  | num {n : JsonNumber} (hn : n.InRange) : InRange (.num n)
  | str (s : String) : InRange (.str s)
  | arr {items : List Draft} (hitems : ∀ d ∈ items, InRange d) : InRange (.arr items)
  | obj {members : List (Option String × Draft)} (hmembers : ∀ m ∈ members, InRange m.2) :
    InRange (.obj members)
  | unreadable : InRange .unreadable
  | broken : InRange .broken

namespace Json

mutual

theorem inRange_of_value : ∀ {d : Draft} {j : Json}, d.InRange → d.value = .ok j → j.InRange
  | .null, _, _, h => Except.ok.inj h ▸ .null
  | .bool b, _, _, h => Except.ok.inj h ▸ .bool b
  | .num _, _, .num hn, h => Except.ok.inj h ▸ .num hn
  | .str s, _, _, h => Except.ok.inj h ▸ .str s
  -- Lists and objects by their parts, which are smaller.
  | .arr ds, _, .arr hds, h => by
    rw [Draft.value] at h
    obtain ⟨items, hitems, rfl⟩ := map_eq_ok.mp h
    exact .arr (inRange_of_values hds hitems)
  | .obj ms, _, .obj hms, h => by
    rw [Draft.value] at h
    obtain ⟨members, hmembers, rfl⟩ := map_eq_ok.mp h
    exact inRange_object (inRange_of_memberValues hms hmembers)
  | .unreadable, _, _, h => nomatch h
  | .broken, _, _, h => nomatch h

theorem inRange_of_values : ∀ {ds : List Draft} {items : List Json},
    (∀ d ∈ ds, d.InRange) → Draft.values ds = .ok items → ∀ j ∈ items, j.InRange
  | [], _, _, h => by
    rw [← Except.ok.inj h]
    exact nofun
  | d :: ds, _, hds, h => by
    obtain ⟨hd, hds⟩ := List.forall_mem_cons.mp hds
    obtain ⟨j, js, hj, hjs, rfl⟩ := values_cons_eq_ok.mp h
    exact List.forall_mem_cons.mpr ⟨inRange_of_value hd hj, inRange_of_values hds hjs⟩

theorem inRange_of_memberValues : ∀ {ms : List (Option String × Draft)}
    {members : List (String × Json)}, (∀ m ∈ ms, m.2.InRange) →
    Draft.memberValues ms = .ok members → ∀ m ∈ members, m.2.InRange
  | [], _, _, h => by
    rw [← Except.ok.inj h]
    exact nofun
  | (none, _) :: _, _, _, h => nomatch h
  | (some name, d) :: ms, _, hms, h => by
    obtain ⟨hd, hms⟩ := List.forall_mem_cons.mp hms
    obtain ⟨j, js, hj, hjs, rfl⟩ := memberValues_cons_eq_ok.mp h
    exact List.forall_mem_cons.mpr ⟨inRange_of_value hd hj, inRange_of_memberValues hms hjs⟩

end

namespace Reader

/-- A number that does not fit 64 bits is read as a double, and one beyond every double as none. -/
theorem inRange_numberValue (p : NumberParts) : p.value.InRange := by
  obtain ⟨negative, whole, fraction, exponent⟩ := p
  unfold NumberParts.value
  simp only
  generalize (Text.numeral? (whole ++ fraction.getD [])).getD 0 = n
  generalize Decimal.toFloat _ _ = size
  have hleast : Int64.minValue.toInt = -2 ^ 63 := rfl
  have hsize : UInt64.size = 2 ^ 64 := rfl
  -- A double is only given where the size, and so the number with its sign, is finite.
  have hreal : ∀ x : Float, (size.isFinite = true → x.isFinite = true) →
      (if size.isFinite = true then .num (.real x) else .unreadable : Draft).InRange := by
    intro x hx
    split
    · next hfinite => exact .num (hx hfinite)
    · exact .unreadable
  cases negative with
  | false =>
    simp only [Bool.false_eq_true, if_false, Bool.and_eq_true, decide_eq_true_eq]
    -- A number without a fraction fits 64 bits or is taken as a double.
    split
    · next hfits => exact .num ⟨by omega, by omega⟩
    · exact hreal size id
  | true =>
    simp only [if_true, Bool.and_eq_true, decide_eq_true_eq]
    split
    · next hfits => exact .num ⟨by omega, by omega⟩
    · exact hreal (-size) Double.isFinite_neg

theorem inRange_number (cs : List Char) : (number cs).result.InRange := by
  unfold number
  split
  · exact inRange_numberValue _
  · exact .broken

theorem inRange_string (cs : List Char) : (string cs).result.InRange := by
  unfold string
  split
  · exact .str _
  · exact .unreadable
  · exact .broken

theorem inRange_word {w : List Char} {d : Draft} (hd : d.InRange) (cs : List Char) :
    (word w d cs).result.InRange := by
  unfold word
  split
  · exact hd
  · exact .broken

theorem inRange_bracketed {depth : Nat} {d : Draft} (hd : d.InRange) (rest : Option (List Char)) :
    (bracketed depth d rest).result.InRange := by
  unfold bracketed
  split
  · exact .unreadable
  · exact hd

section
variable {β : Type} {P : β → Prop} {next rest : List Char → Step (List β)}

theorem forall_mem_listed {close : Char} {bad : List β} (hbad : ∀ b ∈ bad, P b)
    (hnext : ∀ cs, ∀ b ∈ (next cs).result, P b) (first : Bool) (cs : List Char) :
    ∀ b ∈ (listed close bad next first cs).result, P b := by
  unfold listed
  cases skipBlanks cs with
  | nil =>
    rw [listedHere]
    split
    · exact hnext []
    · exact hbad
  | cons c cs =>
    rw [listedHere_cons]
    -- It closes, begins at once, goes on behind a comma, or is broken.
    split
    · exact nofun
    · split
      · exact hnext _
      · split
        · exact hnext _
        · exact hbad

theorem forall_mem_thenRest {f : Draft → β} {value : List Char → Step Draft}
    (hvalue : ∀ cs, P (f (value cs).result)) (hrest : ∀ cs, ∀ b ∈ (rest cs).result, P b)
    (cs : List Char) : ∀ b ∈ (thenRest f value rest cs).result, P b := by
  unfold thenRest
  split
  · exact List.forall_mem_singleton.mpr (hvalue cs)
  · exact List.forall_mem_cons.mpr ⟨hvalue cs, hrest _⟩

end

/-- What the readers read with a supply of steps has its numbers in range. -/
structure ReadsInRange (n : Nat) : Prop where
  value : ∀ depth cs, (value n depth cs).result.InRange
  items : ∀ depth first cs, ∀ d ∈ (items n depth first cs).result, d.InRange
  item : ∀ depth cs, ∀ d ∈ (item n depth cs).result, d.InRange
  members : ∀ depth first cs, ∀ m ∈ (members n depth first cs).result, m.2.InRange
  member : ∀ depth cs, ∀ m ∈ (member n depth cs).result, m.2.InRange

theorem ReadsInRange.valueHere {n : Nat} (h : ReadsInRange n) (depth : Nat) (cs : List Char) :
    (valueHere n depth cs).result.InRange := by
  unfold Reader.valueHere
  split
  · exact inRange_bracketed (.arr (h.items _ _ _)) _
  · exact inRange_bracketed (.obj (h.members _ _ _)) _
  · exact inRange_string _
  · exact inRange_word .null _
  · exact inRange_word (.bool true) _
  · exact inRange_word (.bool false) _
  · exact inRange_number _

theorem ReadsInRange.memberHere {n : Nat} (h : ReadsInRange n) (depth : Nat) (cs : List Char) :
    ∀ m ∈ (Reader.member (n + 1) depth cs).result, m.2.InRange := by
  have hbroken : ∀ name, ∀ m ∈ [((name, .broken) : Option String × Draft)], m.2.InRange :=
    fun _ => List.forall_mem_singleton.mpr .broken
  unfold Reader.member
  split
  · split
    · next name rest hname =>
      split
      · exact forall_mem_thenRest (f := fun d => (name, d)) (h.value depth)
          (h.members depth false) _
      · exact hbroken _
    · exact hbroken _
  · exact hbroken _

theorem readsInRange (n : Nat) : ReadsInRange n := by
  have hbroken : ∀ d ∈ [Draft.broken], d.InRange := List.forall_mem_singleton.mpr .broken
  have hmember : ∀ m ∈ [((none, .broken) : Option String × Draft)], m.2.InRange :=
    List.forall_mem_singleton.mpr .broken
  -- The readers call one another with a step less, so all of them are dealt with at once.
  induction n with
  | zero =>
    refine ⟨fun depth cs => ?_, fun depth first cs => ?_, fun depth cs => ?_,
      fun depth first cs => ?_, fun depth cs => ?_⟩
    · rw [value]
      exact .broken
    · rw [items]
      exact hbroken
    · rw [item]
      exact hbroken
    · rw [members]
      exact hmember
    · rw [member]
      exact hmember
  | succ n ih =>
    refine ⟨fun depth cs => ?_, fun depth first cs => ?_, fun depth cs => ?_,
      fun depth first cs => ?_, ih.memberHere⟩
    · rw [value_succ]
      exact ih.valueHere depth _
    · rw [items_succ]
      exact forall_mem_listed hbroken (ih.item depth) first cs
    · rw [item_succ]
      exact forall_mem_thenRest (f := id) (ih.value depth) (ih.items depth false) cs
    · rw [members_succ]
      exact forall_mem_listed hmember (ih.member depth) first cs

end Reader

/-- A text is read as a value whose numbers are all in range, or as none. -/
theorem inRange_of_parse? {text : String} {j : Json} (h : parse? text = some j) : j.InRange := by
  unfold parse? at h
  simp only at h
  split at h
  · next v _ hvalue =>
    obtain rfl := Option.some.inj h
    exact inRange_of_value ((Reader.readsInRange _).value 0 _) hvalue
  · cases h

end Json

end MarkerAtlas
