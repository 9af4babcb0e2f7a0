import MarkerAtlas.Json.Reader
import Mathlib.Data.List.TakeDrop
import Mathlib.Data.List.TakeWhile

/-!
# Tokens are read again

What is read as a blank, a number, a word or a string is read as the same one before any other
text. Only a number has to end where it ended: no digit, point or exponent may follow it.
-/

namespace MarkerAtlas.Json.Reader

/-! ## Blanks -/

theorem skipBlanks_append {b : List Char} (hb : skipBlanks b = []) (cs : List Char) :
    skipBlanks (b ++ cs) = skipBlanks cs := by
  induction b with
  | nil => rfl
  | cons c b ih =>
    rw [skipBlanks] at hb
    split at hb
    · rw [List.cons_append, skipBlanks, if_pos ‹_›, ih hb]
    · cases hb

/-- A token after blanks is found before any other text as well. -/
theorem skipBlanks_eq_cons {cs rest : List Char} {c : Char} (h : skipBlanks cs = c :: rest) :
    ∃ b, cs = b ++ c :: rest ∧ skipBlanks b = [] ∧
      ∀ rest', skipBlanks (c :: rest') = c :: rest' := by
  induction cs with
  | nil => cases h
  | cons a cs ih =>
    rw [skipBlanks] at h
    split at h
    · obtain ⟨b, rfl, hb, hc⟩ := ih h
      exact ⟨a :: b, rfl, by rw [skipBlanks, if_pos ‹_›, hb], hc⟩
    · obtain ⟨rfl, rfl⟩ := List.cons.inj h
      exact ⟨[], rfl, rfl, fun rest' => by rw [skipBlanks, if_neg ‹_›]⟩

/-! ## Numbers -/

/-- No digit stands here. -/
def EndsDigits (cs : List Char) : Prop := ∀ c ∈ cs.head?, Text.isDigit c = false

/-- Neither a digit nor a point stands here. -/
def EndsMantissa (cs : List Char) : Prop := ∀ c ∈ cs.head?, Text.isDigit c = false ∧ c ≠ '.'

/-- No number goes on here. -/
def EndsNumber (cs : List Char) : Prop :=
  ∀ c ∈ cs.head?, (Text.isDigit c = false ∧ c ≠ '.') ∧ c ≠ 'e' ∧ c ≠ 'E'

theorem EndsMantissa.endsDigits {cs : List Char} (h : EndsMantissa cs) : EndsDigits cs :=
  fun c hc => (h c hc).1

theorem EndsNumber.endsMantissa {cs : List Char} (h : EndsNumber cs) : EndsMantissa cs :=
  fun c hc => (h c hc).1

theorem endsNumber_append {b rest : List Char} (hb : skipBlanks b = []) (hrest : EndsNumber rest) :
    EndsNumber (b ++ rest) := by
  cases b with
  | nil => exact hrest
  | cons c b =>
    rw [skipBlanks] at hb
    split at hb
    · rename_i hc
      rintro _ ⟨⟩
      rcases hc with rfl | rfl | rfl | rfl <;> decide
    · cases hb

/-- A run of digits is read up to the first character that is no digit. -/
theorem spanDigits_append {ds rest : List Char} (hds : ∀ c ∈ ds, Text.isDigit c = true)
    (hrest : EndsDigits rest) : spanDigits (ds ++ rest) = (ds, rest) := by
  rw [spanDigits, List.span_eq_takeWhile_dropWhile, List.takeWhile_append_of_pos hds,
    List.dropWhile_append_of_pos hds]
  cases rest with
  | nil => rw [List.takeWhile_nil, List.dropWhile_nil, List.append_nil]
  | cons c rest =>
    have hc : ¬ Text.isDigit c = true := by rw [hrest c rfl]; decide
    rw [List.takeWhile_cons_of_neg hc, List.dropWhile_cons_of_neg hc, List.append_nil]

theorem spanDigits_eq {cs ds rest : List Char} (h : spanDigits cs = (ds, rest)) :
    cs = ds ++ rest ∧ ∀ c ∈ ds, Text.isDigit c = true := by
  rw [spanDigits, List.span_eq_takeWhile_dropWhile] at h
  obtain ⟨rfl, rfl⟩ := Prod.mk.inj h
  exact ⟨List.takeWhile_append_dropWhile.symm, fun c hc => List.mem_takeWhile_imp hc⟩

theorem fractionPart_again {cs rest : List Char} {f : Option (List Char)}
    (h : fractionPart cs = some (f, rest)) :
    ∃ u, cs = u ++ rest ∧ ∀ rest', EndsMantissa rest' →
      fractionPart (u ++ rest') = some (f, rest') ∧ EndsDigits (u ++ rest') := by
  unfold fractionPart at h
  split at h
  · rename_i cs
    cases hspan : spanDigits cs with
    | mk ds r =>
      rw [hspan] at h
      obtain ⟨rfl, hds⟩ := spanDigits_eq hspan
      simp only at h
      split at h
      · cases h
      · rename_i hne
        obtain ⟨rfl, rfl⟩ := Prod.mk.inj (Option.some.inj h)
        -- The point itself is no digit, so that the digits in front of it end there.
        refine ⟨'.' :: ds, rfl, fun rest' hrest' => ⟨?_, by rintro _ ⟨⟩; decide⟩⟩
        simp only [fractionPart, List.cons_append, spanDigits_append hds hrest'.endsDigits,
          if_neg hne]
  · rename_i hpoint
    obtain ⟨rfl, rfl⟩ := Prod.mk.inj (Option.some.inj h)
    refine ⟨[], rfl, fun rest' hrest' => ⟨?_, hrest'.endsDigits⟩⟩
    show fractionPart rest' = some (none, rest')
    unfold fractionPart
    split
    · -- A point would not have ended the mantissa.
      obtain ⟨-, hne⟩ := hrest' '.' rfl
      exact absurd rfl hne
    · rfl

/-- The sign in front of the digits of an exponent. -/
def exponentSign : List Char → Bool × List Char
  | '-' :: cs => (true, cs)
  | '+' :: cs => (false, cs)
  | cs => (false, cs)

theorem exponentPart_cons (c : Char) (cs : List Char) :
    exponentPart (c :: cs) = if c = 'e' ∨ c = 'E' then
        if (spanDigits (exponentSign cs).2).1.isEmpty then none
        else some (some (exponentValue (exponentSign cs).1 (spanDigits (exponentSign cs).2).1),
          (spanDigits (exponentSign cs).2).2)
      else some (none, c :: cs) := rfl

theorem exponentSign_again {cs ds rest : List Char} {negative : Bool} (hne : ds ≠ [])
    (hds : ∀ c ∈ ds, Text.isDigit c = true) (h : exponentSign cs = (negative, ds ++ rest)) :
    ∃ u, cs = u ++ (ds ++ rest) ∧
      ∀ rest', exponentSign (u ++ (ds ++ rest')) = (negative, ds ++ rest') := by
  unfold exponentSign at h
  split at h
  · obtain ⟨rfl, rfl⟩ := Prod.mk.inj h
    exact ⟨['-'], rfl, fun _ => rfl⟩
  · obtain ⟨rfl, rfl⟩ := Prod.mk.inj h
    exact ⟨['+'], rfl, fun _ => rfl⟩
  · obtain ⟨rfl, rfl⟩ := Prod.mk.inj h
    refine ⟨[], rfl, fun rest' => ?_⟩
    -- The first digit is no sign, whatever follows the digits.
    obtain ⟨d, ds, rfl⟩ := List.exists_cons_of_ne_nil hne
    have hd := hds d List.mem_cons_self
    rw [List.nil_append, List.cons_append]
    unfold exponentSign
    split
    · rename_i heq
      cases heq
      exact absurd hd (by decide)
    · rename_i heq
      cases heq
      exact absurd hd (by decide)
    · rfl

theorem EndsNumber.exponentPart_eq {rest : List Char} (h : EndsNumber rest) :
    exponentPart rest = some (none, rest) := by
  cases rest with
  | nil => rfl
  | cons c rest =>
    obtain ⟨-, he, hE⟩ := h c rfl
    rw [exponentPart_cons, if_neg (not_or.mpr ⟨he, hE⟩)]

theorem exponentPart_again {cs rest : List Char} {e : Option Int}
    (h : exponentPart cs = some (e, rest)) :
    ∃ u, cs = u ++ rest ∧ ∀ rest', EndsNumber rest' →
      exponentPart (u ++ rest') = some (e, rest') ∧ EndsMantissa (u ++ rest') := by
  cases cs with
  | nil =>
    obtain ⟨rfl, rfl⟩ := Prod.mk.inj (Option.some.inj h)
    exact ⟨[], rfl, fun rest' hrest' => ⟨hrest'.exponentPart_eq, hrest'.endsMantissa⟩⟩
  | cons c cs =>
    rw [exponentPart_cons] at h
    split at h
    · rename_i hc
      -- The sign and then the digits, of which there is at least one.
      cases hsign : exponentSign cs with
      | mk negative digits =>
        cases hspan : spanDigits digits with
        | mk ds r =>
          obtain ⟨rfl, hds⟩ := spanDigits_eq hspan
          simp only [hsign, hspan] at h
          split at h
          · cases h
          · rename_i hempty
            obtain ⟨rfl, rfl⟩ := Prod.mk.inj (Option.some.inj h)
            have hne : ds ≠ [] := fun hnil => hempty (by rw [hnil]; rfl)
            obtain ⟨u, rfl, hu⟩ := exponentSign_again hne hds hsign
            refine ⟨c :: (u ++ ds), by rw [List.cons_append, List.append_assoc],
              fun rest' hrest' => ⟨?_, ?_⟩⟩
            · rw [List.cons_append, List.append_assoc, exponentPart_cons, if_pos hc, hu,
                spanDigits_append hds hrest'.endsMantissa.endsDigits, if_neg hempty]
            · rintro _ ⟨⟩
              rcases hc with rfl | rfl <;> decide
    · obtain ⟨rfl, rfl⟩ := Prod.mk.inj (Option.some.inj h)
      exact ⟨[], rfl, fun rest' hrest' => ⟨hrest'.exponentPart_eq, hrest'.endsMantissa⟩⟩

/-- The sign in front of a number. -/
def numberSign : List Char → Bool × List Char
  | '-' :: cs => (true, cs)
  | cs => (false, cs)

/-- Digits that no number begins with: none at all, or a needless zero in front. -/
def noWhole (ds : List Char) : Bool := ds.isEmpty || (ds.head? == some '0' && ds.length > 1)

/-- The parts of a number whose sign was read. -/
def partsBehindSign (negative : Bool) (digits : List Char) : Option (NumberParts × List Char) := do
  let (whole, rest) := spanDigits digits
  if whole.isEmpty || (whole.head? == some '0' && whole.length > 1) then none
  let (fraction, rest) ← fractionPart rest
  let (exponent, rest) ← exponentPart rest
  some (⟨negative, whole, fraction, exponent⟩, rest)

theorem partsBehindSign_eq (negative : Bool) (digits : List Char) :
    partsBehindSign negative digits = if noWhole (spanDigits digits).1 then none
      else (fractionPart (spanDigits digits).2).bind fun f =>
        (exponentPart f.2).map fun e => (⟨negative, (spanDigits digits).1, f.1, e.1⟩, e.2) := by
  unfold partsBehindSign
  obtain ⟨whole, rest⟩ := spanDigits digits
  show (if noWhole whole then _ else _) = if noWhole whole then _ else _
  split
  · rfl
  · cases fractionPart rest with
    | none => rfl
    | some f =>
      show (exponentPart f.2).bind _ = (exponentPart f.2).map _
      cases exponentPart f.2 <;> rfl

theorem numberParts_eq (cs : List Char) :
    numberParts cs = if noWhole (spanDigits (numberSign cs).2).1 then none
      else (fractionPart (spanDigits (numberSign cs).2).2).bind fun f =>
        (exponentPart f.2).map fun e =>
          (⟨(numberSign cs).1, (spanDigits (numberSign cs).2).1, f.1, e.1⟩, e.2) :=
  partsBehindSign_eq (numberSign cs).1 (numberSign cs).2

theorem numberSign_again {cs ds rest : List Char} {negative : Bool} (hne : ds ≠ [])
    (hds : ∀ c ∈ ds, Text.isDigit c = true) (h : numberSign cs = (negative, ds ++ rest)) :
    ∃ c u, cs = c :: u ++ rest ∧ (c = '-' ∨ Text.isDigit c = true) ∧
      ∀ rest', numberSign (c :: u ++ rest') = (negative, ds ++ rest') := by
  unfold numberSign at h
  split at h
  · obtain ⟨rfl, rfl⟩ := Prod.mk.inj h
    exact ⟨'-', ds, rfl, .inl rfl, fun _ => rfl⟩
  · obtain ⟨rfl, rfl⟩ := Prod.mk.inj h
    obtain ⟨d, ds, rfl⟩ := List.exists_cons_of_ne_nil hne
    have hd := hds d List.mem_cons_self
    -- A digit is no minus, whatever follows.
    refine ⟨d, ds, rfl, .inr hd, fun rest' => ?_⟩
    unfold numberSign
    split
    · rename_i heq
      cases heq
      exact absurd hd (by decide)
    · rfl

theorem numberParts_again {cs rest : List Char} {p : NumberParts}
    (h : numberParts cs = some (p, rest)) :
    ∃ c u, cs = c :: u ++ rest ∧ (c = '-' ∨ Text.isDigit c = true) ∧
      ∀ rest', EndsNumber rest' → numberParts (c :: u ++ rest') = some (p, rest') := by
  rw [numberParts_eq] at h
  cases hsign : numberSign cs with
  | mk negative digits =>
    cases hspan : spanDigits digits with
    | mk ds r =>
      obtain ⟨rfl, hds⟩ := spanDigits_eq hspan
      simp only [hsign, hspan] at h
      split at h
      · cases h
      · rename_i hwhole
        obtain ⟨⟨f, r₁⟩, hf, h⟩ := Option.bind_eq_some_iff.mp h
        obtain ⟨⟨e, r₂⟩, he, h⟩ := Option.map_eq_some_iff.mp h
        obtain ⟨rfl, rfl⟩ := Prod.mk.inj h
        obtain ⟨uf, rfl, hf'⟩ := fractionPart_again hf
        obtain ⟨ue, rfl, he'⟩ := exponentPart_again he
        -- There is a digit in front of the point; it tells that what stands before it is the sign.
        have hne : ds ≠ [] := by
          rintro rfl
          exact hwhole rfl
        obtain ⟨c, u, rfl, hc, hu⟩ := numberSign_again hne hds hsign
        refine ⟨c, u ++ (uf ++ ue), by simp only [List.cons_append, List.append_assoc], hc,
          fun rest' hrest' => ?_⟩
        -- From the end on, each part is read again in front of the one behind it.
        obtain ⟨hexponent, hmantissa⟩ := he' rest' hrest'
        obtain ⟨hfraction, hdigits⟩ := hf' _ hmantissa
        have hsign' : numberSign (c :: (u ++ (uf ++ ue)) ++ rest') =
            (negative, ds ++ (uf ++ (ue ++ rest'))) := by
          rw [← hu]
          simp only [List.cons_append, List.append_assoc]
        rw [numberParts_eq, hsign', spanDigits_append hds hdigits, if_neg hwhole, hfraction,
          Option.bind_some, hexponent]
        rfl

theorem number_again {cs rest : List Char} {d : Draft} (h : number cs = ⟨d, some rest⟩) :
    ∃ c u, cs = c :: u ++ rest ∧ (c = '-' ∨ Text.isDigit c = true) ∧
      ∀ rest', EndsNumber rest' → number (c :: u ++ rest') = ⟨d, some rest'⟩ := by
  unfold number at h
  split at h
  · rename_i p r hparts
    obtain ⟨rfl, hrest⟩ := Step.mk.inj h
    obtain rfl := Option.some.inj hrest
    obtain ⟨c, u, hcs, hc, hu⟩ := numberParts_again hparts
    exact ⟨c, u, hcs, hc, fun rest' hrest' => by rw [number, hu rest' hrest']⟩
  · cases h

/-! ## Words and strings -/

theorem word_again {w cs rest : List Char} {d d' : Draft} (h : word w d cs = ⟨d', some rest⟩) :
    cs = w ++ rest ∧ ∀ rest', word w d (w ++ rest') = ⟨d', some rest'⟩ := by
  have hprefix : ∀ rest', word w d (w ++ rest') = ⟨d, some rest'⟩ := fun rest' => by
    rw [word, if_pos (List.isPrefixOf_iff_prefix.mpr (List.prefix_append w rest')), List.drop_left]
  unfold word at h
  split at h
  · rename_i hw
    obtain ⟨rest₁, rfl⟩ := List.isPrefixOf_iff_prefix.mp hw
    obtain ⟨rfl, hrest⟩ := Step.mk.inj h
    rw [List.drop_left] at hrest
    exact ⟨congrArg _ (Option.some.inj hrest), hprefix⟩
  · cases h

/-- A closing quote is no part of an escaped character, so that nothing behind it is looked at. -/
theorem unit?_append (cs rest : List Char) :
    unit? (cs ++ '"' :: rest) = (unit? cs).map fun p => (p.1, p.2 ++ '"' :: rest) := by
  have hquote : Text.hexValue? '"' = none := by decide
  -- Short of four characters the quote is looked at, and it is no digit.
  rcases cs with _ | ⟨a, _ | ⟨b, _ | ⟨c, _ | ⟨d, cs⟩⟩⟩⟩
  · rcases rest with _ | ⟨_, _ | ⟨_, _ | ⟨_, _⟩⟩⟩ <;> simp [unit?, hquote]
  · rcases rest with _ | ⟨_, _ | ⟨_, _⟩⟩ <;> simp [unit?, hquote]
  · rcases rest with _ | ⟨_, _⟩ <;> simp [unit?, hquote]
  · simp [unit?, hquote]
  · -- Four characters come before the quote, and the same four are looked at either way.
    simp only [List.cons_append, unit?]
    rcases Text.hexValue? a with _ | i
    · rfl
    rcases Text.hexValue? b with _ | j
    · rfl
    rcases Text.hexValue? c with _ | k
    · rfl
    rcases Text.hexValue? d with _ | l <;> rfl

theorem trailing?_append (cs rest : List Char) :
    trailing? (cs ++ '"' :: rest) = (trailing? cs).map fun p => (p.1, p.2 ++ '"' :: rest) := by
  unfold trailing?
  split
  · rename_i cs' heq
    -- The escape is there with its two characters, so that only the four digits can reach the
    -- quote.
    rcases cs with _ | ⟨a, _ | ⟨b, cs⟩⟩ <;> cases heq
    show (unit? (cs ++ '"' :: rest)).filter _ = ((unit? cs).filter _).map _
    rw [unit?_append]
    cases unit? cs with
    | none => rfl
    | some p =>
      simp only [Option.map_some, Option.filter_some]
      split <;> rfl
  · rename_i hcs
    split
    · exact absurd rfl (hcs _)
    · rfl

theorem unit?_eq_some {cs rest : List Char} {n : Nat} (h : unit? cs = some (n, rest)) :
    ∃ u, cs = u ++ rest ∧ ∀ rest', unit? (u ++ rest') = some (n, rest') := by
  unfold unit? at h
  split at h
  · rename_i a b c d cs
    simp only [Option.bind_eq_bind, Option.bind_eq_some_iff] at h
    obtain ⟨a', ha, b', hb, c', hc, d', hd, h⟩ := h
    obtain ⟨rfl, rfl⟩ := Prod.mk.inj (Option.some.inj h)
    exact ⟨[a, b, c, d], rfl, fun rest' => by
      simp only [unit?, List.cons_append, List.nil_append, ha, hb, hc, hd, Option.bind_eq_bind,
        Option.bind_some]⟩
  · cases h

theorem trailing?_eq_some {cs rest : List Char} {n : Nat} (h : trailing? cs = some (n, rest)) :
    ∃ u, cs = u ++ rest ∧ ∀ rest', trailing? (u ++ rest') = some (n, rest') := by
  unfold trailing? at h
  split at h
  · obtain ⟨hunit, hn⟩ := Option.filter_eq_some_iff.mp h
    obtain ⟨u, rfl, hu⟩ := unit?_eq_some hunit
    exact ⟨'\\' :: 'u' :: u, rfl, fun rest' => Option.filter_eq_some_iff.mpr ⟨hu rest', hn⟩⟩
  · cases h

/-- The character of a unit, which takes the unit behind it along if both are a surrogate pair. -/
def unitChar (n : Nat) (rest : List Char) : Option Char × List Char :=
  if isLeading n then
    match trailing? rest with
    | some (t, rest) => (some (Char.ofNat (0x10000 + (n - 0xD800) * 0x400 + (t - 0xDC00))), rest)
    | none => (none, rest)
  else if isTrailing n then (none, rest)
  else (some (Char.ofNat n), rest)

theorem unitChar_again {n : Nat} {cs w rest : List Char} {c : Option Char}
    (h : unitChar n cs = (c, w ++ '"' :: rest)) :
    ∃ u, cs = u ++ (w ++ '"' :: rest) ∧
      ∀ rest', unitChar n (u ++ (w ++ '"' :: rest')) = (c, w ++ '"' :: rest') := by
  by_cases hleading : isLeading n = true
  · simp only [unitChar, if_pos hleading] at h ⊢
    split at h
    · rename_i ht
      obtain ⟨rfl, rfl⟩ := Prod.mk.inj h
      obtain ⟨u, rfl, hu⟩ := trailing?_eq_some ht
      exact ⟨u, rfl, fun rest' => by rw [hu]⟩
    · rename_i ht
      -- No second unit was found in front of the closing quote, and behind it none is looked for.
      obtain ⟨rfl, rfl⟩ := Prod.mk.inj h
      rw [trailing?_append, Option.map_eq_none_iff] at ht
      refine ⟨[], rfl, fun rest' => ?_⟩
      rw [List.nil_append, trailing?_append, ht]
      rfl
  · -- Without a second unit nothing that follows is looked at.
    have hn : ∃ c', ∀ cs, unitChar n cs = (c', cs) := by
      simp only [unitChar, if_neg hleading]
      split
      · exact ⟨_, fun _ => rfl⟩
      · exact ⟨_, fun _ => rfl⟩
    obtain ⟨c', hn⟩ := hn
    rw [hn] at h
    obtain ⟨rfl, rfl⟩ := Prod.mk.inj h
    exact ⟨[], rfl, fun rest' => hn _⟩

theorem stringChar?_unit (cs : List Char) :
    stringChar? ('\\' :: 'u' :: cs) = (unit? cs).map fun p => unitChar p.1 p.2 := by
  rw [stringChar?]
  cases unit? cs with
  | none => rfl
  | some p =>
    show (if _ then _ else _) = some (unitChar p.1 p.2)
    unfold unitChar
    split
    · cases trailing? p.2 <;> rfl
    · split <;> rfl

theorem stringChar?_escape {c : Char} (hc : c ≠ 'u') (cs : List Char) :
    stringChar? ('\\' :: c :: cs) = (escaped? c).map fun e => (some e, cs) := by
  unfold stringChar?
  split
  · rename_i heq
    cases heq
    exact absurd rfl hc
  · rename_i heq
    cases heq
    rfl
  · rename_i h heq
    cases heq
    exact (h _ _ rfl rfl).elim
  · rename_i heq
    cases heq

theorem stringChar?_plain {c : Char} (hc : c ≠ '\\') (cs : List Char) :
    stringChar? (c :: cs) = if c.toNat < 0x20 then none else some (some c, cs) := by
  unfold stringChar?
  split
  · rename_i heq
    cases heq
    exact absurd rfl hc
  · rename_i heq
    cases heq
    exact absurd rfl hc
  · rename_i heq
    cases heq
    simp only [hc, or_false]
  · rename_i heq
    cases heq

theorem stringChar?_again {cs w rest : List Char} {c : Option Char}
    (h : stringChar? cs = some (c, w ++ '"' :: rest)) :
    ∃ a u, cs = a :: u ++ (w ++ '"' :: rest) ∧
      ∀ rest', stringChar? (a :: u ++ (w ++ '"' :: rest')) = some (c, w ++ '"' :: rest') := by
  match cs with
  | [] => cases h
  | a :: cs =>
    -- A character is plain, escaped by a letter, or written as a unit, to which a second one may
    -- belong.
    by_cases ha : a = '\\'
    · subst ha
      match cs with
      | [] => cases h
      | b :: cs =>
        by_cases hb : b = 'u'
        · subst hb
          rw [stringChar?_unit] at h
          obtain ⟨⟨n, r⟩, hn, hchar⟩ := Option.map_eq_some_iff.mp h
          obtain ⟨u, rfl, hu⟩ := unit?_eq_some hn
          obtain ⟨v, rfl, hv⟩ := unitChar_again hchar
          refine ⟨'\\', 'u' :: (u ++ v), by simp only [List.cons_append, List.append_assoc],
            fun rest' => ?_⟩
          rw [List.cons_append, List.cons_append, stringChar?_unit, List.append_assoc, hu,
            Option.map_some, hv]
        · rw [stringChar?_escape hb] at h
          obtain ⟨e, he, h⟩ := Option.map_eq_some_iff.mp h
          obtain ⟨rfl, rfl⟩ := Prod.mk.inj h
          refine ⟨'\\', [b], rfl, fun rest' => ?_⟩
          rw [List.cons_append, List.cons_append, stringChar?_escape hb, he]
          rfl
    · rw [stringChar?_plain ha] at h
      split at h
      · cases h
      · rename_i hcontrol
        obtain ⟨rfl, rfl⟩ := Prod.mk.inj (Option.some.inj h)
        refine ⟨a, [], rfl, fun rest' => ?_⟩
        rw [List.cons_append, stringChar?_plain ha, if_neg hcontrol]
        rfl

theorem stringFrom_char (n : Nat) (before : Option (List Char)) {a : Char} (ha : a ≠ '"')
    (cs : List Char) : stringFrom (n + 1) before (a :: cs) =
      (stringChar? (a :: cs)).bind fun p =>
        stringFrom n (before.bind fun b => p.1.map (· :: b)) p.2 := by
  rw [stringFrom]
  · cases stringChar? (a :: cs) <;> rfl
  · rintro rest ⟨⟩
    exact ha rfl

/-- A string is read up to its closing quote, by every supply of steps that reaches it. -/
theorem stringFrom_again {n : Nat} {before r : Option (List Char)} {cs rest : List Char}
    (h : stringFrom n before cs = some (r, rest)) :
    ∃ w, cs = w ++ '"' :: rest ∧ ∀ m rest', w.length < m →
      stringFrom m before (w ++ '"' :: rest') = some (r, rest') := by
  -- By induction on the steps. Any supply that is longer than the text does for it, since each step
  -- takes a character.
  induction n generalizing before cs with
  | zero => cases h
  | succ n ih =>
    match cs with
    | [] => cases h
    | a :: cs =>
      by_cases ha : a = '"'
      · subst ha
        obtain ⟨rfl, rfl⟩ := Prod.mk.inj (Option.some.inj h)
        refine ⟨[], rfl, fun m rest' hm => ?_⟩
        obtain ⟨m, rfl⟩ := Nat.exists_eq_succ_of_ne_zero (Nat.ne_of_gt hm)
        rfl
      · rw [stringFrom_char n before ha] at h
        obtain ⟨⟨c, cs₁⟩, hc, h⟩ := Option.bind_eq_some_iff.mp h
        obtain ⟨w, rfl, hw⟩ := ih h
        obtain ⟨a', u, hcs, hu⟩ := stringChar?_again hc
        rw [List.cons_append] at hcs
        obtain ⟨rfl, rfl⟩ := List.cons.inj hcs
        refine ⟨a :: (u ++ w), by rw [List.cons_append, List.append_assoc], fun m rest' hm => ?_⟩
        obtain ⟨m, rfl⟩ := Nat.exists_eq_succ_of_ne_zero (Nat.ne_of_gt (Nat.zero_lt_of_lt hm))
        rw [List.length_cons, List.length_append] at hm
        rw [List.cons_append, List.append_assoc, stringFrom_char m before ha, ← List.cons_append,
          hu, Option.bind_some]
        exact hw m rest' (by omega)

theorem string?_again {s : Option String} {cs rest : List Char} (h : string? cs = some (s, rest)) :
    ∃ w, cs = w ++ '"' :: rest ∧ ∀ rest', string? (w ++ '"' :: rest') = some (s, rest') := by
  obtain ⟨⟨r, rest₁⟩, hr, h⟩ := Option.map_eq_some_iff.mp h
  obtain ⟨rfl, rfl⟩ := Prod.mk.inj h
  obtain ⟨w, rfl, hw⟩ := stringFrom_again hr
  refine ⟨w, rfl, fun rest' => ?_⟩
  have hlength : w.length < (w ++ '"' :: rest').length + 1 := by
    rw [List.length_append]
    omega
  rw [string?, hw _ rest' hlength, Option.map_some]

theorem string_again {d : Draft} {cs rest : List Char} (h : string cs = ⟨d, some rest⟩) :
    ∃ w, cs = w ++ '"' :: rest ∧ ∀ rest', string (w ++ '"' :: rest') = ⟨d, some rest'⟩ := by
  unfold string at h
  split at h
  · rename_i hs
    obtain ⟨rfl, hrest⟩ := Step.mk.inj h
    obtain rfl := Option.some.inj hrest
    obtain ⟨w, rfl, hw⟩ := string?_again hs
    exact ⟨w, rfl, fun rest' => by rw [string, hw]⟩
  · rename_i hs
    obtain ⟨rfl, hrest⟩ := Step.mk.inj h
    obtain rfl := Option.some.inj hrest
    obtain ⟨w, rfl, hw⟩ := string?_again hs
    exact ⟨w, rfl, fun rest' => by rw [string, hw]⟩
  · cases h

end MarkerAtlas.Json.Reader
