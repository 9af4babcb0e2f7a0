import MarkerAtlas.Json.Writer
import MarkerAtlas.Proofs.Json.Token

/-!
# The text of a string

A string is written with a backslash before what cannot stand in it as it is. Read again, the text
gives the string, and what follows its closing quote is left.
-/

namespace MarkerAtlas.Json

open Reader

/-! ## Characters -/

theorem hexValue?_digitChar {n : Nat} (hn : n < 16) :
    Text.hexValue? (Nat.digitChar n) = some n := by
  have hall : ∀ k < 16, Text.hexValue? (Nat.digitChar k) = some k := by decide
  exact hall n hn

/-- A control character is written by its number. -/
theorem unit?_controlDigits {n : Nat} (hn : n < 32) (cs : List Char) :
    unit? (controlDigits n ++ cs) = some (n, cs) := by
  have hhigh := hexValue?_digitChar (n := n / 16) (by omega)
  have hlow := hexValue?_digitChar (n := n % 16) (by omega)
  have hzero : Text.hexValue? '0' = some 0 := rfl
  show unit? ('0' :: '0' :: Nat.digitChar (n / 16) :: Nat.digitChar (n % 16) :: cs) = _
  simp only [unit?, hhigh, hlow, hzero, Option.bind_eq_bind, Option.bind_some, Option.some.injEq,
    Prod.mk.injEq, and_true]
  omega

/-- How a character is written, in three ways. -/
theorem escapeChar_cases (c : Char) :
    (∃ e, e ≠ 'u' ∧ escaped? e = some c ∧ escapeChar c = ['\\', e]) ∨
      (c.toNat < 0x20 ∧ escapeChar c = '\\' :: 'u' :: controlDigits c.toNat) ∨
      (c ≠ '"' ∧ c ≠ '\\' ∧ ¬ c.toNat < 0x20 ∧ escapeChar c = [c]) := by
  unfold escapeChar
  split
  · exact .inl ⟨'"', by decide, rfl, rfl⟩
  · exact .inl ⟨'\\', by decide, rfl, rfl⟩
  · exact .inl ⟨'n', by decide, rfl, rfl⟩
  · exact .inl ⟨'r', by decide, rfl, rfl⟩
  · exact .inl ⟨'t', by decide, rfl, rfl⟩
  · exact .inl ⟨'b', by decide, rfl, rfl⟩
  · exact .inl ⟨'f', by decide, rfl, rfl⟩
  · next hquote hbackslash _ _ _ _ _ =>
    split
    · next hcontrol => exact .inr (.inl ⟨hcontrol, rfl⟩)
    · next hplain => exact .inr (.inr ⟨hquote, hbackslash, hplain, rfl⟩)

/-- A written character does not look like the closing quote, and is read as the character. -/
theorem exists_escapeChar_eq (c : Char) : ∃ a cs, escapeChar c = a :: cs ∧ a ≠ '"' ∧
    ∀ rest, stringChar? (a :: cs ++ rest) = some (some c, rest) := by
  rcases escapeChar_cases c with
    ⟨e, hu, he, htext⟩ | ⟨hcontrol, htext⟩ | ⟨hquote, hb, hplain, htext⟩
  · refine ⟨'\\', [e], htext, by decide, ?_⟩
    intro rest
    show stringChar? ('\\' :: e :: rest) = _
    rw [stringChar?_escape hu, he]
    rfl
  · refine ⟨'\\', 'u' :: controlDigits c.toNat, htext, by decide, ?_⟩
    intro rest
    have hleading : isLeading c.toNat = false := by simp [isLeading]; omega
    have htrailing : isTrailing c.toNat = false := by simp [isTrailing]; omega
    show stringChar? ('\\' :: 'u' :: (controlDigits c.toNat ++ rest)) = _
    rw [stringChar?_unit, unit?_controlDigits hcontrol, Option.map_some, unitChar, hleading,
      htrailing, Char.ofNat_toNat]
    rfl
  · refine ⟨c, [], htext, hquote, ?_⟩
    intro rest
    show stringChar? (c :: rest) = _
    rw [stringChar?_plain hb, if_neg hplain]

/-! ## Strings -/

theorem stringFrom_text (cs before rest : List Char) {fuel : Nat} (hfuel : cs.length < fuel) :
    stringFrom fuel (some before) (cs.flatMap escapeChar ++ '"' :: rest) =
      some (some (before.reverse ++ cs), rest) := by
  induction cs generalizing before fuel with
  | nil =>
    obtain ⟨fuel, rfl⟩ := Nat.exists_eq_succ_of_ne_zero (Nat.ne_of_gt hfuel)
    rw [List.append_nil]
    rfl
  | cons c cs ih =>
    obtain ⟨fuel, rfl⟩ := Nat.exists_eq_succ_of_ne_zero (Nat.ne_of_gt (Nat.zero_lt_of_lt hfuel))
    obtain ⟨a, as, hc, ha, hread⟩ := exists_escapeChar_eq c
    rw [List.flatMap_cons, hc, List.append_assoc, List.cons_append, stringFrom_char fuel _ ha,
      ← List.cons_append, hread, Option.bind_some]
    -- What is read so far is held last first.
    show stringFrom fuel (some (c :: before)) _ = _
    rw [ih (c :: before) (Nat.lt_of_succ_lt_succ hfuel), List.reverse_cons, List.append_assoc]
    rfl

theorem length_le_length_flatMap (cs : List Char) :
    cs.length ≤ (cs.flatMap escapeChar).length := by
  induction cs with
  | nil => exact Nat.le_refl 0
  | cons c cs ih =>
    obtain ⟨a, as, hc, -, -⟩ := exists_escapeChar_eq c
    rw [List.flatMap_cons, hc, List.cons_append, List.length_cons, List.length_cons,
      List.length_append]
    omega

/-- The text of a string is read as the string, whatever follows it. -/
theorem string?_text (s : String) (rest : List Char) :
    string? (s.toList.flatMap escapeChar ++ '"' :: rest) = some (some s, rest) := by
  have hfuel : s.toList.length < (s.toList.flatMap escapeChar ++ '"' :: rest).length + 1 := by
    have hlength := length_le_length_flatMap s.toList
    rw [List.length_append]
    omega
  rw [string?, stringFrom_text _ _ _ hfuel, Option.map_some]
  show some (some (String.ofList s.toList), rest) = _
  rw [String.ofList_toList]

end MarkerAtlas.Json
