import MarkerAtlas.Proofs.Database.Search

/-!
# What patterns match

The rules of the `LIKE` operator as a relation between a pattern and a text, character by character.
The matcher of the database follows these rules on what it reads of the two, unless the pattern is
too large. By the rules the pattern that contains a text matches the texts in which it stands, up to
the case of ASCII letters: whatever percent signs, underscores and backslashes are in it, and in
whatever order, each of them stands for itself.
-/

namespace MarkerAtlas.Pattern

/-! ## The rules -/

/-- The text matches the pattern: a percent sign takes any characters, an underscore takes any one,
the character behind a backslash takes itself, and so does every other character, where the case of
ASCII letters does not matter. -/
inductive Matches : (pattern text : List Char) → Prop
  | nil : Matches [] []
  | anyText {pattern text : List Char} (skipped : List Char) (h : Matches pattern text) :
    Matches ('%' :: pattern) (skipped ++ text)
  | anyChar {pattern text : List Char} (c : Char) (h : Matches pattern text) :
    Matches ('_' :: pattern) (c :: text)
  | escaped {pattern text : List Char} {p c : Char} (hfold : fold p = fold c)
    (h : Matches pattern text) : Matches (escape :: p :: pattern) (c :: text)
  | char {pattern text : List Char} {p c : Char} (hplain : ¬ (p = '\\' ∨ p = '%' ∨ p = '_'))
    (hfold : fold p = fold c) (h : Matches pattern text) : Matches (p :: pattern) (c :: text)

theorem items?_underscore (cs : List Char) :
    items? ('_' :: cs) = (items? cs).map (.anyChar :: ·) := by
  cases cs <;> rfl

/-- What matches by the rules matches the items of the pattern. -/
theorem Matches.itemsMatch {pattern text : List Char} (h : Matches pattern text) :
    ∃ items, items? pattern = some items ∧ itemsMatch items text = true := by
  -- One rule at a time: each reads one item of the pattern.
  induction h with
  | nil => exact ⟨[], rfl, rfl⟩
  | anyText skipped h ih =>
    obtain ⟨items, hitems, hmatch⟩ := ih
    refine ⟨.anyText :: items, by rw [items?_percent, hitems, Option.map_some], ?_⟩
    exact anyEnd_iff.mpr ⟨_, List.suffix_append skipped _, hmatch⟩
  | anyChar c h ih =>
    obtain ⟨items, hitems, hmatch⟩ := ih
    exact ⟨.anyChar :: items, by rw [items?_underscore, hitems, Option.map_some], hmatch⟩
  | escaped hfold h ih =>
    obtain ⟨items, hitems, hmatch⟩ := ih
    refine ⟨.char _ :: items, by rw [items?_escape, hitems, Option.map_some], ?_⟩
    rw [Pattern.itemsMatch, hfold, beq_self_eq_true, Bool.true_and, hmatch]
  | char hplain hfold h ih =>
    obtain ⟨items, hitems, hmatch⟩ := ih
    refine ⟨.char _ :: items, by rw [items?_char hplain, hitems, Option.map_some], ?_⟩
    rw [Pattern.itemsMatch, hfold, beq_self_eq_true, Bool.true_and, hmatch]

/-- A text that matches a character and what follows begins with the character. -/
theorem exists_of_itemsMatch_char {p : Char} {items : List PatternItem} {text : List Char}
    (h : itemsMatch (.char p :: items) text = true) :
    ∃ c rest, text = c :: rest ∧ fold p = fold c ∧ itemsMatch items rest = true := by
  cases text with
  | nil => cases h
  | cons c rest =>
    rw [itemsMatch, Bool.and_eq_true, beq_iff_eq] at h
    exact ⟨c, rest, rfl, h⟩

/-- What matches the items of a pattern matches it by the rules. -/
theorem matches_of_itemsMatch {pattern text : List Char} {items : List PatternItem}
    (hitems : items? pattern = some items) (hmatch : itemsMatch items text = true) :
    Matches pattern text := by
  -- Induction along the pattern, which a backslash shortens by two characters.
  induction pattern using items?.induct generalizing items text with
  | case1 =>
    obtain rfl : [] = items := Option.some.inj hitems
    obtain rfl : text = [] := List.isEmpty_iff.mp hmatch
    exact .nil
  | case2 => cases hitems
  | case3 d ds ih =>
    rw [items?_escape] at hitems
    obtain ⟨rest, hrest, rfl⟩ := Option.map_eq_some_iff.mp hitems
    obtain ⟨c, text, rfl, hfold, hmatch⟩ := exists_of_itemsMatch_char hmatch
    exact .escaped hfold (ih hrest hmatch)
  | case4 cs hne ih =>
    rw [items?_percent] at hitems
    obtain ⟨rest, hrest, rfl⟩ := Option.map_eq_some_iff.mp hitems
    obtain ⟨e, ⟨skipped, rfl⟩, hend⟩ := anyEnd_iff.mp hmatch
    exact .anyText skipped (ih hrest hend)
  | case5 cs hne hne' ih =>
    rw [items?_underscore] at hitems
    obtain ⟨rest, hrest, rfl⟩ := Option.map_eq_some_iff.mp hitems
    cases text with
    | nil => cases hmatch
    | cons c text => exact .anyChar c (ih hrest hmatch)
  | case6 p cs hescape hpercent hunderscore ih =>
    have hplain : ¬ (p = '\\' ∨ p = '%' ∨ p = '_') := by
      rintro (heq | heq | heq)
      · exact hescape heq
      · exact hpercent heq
      · exact hunderscore heq
    rw [items?_char hplain] at hitems
    obtain ⟨rest, hrest, rfl⟩ := Option.map_eq_some_iff.mp hitems
    obtain ⟨c, text, rfl, hfold, hmatch⟩ := exists_of_itemsMatch_char hmatch
    exact .char hplain hfold (ih hrest hmatch)

theorem matches_iff (pattern text : List Char) :
    Matches pattern text ↔ ∃ items, items? pattern = some items ∧ itemsMatch items text = true :=
  ⟨Matches.itemsMatch, fun ⟨_, hitems, hmatch⟩ => matches_of_itemsMatch hitems hmatch⟩

/-- The matcher follows the rules on what it reads, and finds nothing with a pattern that is too
large. -/
theorem admits_iff_matches (pattern text : List Char) :
    admits pattern text = true ↔
      byteSize pattern ≤ sizeLimit ∧ Matches (readable pattern) (readable text) := by
  rw [admits, Bool.and_eq_true, decide_eq_true_iff, matches_iff]
  cases items? (readable pattern) with
  | none => simp
  | some items => simp

/-! ## Searching -/

theorem matches_containing_iff (wanted text : List Char) :
    Matches (containing wanted) text ↔ wanted.map fold <:+: text.map fold := by
  rw [matches_iff, items?_containing, ← itemsMatch_containing]
  simp

/-- **Search text is taken literally.** By the rules of `LIKE` the pattern that is made of a query
matches a text exactly if the query without the blanks around it stands somewhere in the text, up
to the case of ASCII letters, whatever characters the query has. The database follows the rules on
what it reads of the pattern and the text, unless the pattern is too large. So it finds a query
without NUL where it stands in what is read: all before a NUL, and the code points that are no
characters as the replacement character. -/
theorem search_is_literal (query target : String) :
    let wanted := (Text.trim query).toList
    (Matches (containing wanted) target.toList ↔ wanted.map fold <:+: target.toList.map fold) ∧
      (admits (containing wanted) target.toList = true ↔
        byteSize (containing wanted) ≤ sizeLimit ∧
          Matches (readable (containing wanted)) (readable target.toList)) ∧
      ('\x00' ∉ query.toList → (admits (containing wanted) target.toList = true ↔
        byteSize (containing wanted) ≤ sizeLimit ∧
          (readable wanted).map fold <:+: (readable target.toList).map fold)) := by
  intro wanted
  refine ⟨matches_containing_iff wanted target.toList, admits_iff_matches _ _, fun hnul => ?_⟩
  -- Taking blanks away does not bring in a NUL.
  have hwanted : '\x00' ∉ wanted := by
    intro hmem
    rw [show wanted = Text.trimChars query.toList from String.toList_ofList] at hmem
    exact hnul (Text.mem_of_mem_trimChars hmem)
  exact admits_containing_iff hwanted target.toList

/-- A query of characters that have a meaning of their own, with a backslash in front of the
closing percent sign, is found where it stands and nowhere else. -/
theorem search_is_literal_for_wildcards :
    admits (containing (Text.trim " _%\\ ").toList) "5_%\\".toList = true ∧
      admits (containing (Text.trim " _%\\ ").toList) "5x%\\".toList = false := by
  have hfound := (search_is_literal " _%\\ " "5_%\\").2.2 (by decide)
  have hmissed := (search_is_literal " _%\\ " "5x%\\").2.2 (by decide)
  refine ⟨hfound.mpr (by decide), Bool.eq_false_iff.mpr fun h => ?_⟩
  exact absurd (hmissed.mp h) (by decide)

end MarkerAtlas.Pattern
