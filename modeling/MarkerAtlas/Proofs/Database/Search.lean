import Mathlib.Data.List.Infix
import Mathlib.Data.List.TakeWhile
import MarkerAtlas.Database.Listing
import MarkerAtlas.Store.Memory

/-!
# Searching in memory and in a database

A database searches with a pattern, the store in memory with the lower-case forms of the texts.
The pattern that contains a text matches just the texts in which it stands, whatever the case of
its ASCII letters: none of its characters has a meaning of its own. So for ASCII both searches find
the same, as long as the pattern is not too large.
-/

namespace MarkerAtlas

/-! ## Where a text stands in another -/

theorem Text.isInfix_iff {part text : List Char} : isInfix part text = true ↔ part <:+: text := by
  induction text with
  | nil =>
    rw [isInfix, Bool.or_false, List.isPrefixOf_iff_prefix, List.prefix_nil, List.infix_nil]
  | cons c cs ih =>
    rw [isInfix, Bool.or_eq_true, List.isPrefixOf_iff_prefix, ih, List.infix_cons_iff]

namespace Pattern

/-- Some end of the text passes the test. -/
theorem anyEnd_iff {test : List Char → Bool} {cs : List Char} :
    anyEnd test cs = true ↔ ∃ e, e <:+ cs ∧ test e = true := by
  induction cs with
  | nil => simp [anyEnd]
  | cons c cs ih =>
    rw [anyEnd, Bool.or_eq_true, ih]
    constructor
    · rintro (h | ⟨e, he, h⟩)
      · exact ⟨_, List.suffix_refl _, h⟩
      · exact ⟨e, he.trans (List.suffix_cons c cs), h⟩
    · rintro ⟨e, he, h⟩
      rcases List.suffix_cons_iff.mp he with rfl | he
      · exact .inl h
      · exact .inr ⟨e, he, h⟩

/-! ## What the pattern of a text says -/

theorem items?_escape (c : Char) (cs : List Char) :
    items? (escape :: c :: cs) = (items? cs).map (.char c :: ·) := rfl

theorem items?_percent (cs : List Char) :
    items? ('%' :: cs) = (items? cs).map (.anyText :: ·) := by
  cases cs <;> rfl

theorem items?_char {c : Char} (h : ¬ (c = '\\' ∨ c = '%' ∨ c = '_')) (cs : List Char) :
    items? (c :: cs) = (items? cs).map (.char c :: ·) := by
  have hescape : c ≠ escape := fun heq => h (.inl heq)
  have hpercent : c ≠ '%' := fun heq => h (.inr (.inl heq))
  have hunderscore : c ≠ '_' := fun heq => h (.inr (.inr heq))
  cases cs <;> simp only [items?, if_neg hescape, if_neg hpercent, if_neg hunderscore]

/-- Every character of a text stands for itself in its pattern. -/
theorem items?_escaped_append (w rest : List Char) :
    items? (escaped w ++ rest) = (items? rest).map (w.map .char ++ ·) := by
  induction w with
  | nil => simp [escaped]
  | cons c cs ih =>
    by_cases hspecial : c = '\\' ∨ c = '%' ∨ c = '_'
    · rw [escaped, if_pos hspecial, List.cons_append, List.cons_append, items?_escape, ih,
        Option.map_map]
      rfl
    · rw [escaped, if_neg hspecial, List.cons_append, items?_char hspecial, ih, Option.map_map]
      rfl

theorem items?_containing (w : List Char) :
    items? (containing w) = some (.anyText :: (w.map .char ++ [.anyText])) := by
  rw [containing, items?_percent, items?_escaped_append, items?_percent]
  rfl

/-- A text matches the characters and what may follow if it begins with them. -/
theorem itemsMatch_chars (w cs : List Char) :
    itemsMatch (w.map .char ++ [.anyText]) cs = true ↔ w.map fold <+: cs.map fold := by
  induction w generalizing cs with
  | nil =>
    -- Only the percent sign is left of the pattern, which takes every rest.
    have hnil : anyEnd (itemsMatch []) cs = true :=
      anyEnd_iff.mpr ⟨[], List.nil_suffix, rfl⟩
    simpa [itemsMatch] using hnil
  | cons p ps ih =>
    cases cs with
    | nil => simp [itemsMatch]
    | cons c cs =>
      rw [List.map_cons, List.cons_append, itemsMatch, Bool.and_eq_true, beq_iff_eq, ih,
        List.map_cons, List.map_cons, List.cons_prefix_cons]

theorem itemsMatch_containing (w cs : List Char) :
    itemsMatch (.anyText :: (w.map .char ++ [.anyText])) cs = true ↔
      w.map fold <:+: cs.map fold := by
  rw [itemsMatch, anyEnd_iff, List.infix_iff_prefix_suffix]
  constructor
  · rintro ⟨e, he, hmatch⟩
    exact ⟨e.map fold, (itemsMatch_chars w e).mp hmatch, he.map fold⟩
  · rintro ⟨t, hprefix, hsuffix⟩
    obtain ⟨e, he, rfl⟩ := List.suffix_map_iff.mp hsuffix
    exact ⟨e, he, (itemsMatch_chars w e).mpr hprefix⟩

/-! ## What is read of a pattern -/

theorem upToNul_eq_self {cs : List Char} (h : '\x00' ∉ cs) : upToNul cs = cs := by
  refine List.takeWhile_eq_self_iff.mpr fun c hc => decide_eq_true fun heq => ?_
  exact h (heq ▸ hc)

theorem mem_escaped {c : Char} {w : List Char} (h : c ∈ escaped w) : c = escape ∨ c ∈ w := by
  induction w with
  | nil => cases h
  | cons d ds ih =>
    rw [escaped] at h
    split at h
    · rcases List.mem_cons.mp h with rfl | h
      · exact .inl rfl
      · rcases List.mem_cons.mp h with rfl | h
        · exact .inr List.mem_cons_self
        · exact (ih h).imp_right (List.mem_cons_of_mem d)
    · rcases List.mem_cons.mp h with rfl | h
      · exact .inr List.mem_cons_self
      · exact (ih h).imp_right (List.mem_cons_of_mem d)

theorem nul_notMem_containing {w : List Char} (h : '\x00' ∉ w) : '\x00' ∉ containing w := by
  intro hmem
  rcases List.mem_cons.mp hmem with heq | hmem
  · cases heq
  rcases List.mem_append.mp hmem with hmem | hmem
  · rcases mem_escaped hmem with heq | hmem
    · cases heq
    · exact h hmem
  · cases List.mem_singleton.mp hmem

/-- Reading a character does not give it a meaning, nor take one away. -/
theorem reading_special_iff (c : Char) :
    (reading c = '\\' ∨ reading c = '%' ∨ reading c = '_') ↔ (c = '\\' ∨ c = '%' ∨ c = '_') := by
  unfold reading
  split
  · next hlast =>
    have hne : ∀ d : Char, d.toNat < 128 → c ≠ d := by
      rintro d hd rfl
      omega
    -- What is read as another character is far beyond ASCII.
    simp [hne '\\' (by decide), hne '%' (by decide), hne '_' (by decide)]
  · rfl

theorem map_reading_escaped (w : List Char) :
    (escaped w).map reading = escaped (w.map reading) := by
  induction w with
  | nil => rfl
  | cons c cs ih =>
    rw [List.map_cons, escaped, escaped]
    by_cases hspecial : c = '\\' ∨ c = '%' ∨ c = '_'
    · rw [if_pos hspecial, if_pos ((reading_special_iff c).mpr hspecial), List.map_cons,
        List.map_cons, ih]
      rfl
    · rw [if_neg hspecial, if_neg (fun h => hspecial ((reading_special_iff c).mp h)),
        List.map_cons, ih]

theorem readable_containing {w : List Char} (h : '\x00' ∉ w) :
    readable (containing w) = containing (readable w) := by
  rw [readable, upToNul_eq_self (nul_notMem_containing h), readable, upToNul_eq_self h, containing,
    containing, List.map_cons, List.map_append, map_reading_escaped]
  rfl

/-- The pattern of a text matches the texts in which it stands, whatever the case of ASCII
letters, unless it is too large. -/
theorem admits_containing_iff {w : List Char} (h : '\x00' ∉ w) (text : List Char) :
    admits (containing w) text = true ↔ byteSize (containing w) ≤ sizeLimit ∧
      (readable w).map fold <:+: (readable text).map fold := by
  rw [admits, readable_containing h, items?_containing, Bool.and_eq_true, decide_eq_true_iff,
    itemsMatch_containing]

theorem length_le_byteSize (cs : List Char) : cs.length ≤ byteSize cs := by
  induction cs with
  | nil => exact Nat.zero_le _
  | cons c cs ih =>
    have hc := c.utf8Size_pos
    rw [byteSize] at ih
    rw [byteSize, List.foldr_cons, List.length_cons]
    omega

theorem length_le_length_escaped (w : List Char) : w.length ≤ (escaped w).length := by
  induction w with
  | nil => exact Nat.zero_le _
  | cons c cs ih =>
    rw [escaped]
    split <;> simp only [List.length_cons] <;> omega

/-- The pattern of a long text matches nothing, not even the text. -/
theorem admits_containing_of_long {w : List Char} (h : sizeLimit < w.length + 2)
    (text : List Char) : admits (containing w) text = false := by
  -- Every character takes a byte at least, and backslashes only add to it.
  have hsize : sizeLimit < byteSize (containing w) := by
    have hbytes := length_le_byteSize (containing w)
    have hescaped := length_le_length_escaped w
    have hlength : (containing w).length = (escaped w).length + 2 := by simp [containing]
    omega
  rw [admits, decide_eq_false (by omega), Bool.false_and]

end Pattern

/-- A database finds nothing when it searches for a text that is too long for a pattern. -/
theorem Database.listMarkers_of_long {f : MarkerFilter} {w : String}
    (hsearch : f.searchText = some w) (hlong : Pattern.sizeLimit < w.toList.length + 2)
    (howned : (Owner.of? f.scope f.characterId).isSome = true) (db : Database) :
    db.listMarkers f = .ok [] := by
  obtain ⟨o, ho⟩ := Option.isSome_iff_exists.mp howned
  have hnone : ∀ text, Pattern.admits (Pattern.containing w.toList) text = false :=
    Pattern.admits_containing_of_long hlong
  have hunfound : ∀ m : StoredMarker, m.found f.searchText = false := fun m => by
    cases hr : m.region <;> simp [StoredMarker.found, hsearch, hnone, hr]
  rw [Database.listMarkers, ho]
  simp only [Database.listFor, hunfound, Bool.and_false, Bool.false_and, List.filter_false,
    List.map_nil]

/-! ## ASCII texts -/

namespace Text

/-- A text of ASCII characters, none of them NUL. -/
structure Ascii (cs : List Char) : Prop where
  below : ∀ c ∈ cs, c.toNat < 128
  nul : '\x00' ∉ cs

instance : DecidablePred Ascii := fun cs =>
  decidable_of_iff (cs.all (·.toNat < 128) = true ∧ '\x00' ∉ cs)
    ⟨fun h => ⟨by simpa using h.1, h.2⟩, fun h => ⟨by simpa using h.below, h.nul⟩⟩

theorem Ascii.of_cons {c : Char} {cs : List Char} (h : Ascii (c :: cs)) :
    c.toNat < 128 ∧ Ascii cs :=
  ⟨h.below c List.mem_cons_self, fun d hd => h.below d (List.mem_cons_of_mem c hd),
    fun hd => h.nul (List.mem_cons_of_mem c hd)⟩

theorem Ascii.of_subset {cs ds : List Char} (h : Ascii cs) (hsub : ds ⊆ cs) : Ascii ds :=
  ⟨fun d hd => h.below d (hsub hd), fun hd => h.nul (hsub hd)⟩

/-- The table of letters turns the ASCII ones into small letters. -/
theorem lowerChar_of_lt {c : Char} (h : c.toNat < 128) : lowerChar c = [Pattern.fold c] := by
  let capitals : CaseRun := ⟨0x41, 0x5A, 1, 32⟩
  -- Only the first run of the table holds characters of ASCII.
  have hbeyond : ∀ r ∈ lowerRuns.tail, 128 ≤ r.first := by decide +kernel
  have hnone : lowerRuns.tail.find? (·.contains c.toNat) = none := by
    refine List.find?_eq_none.mpr fun r hr hcontains => ?_
    have hfirst := hbeyond r hr
    simp only [CaseRun.contains, Bool.and_eq_true, decide_eq_true_eq] at hcontains
    omega
  have hfind : lowerRuns.find? (·.contains c.toNat) =
      if capitals.contains c.toNat then some capitals else none := by
    rw [show lowerRuns = capitals :: lowerRuns.tail from rfl, List.find?_cons, hnone]
    cases capitals.contains c.toNat <;> rfl
  have hcapitals : ∀ n < 128, (if capitals.contains n then [Char.ofNat ((n : Int) + 32).toNat]
      else [Char.ofNat n]) = [Pattern.fold (Char.ofNat n)] := by decide +kernel
  have hc := hcapitals c.toNat h
  rw [Char.ofNat_toNat] at hc
  rw [lowerChar, if_neg (by omega), hfind, ← hc]
  cases capitals.contains c.toNat <;> rfl

/-- In ASCII the neighbours of a letter do not matter. -/
theorem Ascii.lowerAfter_eq {cs : List Char} (h : Ascii cs) (before : List Char) :
    lowerAfter before cs = cs.map Pattern.fold := by
  induction cs generalizing before with
  | nil => rfl
  | cons c cs ih =>
    obtain ⟨hc, hcs⟩ := h.of_cons
    -- Only a sigma is asked for its neighbours.
    have hsigma : c.toNat ≠ 0x3A3 := by omega
    rw [lowerAfter]
    simp only [if_neg hsigma]
    rw [lowerChar_of_lt hc, ih hcs, List.map_cons, List.singleton_append]

theorem Ascii.readable_eq {cs : List Char} (h : Ascii cs) : Pattern.readable cs = cs := by
  rw [Pattern.readable, Pattern.upToNul_eq_self h.nul]
  refine (List.map_congr_left fun c hc => ?_).trans (List.map_id cs)
  have hlt := h.below c hc
  exact if_neg (by omega)

theorem mem_of_mem_trimChars {c : Char} {cs : List Char} (h : c ∈ trimChars cs) : c ∈ cs := by
  rw [trimChars, List.mem_reverse] at h
  have hfront := (List.dropWhile_sublist isBlank).mem h
  exact (List.dropWhile_sublist isBlank).mem (List.mem_reverse.mp hfront)

theorem Ascii.of_trimmed? {s t : String} (hs : Ascii s.toList) (h : trimmed? s = some t) :
    Ascii t.toList := by
  refine hs.of_subset fun c hc => mem_of_mem_trimChars ?_
  unfold trimmed? at h
  simp only at h
  split at h
  · cases h
  · cases h
    rwa [trim, String.toList_ofList] at hc

end Text

/-- The store in memory finds a text of ASCII where it stands, whatever the case of letters. -/
theorem MemoryStore.holds_iff {wanted text : String} (hw : Text.Ascii wanted.toList)
    (ht : Text.Ascii text.toList) : holds wanted text = true ↔
      wanted.toList.map Pattern.fold <:+: text.toList.map Pattern.fold := by
  -- Both texts are lowered as a whole, which in ASCII is folding each letter.
  rw [holds, Text.contains, Text.isInfix_iff, Text.lower, Text.lower, String.toList_ofList,
    String.toList_ofList, hw.lowerAfter_eq, ht.lowerAfter_eq]

/-- In ASCII texts a pattern of bounded size finds what the store in memory finds. -/
theorem Pattern.admits_containing_eq_holds {wanted text : String} (hw : Text.Ascii wanted.toList)
    (ht : Text.Ascii text.toList) (hsize : byteSize (containing wanted.toList) ≤ sizeLimit) :
    admits (containing wanted.toList) text.toList = MemoryStore.holds wanted text := by
  rw [Bool.eq_iff_iff, admits_containing_iff hw.nul, MemoryStore.holds_iff hw ht, hw.readable_eq,
    ht.readable_eq]
  exact and_iff_right hsize

end MarkerAtlas
