import MarkerAtlas.Text.Blank

/-!
# Trimmed texts

A text is trimmed if it begins and ends with characters that are no blanks. Trimming makes it so,
and leaves alone a text that is.
-/

namespace MarkerAtlas.Text

/-- The characters of ASCII that are seen are no blanks: all blanks lie below or above them. -/
theorem isBlank_of_visible {c : Char} (h : 0x21 ≤ c.toNat ∧ c.toNat ≤ 0x7E) :
    isBlank c = false := by
  rw [Bool.eq_false_iff, Ne, isBlank, CharSet.contains_iff]
  simp only [blanks, List.mem_cons, List.not_mem_nil, or_false]
  rintro ⟨r, hr, hlow, hhigh⟩
  rcases hr with rfl | rfl | rfl | rfl | rfl | rfl | rfl | rfl | rfl | rfl <;> omega

@[simp] theorem isBlank_space : isBlank ' ' = true := by decide

theorem ne_space {c : Char} (h : isBlank c = false) : c ≠ ' ' := by
  rintro rfl
  exact absurd h (by decide)

/-- No blank at either end. -/
structure Trimmed (cs : List Char) : Prop where
  head : ∀ c, cs.head? = some c → isBlank c = false
  last : ∀ c, cs.getLast? = some c → isBlank c = false

theorem trimmed_of_isBlank_eq_false {cs : List Char} (h : ∀ c ∈ cs, isBlank c = false) :
    Trimmed cs where
  head c hc := h c (List.mem_of_head? hc)
  last c hc := h c (List.mem_of_getLast? hc)

theorem dropWhile_eq_self {cs : List Char} (h : ∀ c, cs.head? = some c → isBlank c = false) :
    cs.dropWhile isBlank = cs := by
  cases cs with
  | nil => rfl
  | cons c cs => rw [List.dropWhile_cons, h c rfl, if_neg Bool.false_ne_true]

theorem head?_dropWhile {cs : List Char} {c : Char} (h : (cs.dropWhile isBlank).head? = some c) :
    isBlank c = false := by
  have hnot := List.head?_dropWhile_not isBlank cs
  rw [h] at hnot
  exact hnot

theorem Trimmed.trimChars_eq {cs : List Char} (h : Trimmed cs) : trimChars cs = cs := by
  unfold trimChars
  rw [dropWhile_eq_self h.head, dropWhile_eq_self, List.reverse_reverse]
  intro c hc
  rw [List.head?_reverse] at hc
  exact h.last c hc

theorem trimmed_trimChars (cs : List Char) : Trimmed (trimChars cs) := by
  let front := cs.dropWhile isBlank
  have htrim : trimChars cs = (front.reverse.dropWhile isBlank).reverse := rfl
  have hprefix : trimChars cs <+: front := by
    rw [htrim, ← List.reverse_suffix, List.reverse_reverse]
    exact List.dropWhile_suffix isBlank
  refine ⟨fun c hc => ?_, fun c hc => ?_⟩
  · -- What is left after trimming the end begins as the text did before.
    obtain ⟨rest, hrest⟩ := hprefix
    have hfront : front.head? = some c := by
      rw [← hrest, List.head?_append, hc]
      rfl
    exact head?_dropWhile hfront
  · rw [htrim, List.getLast?_reverse] at hc
    exact head?_dropWhile hc

theorem trim_eq_of_trimmed {s : String} (h : Trimmed s.toList) : trim s = s := by
  rw [trim, h.trimChars_eq, String.ofList_toList]

@[simp] theorem trim_trim (s : String) : trim (trim s) = trim s := by
  refine trim_eq_of_trimmed ?_
  rw [trim, String.toList_ofList]
  exact trimmed_trimChars s.toList

theorem trimmed?_eq_some_iff {s t : String} : trimmed? s = some t ↔ trim s = t ∧ t ≠ "" := by
  unfold trimmed?
  by_cases hempty : trim s = ""
  · simp [hempty]
  · simpa [hempty] using fun h : trim s = t => h ▸ hempty

/-- What is left of a trimmed text is all of it. -/
theorem trimmed?_trimmed? {s t : String} (h : trimmed? s = some t) : trimmed? t = some t := by
  obtain ⟨rfl, hne⟩ := trimmed?_eq_some_iff.mp h
  exact trimmed?_eq_some_iff.mpr ⟨trim_trim s, hne⟩

theorem trimmed?_eq_self {s : String} (h : Trimmed s.toList) (hne : s ≠ "") :
    trimmed? s = some s := trimmed?_eq_some_iff.mpr ⟨trim_eq_of_trimmed h, hne⟩

theorem trimmed?_replicate {c : Char} (hc : isBlank c = false) {n : Nat} (hn : 0 < n) :
    trimmed? (String.ofList (List.replicate n c)) = some (String.ofList (List.replicate n c)) := by
  refine trimmed?_eq_self (trimmed_of_isBlank_eq_false fun d hd => ?_) fun hempty => ?_
  · rw [String.toList_ofList] at hd
    rw [(List.mem_replicate.mp hd).2, hc]
  · have hlength := congrArg String.length hempty
    rw [String.length_ofList, List.length_replicate] at hlength
    exact Nat.ne_of_gt hn hlength

end MarkerAtlas.Text
