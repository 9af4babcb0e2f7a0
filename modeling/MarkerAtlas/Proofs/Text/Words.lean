import Mathlib.Data.List.Chain
import Mathlib.Data.List.Infix
import MarkerAtlas.Proofs.Text.Blank

/-!
# Words

Cutting a text at its blanks loses the blanks and nothing else: what the words hold, one after
another, is the text without its blanks. Each word stands in the text as it is, and a trimmed text
that has single blanks has no empty pieces between them.
-/

namespace MarkerAtlas.Text

/-! ## Pieces -/

theorem pieces_ne_nil (cs : List Char) : pieces cs ≠ [] := by
  fun_cases pieces cs <;> exact List.cons_ne_nil _ _

section
variable {c : Char}

theorem pieces_cons_blank (hc : isBlank c = true) (cs : List Char) :
    pieces (c :: cs) = [] :: pieces cs := by
  rw [pieces, if_pos hc]

/-- A character that is no blank goes to the front of the first piece. -/
theorem exists_pieces_cons (hc : isBlank c = false) (cs : List Char) :
    ∃ p ps, pieces cs = p :: ps ∧ pieces (c :: cs) = (c :: p) :: ps := by
  obtain ⟨p, ps, hpieces⟩ := List.exists_cons_of_ne_nil (pieces_ne_nil cs)
  refine ⟨p, ps, hpieces, ?_⟩
  rw [pieces, if_neg (by rw [hc]; exact Bool.false_ne_true), hpieces]

end

theorem flatten_pieces (cs : List Char) : (pieces cs).flatten = cs.filter (!isBlank ·) := by
  induction cs with
  | nil => rfl
  | cons c cs ih =>
    cases hc : isBlank c with
    | true =>
      rw [pieces_cons_blank hc cs, List.flatten_cons, List.nil_append, ih]
      simp [hc]
    | false =>
      obtain ⟨p, ps, hpieces, hcons⟩ := exists_pieces_cons hc cs
      rw [hpieces] at ih
      rw [hcons]
      simp [hc, ← ih]

/-- A piece stands in the text, and the first one stands at its beginning. -/
theorem infix_of_mem_pieces (cs : List Char) :
    (∀ p ∈ (pieces cs).head?, p <+: cs) ∧ ∀ p ∈ pieces cs, p <:+: cs := by
  induction cs with
  | nil => simp [pieces]
  | cons c cs ih =>
    cases hc : isBlank c with
    | true =>
      rw [pieces_cons_blank hc cs]
      refine ⟨by simp, List.forall_mem_cons.mpr ⟨List.nil_prefix.isInfix, fun p hp => ?_⟩⟩
      exact List.infix_cons (ih.2 p hp)
    | false =>
      obtain ⟨p, ps, hpieces, hcons⟩ := exists_pieces_cons hc cs
      rw [hpieces] at ih
      have hfirst : c :: p <+: c :: cs := (List.prefix_cons_inj c).mpr (ih.1 p rfl)
      rw [hcons]
      refine ⟨by simpa using hfirst, List.forall_mem_cons.mpr ⟨hfirst.isInfix, fun q hq => ?_⟩⟩
      exact List.infix_cons (ih.2 q (List.mem_cons_of_mem p hq))

/-! ## Words -/

/-- Some characters, none of them a blank. -/
structure IsWord (w : List Char) : Prop where
  ne_nil : w ≠ []
  solid : ∀ c ∈ w, isBlank c = false

theorem flatten_words (cs : List Char) : (words cs).flatten = cs.filter (!isBlank ·) := by
  rw [words, List.flatten_filter_not_isEmpty, flatten_pieces]

theorem isWord_of_mem_words {cs w : List Char} (h : w ∈ words cs) : IsWord w where
  ne_nil := by
    obtain ⟨-, hne⟩ := List.mem_filter.mp h
    simpa using hne
  solid := by
    intro c hc
    -- All words together are the text without its blanks.
    have hmem : c ∈ (words cs).flatten := List.mem_flatten.mpr ⟨w, h, hc⟩
    rw [flatten_words] at hmem
    simpa using (List.mem_filter.mp hmem).2

/-- Only where there is nothing but blanks there are no words. -/
theorem words_eq_nil_iff {cs : List Char} : words cs = [] ↔ cs.filter (!isBlank ·) = [] := by
  rw [← flatten_words]
  refine ⟨fun h => by rw [h, List.flatten_nil], fun h => ?_⟩
  refine List.eq_nil_iff_forall_not_mem.mpr fun w hw => ?_
  exact (isWord_of_mem_words hw).ne_nil (List.flatten_eq_nil_iff.mp h w hw)

theorem infix_of_mem_words {cs w : List Char} (h : w ∈ words cs) : w <:+: cs :=
  (infix_of_mem_pieces cs).2 w (List.mem_filter.mp h).1

/-! ## Single blanks -/

/-- At most one of two neighbours is a blank. -/
def Single (a b : Char) : Prop := ¬(isBlank a = true ∧ isBlank b = true)

theorem single_of_left {a : Char} (h : isBlank a = false) (b : Char) : Single a b := by
  rintro ⟨ha, -⟩
  rw [h] at ha
  cases ha

theorem single_of_right {b : Char} (h : isBlank b = false) (a : Char) : Single a b := by
  rintro ⟨-, hb⟩
  rw [h] at hb
  cases hb

/-- Between two blanks that are no neighbours is a piece with something in it. The induction is
over the texts that end before a blank; only a first piece that goes on with what was before may
be empty. -/
theorem pieces_solid {a : Char} {cs : List Char} (h : (a :: (cs ++ [' '])).IsChain Single) :
    (∀ p ∈ (pieces cs).tail, p ≠ []) ∧ (isBlank a = true → ∀ p ∈ pieces cs, p ≠ []) := by
  induction cs generalizing a with
  | nil =>
    refine ⟨by simp [pieces], fun ha => ?_⟩
    exact absurd ⟨ha, isBlank_space⟩ (List.isChain_pair.mp h)
  | cons c cs ih =>
    obtain ⟨hac, hchain⟩ := List.isChain_cons_cons.mp h
    obtain ⟨htail, hall⟩ := ih hchain
    cases hc : isBlank c with
    | true =>
      rw [pieces_cons_blank hc cs]
      exact ⟨hall hc, fun ha => absurd ⟨ha, hc⟩ hac⟩
    | false =>
      obtain ⟨p, ps, hpieces, hcons⟩ := exists_pieces_cons hc cs
      rw [hpieces] at htail
      rw [hcons]
      exact ⟨htail, fun _ => List.forall_mem_cons.mpr ⟨List.cons_ne_nil c p, htail⟩⟩

/-- A trimmed text with single blanks is cut into its words. -/
theorem words_eq_pieces {cs : List Char} (hne : cs ≠ []) (htrimmed : Trimmed cs)
    (hsingle : cs.IsChain Single) : words cs = pieces cs := by
  -- The text neither begins nor ends with a blank, so that a space on either side has no blank
  -- beside it.
  have hpadded : (' ' :: (cs ++ [' '])).IsChain Single := by
    refine List.isChain_cons.mpr ⟨fun c hc => ?_, List.isChain_append.mpr
      ⟨hsingle, List.isChain_singleton ' ', fun c hc d _ => ?_⟩⟩
    · rw [List.head?_append_of_ne_nil cs hne] at hc
      exact single_of_right (htrimmed.head c hc) ' '
    · exact single_of_left (htrimmed.last c hc) d
  refine List.filter_eq_self.mpr fun p hp => ?_
  simpa using (pieces_solid hpadded).2 isBlank_space p hp

end MarkerAtlas.Text
