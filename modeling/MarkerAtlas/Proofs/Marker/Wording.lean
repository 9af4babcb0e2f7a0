import Mathlib.Data.List.Chain
import MarkerAtlas.Marker.Label
import MarkerAtlas.Proofs.Text.Words

/-!
# Names put into words

Putting a name into words changes blanks and underscores and nothing else, and leaves a text that
cannot be put into words any further: no underscore is left, no capital right behind a small
letter, and one space between two words. The texts of this kind are those that stay as they are.
-/

namespace MarkerAtlas

open Text (isBlank IsWord Trimmed Single)

namespace Label

/-- Not a small letter with a capital right behind it. -/
def Apart (a b : Char) : Prop := ¬(isSmall a = true ∧ isCapital b = true)

/-- A text made of words: no underscores, capitals set apart, and single spaces between the words,
with no other blanks. -/
structure InWords (cs : List Char) : Prop where
  no_underscore : '_' ∉ cs
  apart : cs.IsChain Apart
  spaces : ∀ c ∈ cs, isBlank c = true → c = ' '
  single : cs.IsChain Single
  trimmed : Trimmed cs

/-! ## Setting capitals apart -/

theorem apart_space (c : Char) : Apart c ' ' ∧ Apart ' ' c :=
  ⟨fun h => absurd h.2 (by decide), fun h => absurd h.1 (by decide)⟩

theorem apart_of_isCapital {a : Char} (ha : isCapital a = true) (b : Char) : Apart a b := by
  rintro ⟨hsmall, -⟩
  simp only [isCapital, isSmall, Bool.and_eq_true, decide_eq_true_eq] at ha hsmall
  exact absurd (Char.le_trans hsmall.1 ha.2) (by decide)

theorem head?_splitCamel (cs : List Char) : (splitCamel cs).head? = cs.head? := by
  fun_cases splitCamel cs <;> rfl

/-- Setting capitals apart adds blanks and nothing else. -/
theorem filter_splitCamel (cs : List Char) :
    (splitCamel cs).filter (!isBlank ·) = cs.filter (!isBlank ·) := by
  fun_induction splitCamel cs with
  | case1 a b cs hcamel ih =>
    simp [List.filter_cons, ih]
  | case2 a b cs hcamel ih => rw [List.filter_cons, List.filter_cons, ih]
  | case3 cs => rfl

/-- No place to cut is passed over: the capital that ends one cut is no small letter, so that no
other cut begins with it. -/
theorem isChain_splitCamel (cs : List Char) : (splitCamel cs).IsChain Apart := by
  fun_induction splitCamel cs with
  | case1 a b cs hcamel ih =>
    have hb : isCapital b = true := (Bool.and_eq_true_iff.mp hcamel).2
    refine List.isChain_cons_cons.mpr ⟨(apart_space a).1, List.isChain_cons_cons.mpr
      ⟨(apart_space b).2, List.isChain_cons.mpr ⟨fun c _ => apart_of_isCapital hb c, ih⟩⟩⟩
  | case2 a b cs hcamel ih =>
    refine List.isChain_cons.mpr ⟨fun c hc => ?_, ih⟩
    rw [head?_splitCamel] at hc
    -- What comes behind `a` is still `b`, since cutting leaves the first character.
    obtain rfl : b = c := Option.some.inj hc
    exact fun h => hcamel (Bool.and_eq_true_iff.mpr h)
  | case3 cs hshort =>
    obtain _ | ⟨a, _ | ⟨b, cs⟩⟩ := cs
    · exact List.isChain_nil
    · exact List.isChain_singleton a
    · exact (hshort a b cs rfl).elim

/-- Where capitals are set apart already, nothing is cut. -/
theorem splitCamel_eq_self {cs : List Char} (h : cs.IsChain Apart) : splitCamel cs = cs := by
  fun_induction splitCamel cs with
  | case1 a b cs hcamel ih =>
    exact absurd (Bool.and_eq_true_iff.mp hcamel) (List.isChain_cons_cons.mp h).1
  | case2 a b cs hcamel ih => rw [ih (List.isChain_cons_cons.mp h).2]
  | case3 cs hshort => rfl

/-! ## Words with spaces between them -/

section
variable {ws : List (List Char)}

theorem joinWords_cons {w : List Char} (h : ws ≠ []) :
    joinWords (w :: ws) = w ++ ' ' :: joinWords ws := by
  cases ws with
  | nil => exact absurd rfl h
  | cons v vs => rfl

theorem joinWords_eq_nil_iff (h : ∀ w ∈ ws, IsWord w) : joinWords ws = [] ↔ ws = [] := by
  cases ws with
  | nil => exact iff_of_true rfl rfl
  | cons w ws =>
    refine iff_of_false (fun hnil => ?_) (List.cons_ne_nil w ws)
    have hw := (h w List.mem_cons_self).ne_nil
    cases ws with
    | nil => exact hw hnil
    | cons v vs => exact hw (List.append_eq_nil_iff.mp hnil).1

/-- Joined words begin with the first word and end with the last one, so that no blank stands at
either end. -/
theorem trimmed_joinWords (h : ∀ w ∈ ws, IsWord w) : Trimmed (joinWords ws) := by
  induction ws with
  | nil => exact ⟨nofun, nofun⟩
  | cons w ws ih =>
    have hw := h w List.mem_cons_self
    have hws : ∀ v ∈ ws, IsWord v := fun v hv => h v (List.mem_cons_of_mem w hv)
    by_cases hlast : ws = []
    · rw [hlast]
      exact Text.trimmed_of_isBlank_eq_false hw.solid
    · have hrest : joinWords ws ≠ [] := mt (joinWords_eq_nil_iff hws).mp hlast
      rw [joinWords_cons hlast]
      -- The first character is that of the first word, the last one that of the other words.
      refine ⟨fun c hc => ?_, fun c hc => ?_⟩
      · rw [List.head?_append_of_ne_nil w hw.ne_nil] at hc
        exact hw.solid c (List.mem_of_head? hc)
      · rw [List.getLast?_append_cons, ← List.singleton_append,
          List.getLast?_append_of_ne_nil _ hrest] at hc
        exact (ih hws).last c hc

theorem mem_joinWords {c : Char} (h : c ∈ joinWords ws) : c = ' ' ∨ c ∈ ws.flatten := by
  fun_induction joinWords ws with
  | case1 => cases h
  | case2 w => exact .inr (by simpa using h)
  | case3 w ws hmore ih =>
    rw [List.flatten_cons, List.mem_append]
    rcases List.mem_append.mp h with hw | hrest
    · exact .inr (.inl hw)
    · rcases List.mem_cons.mp hrest with hspace | hrest
      · exact .inl hspace
      · exact (ih hrest).imp_right .inr

theorem filter_joinWords (h : ∀ w ∈ ws, IsWord w) :
    (joinWords ws).filter (· ≠ ' ') = ws.flatten := by
  have hword : ∀ w ∈ ws, w.filter (· ≠ ' ') = w := fun w hw =>
    List.filter_eq_self.mpr fun c hc => decide_eq_true (Text.ne_space ((h w hw).solid c hc))
  fun_induction joinWords ws with
  | case1 => rfl
  | case2 w => rw [hword w List.mem_cons_self, List.flatten_singleton]
  | case3 w ws hmore ih =>
    rw [List.forall_mem_cons] at h hword
    rw [List.filter_append, hword.1, List.filter_cons_of_neg (by decide), ih h.2 hword.2,
      List.flatten_cons]

/-- What holds of neighbours in each word, and of a space beside a character of a word, holds of
all neighbours. -/
theorem isChain_joinWords {R : Char → Char → Prop} (h : ∀ w ∈ ws, IsWord w)
    (hchain : ∀ w ∈ ws, w.IsChain R) (hspace : ∀ c, isBlank c = false → R c ' ' ∧ R ' ' c) :
    (joinWords ws).IsChain R := by
  fun_induction joinWords ws with
  | case1 => exact List.isChain_nil
  | case2 w => exact hchain w List.mem_cons_self
  | case3 w ws hmore ih =>
    rw [List.forall_mem_cons] at h hchain
    refine List.isChain_append.mpr ⟨hchain.1, List.isChain_cons.mpr ⟨fun c hc => ?_,
      ih h.2 hchain.2⟩, fun a ha b hb => ?_⟩
    · exact (hspace c ((trimmed_joinWords h.2).head c hc)).2
    · obtain rfl : ' ' = b := Option.some.inj hb
      exact (hspace a (h.1.solid a (List.mem_of_getLast? ha))).1

theorem inWords_joinWords (h : ∀ w ∈ ws, IsWord w) (hunder : ∀ w ∈ ws, '_' ∉ w)
    (hapart : ∀ w ∈ ws, w.IsChain Apart) : InWords (joinWords ws) where
  no_underscore hmem := by
    rcases mem_joinWords hmem with hspace | hword
    · exact absurd hspace (by decide)
    · obtain ⟨w, hw, hmem⟩ := List.mem_flatten.mp hword
      exact hunder w hw hmem
  apart := isChain_joinWords h hapart fun c _ => apart_space c
  spaces c hc hblank := by
    -- No word has a blank in it, so that the blank is one of the spaces between them.
    refine (mem_joinWords hc).resolve_right fun hword => ?_
    obtain ⟨w, hw, hmem⟩ := List.mem_flatten.mp hword
    rw [(h w hw).solid c hmem] at hblank
    exact absurd hblank Bool.false_ne_true
  single := by
    refine isChain_joinWords h (fun w hw => ?_) fun c hc =>
      ⟨Text.single_of_left hc ' ', Text.single_of_right hc ' '⟩
    exact (List.pairwise_of_forall_mem_list fun a ha b _ =>
      Text.single_of_left ((h w hw).solid a ha) b).isChain
  trimmed := trimmed_joinWords h

end

/-- A text whose blanks are spaces is its pieces with spaces between them. -/
theorem joinWords_pieces {cs : List Char} (h : ∀ c ∈ cs, isBlank c = true → c = ' ') :
    joinWords (Text.pieces cs) = cs := by
  induction cs with
  | nil => rfl
  | cons c cs ih =>
    obtain ⟨hc, hcs⟩ := List.forall_mem_cons.mp h
    cases hblank : isBlank c with
    | true =>
      rw [Text.pieces_cons_blank hblank, joinWords_cons (Text.pieces_ne_nil cs), ih hcs,
        hc hblank, List.nil_append]
    | false =>
      obtain ⟨p, ps, hpieces, hcons⟩ := Text.exists_pieces_cons hblank cs
      have hfront : joinWords ((c :: p) :: ps) = c :: joinWords (p :: ps) := by cases ps <;> rfl
      rw [hcons, hfront, ← hpieces, ih hcs]

theorem InWords.joinWords_words {cs : List Char} (h : InWords cs) :
    joinWords (Text.words cs) = cs := by
  by_cases hne : cs = []
  · rw [hne]
    rfl
  · rw [Text.words_eq_pieces hne h.trimmed h.single, joinWords_pieces h.spaces]

/-! ## Names put into words -/

theorem filter_spaced (cs : List Char) :
    (cs.map fun c => if c = '_' then ' ' else c).filter (!isBlank ·) =
      cs.filter fun c => c ≠ '_' && !isBlank c := by
  induction cs with
  | nil => rfl
  | cons c cs ih =>
    by_cases hc : c = '_'
    · simp [hc, ih]
    · simp [hc, List.filter_cons, ih]

theorem toList_humanize (s : String) : (humanize s).toList =
    joinWords (Text.words (splitCamel (s.toList.map fun c => if c = '_' then ' ' else c))) :=
  String.toList_ofList

theorem inWords_humanize (s : String) : InWords (humanize s).toList := by
  rw [toList_humanize]
  refine inWords_joinWords (fun w => Text.isWord_of_mem_words) (fun w hw hunder => ?_) fun w hw =>
    List.IsChain.infix (isChain_splitCamel _) (Text.infix_of_mem_words hw)
  -- The words together are what is left of the name, and no underscore is.
  have hmem := List.mem_flatten.mpr ⟨w, hw, hunder⟩
  rw [Text.flatten_words, filter_splitCamel, filter_spaced] at hmem
  simpa using (List.mem_filter.mp hmem).2

theorem filter_humanize (s : String) : (humanize s).toList.filter (· ≠ ' ') =
    s.toList.filter fun c => c ≠ '_' && !isBlank c := by
  rw [toList_humanize, filter_joinWords fun w => Text.isWord_of_mem_words, Text.flatten_words,
    filter_splitCamel, filter_spaced]

/-- Nothing is left of a name if there are only underscores and blanks in it. -/
theorem humanize_eq_empty_iff {s : String} :
    humanize s = "" ↔ ∀ c ∈ s.toList, c = '_' ∨ isBlank c = true := by
  rw [← String.toList_eq_nil_iff, toList_humanize,
    joinWords_eq_nil_iff fun w => Text.isWord_of_mem_words, Text.words_eq_nil_iff,
    filter_splitCamel, filter_spaced, List.filter_eq_nil_iff]
  refine forall₂_congr fun c _ => ?_
  simp [or_iff_not_imp_left]

theorem InWords.humanize_eq {s : String} (h : InWords s.toList) : humanize s = s := by
  have hspaced : (s.toList.map fun c => if c = '_' then ' ' else c) = s.toList := by
    refine (List.map_congr_left fun c hc => if_neg ?_).trans (List.map_id s.toList)
    rintro rfl
    exact h.no_underscore hc
  rw [← String.toList_inj, toList_humanize, hspaced, splitCamel_eq_self h.apart, h.joinWords_words]

/-- **Names are put into words once and for all, and nothing is lost.** Whatever the name, what
comes out is made of words; without its spaces it is the name without underscores and blanks; and
putting it into words again changes nothing. The texts that stay as they are are just those that
are made of words. -/
theorem humanize_normalizes (s : String) :
    InWords (humanize s).toList ∧
    (humanize s).toList.filter (· ≠ ' ') = (s.toList.filter fun c => c ≠ '_' && !isBlank c) ∧
    humanize (humanize s) = humanize s ∧
    (humanize s = s ↔ InWords s.toList) := by
  refine ⟨inWords_humanize s, filter_humanize s, (inWords_humanize s).humanize_eq, fun h => ?_,
    InWords.humanize_eq⟩
  rw [← h]
  exact inWords_humanize s

example : humanize "aBcD__eF" = "a Bc D e F" := by decide

end Label

end MarkerAtlas
