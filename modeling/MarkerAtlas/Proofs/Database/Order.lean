import Mathlib.Data.Prod.Lex
import Mathlib.Data.String.Basic
import MarkerAtlas.Database.Listing

/-!
# The orders of listings, backups and the catalog

Each of the three orders compares its rows by a key. Rows with different keys can be sorted in one
way only, whatever their order was before.
-/

namespace MarkerAtlas

/-! ## Sorting by a key -/

/-- The order compares by a key. -/
def SortsBy {α κ : Type} [LinearOrder κ] (key : α → κ) (le : α → α → Bool) : Prop :=
  ∀ a b, le a b = true ↔ key a ≤ key b

namespace SortsBy

variable {α κ : Type} [LinearOrder κ] {key : α → κ} {le : α → α → Bool} (h : SortsBy key le)
include h

theorem pairwise_mergeSort (l : List α) : (l.mergeSort le).Pairwise fun a b => le a b = true := by
  refine List.pairwise_mergeSort (fun a b c hab hbc => ?_) (fun a b => ?_) l
  · exact (h a c).mpr (((h a b).mp hab).trans ((h b c).mp hbc))
  · rw [Bool.or_eq_true, h a b, h b a]
    exact le_total _ _

/-- Rows with different keys are sorted in one way. -/
theorem mergeSort_eq_of_perm {l l' : List α} (hkey : ∀ a ∈ l, ∀ b ∈ l, key a = key b → a = b)
    (hperm : l.Perm l') : l.mergeSort le = l'.mergeSort le := by
  have hsorted : (l.mergeSort le).Perm (l'.mergeSort le) :=
    (List.mergeSort_perm l le).trans (hperm.trans (List.mergeSort_perm l' le).symm)
  refine hsorted.eq_of_pairwise (fun a b ha hb hab hba => ?_) (h.pairwise_mergeSort l)
    (h.pairwise_mergeSort l')
  -- Two rows that each come no later than the other have one key.
  refine hkey a (List.mem_mergeSort.mp ha) b (hperm.mem_iff.mpr (List.mem_mergeSort.mp hb)) ?_
  exact le_antisymm ((h a b).mp hab) ((h b a).mp hba)

/-- Rows with different keys can be picked before or after they are sorted. -/
theorem filter_mergeSort {l : List α} (hkey : ∀ a ∈ l, ∀ b ∈ l, key a = key b → a = b)
    (p : α → Bool) : (l.mergeSort le).filter p = (l.filter p).mergeSort le := by
  have hsorted : ((l.mergeSort le).filter p).Pairwise fun a b => le a b = true :=
    (h.pairwise_mergeSort l).filter p
  have hperm : ((l.mergeSort le).filter p).Perm (l.filter p) := (List.mergeSort_perm l le).filter p
  have hmem : ∀ a ∈ (l.mergeSort le).filter p, a ∈ l := by
    intro a ha
    exact List.mem_mergeSort.mp (List.mem_filter.mp ha).1
  calc (l.mergeSort le).filter p
      = ((l.mergeSort le).filter p).mergeSort le := (List.mergeSort_of_pairwise hsorted).symm
    _ = (l.filter p).mergeSort le :=
        h.mergeSort_eq_of_perm (fun a ha b hb => hkey a (hmem a ha) b (hmem b hb)) hperm

end SortsBy

/-! ## The three orders -/

/-- What markers are listed by. -/
def StoredMarker.sortKey (m : StoredMarker) : String ×ₗ String ×ₗ String ×ₗ String :=
  toLex (m.map, toLex (m.region.getD "", toLex (m.name, m.id)))

theorem StoredMarker.sortsBy_sortKey : SortsBy sortKey comesBefore := by
  intro a b
  simp only [comesBefore, sortKey, Prod.Lex.toLex_le_toLex]
  -- The first of map, region and name that differs decides, and the id if none does.
  by_cases hmap : a.map = b.map
  · by_cases hregion : a.region.getD "" = b.region.getD ""
    · by_cases hname : a.name = b.name
      · simp only [hmap, hregion, hname, ne_eq, not_true, if_false, decide_eq_true_eq, lt_irrefl,
          false_or, true_and]
      · simp only [hmap, hregion, hname, ne_eq, not_true, not_false_eq_true, if_false, if_true,
          decide_eq_true_eq, lt_irrefl, false_or, true_and, false_and, or_false]
    · simp only [hmap, hregion, ne_eq, not_true, not_false_eq_true, if_false, if_true,
        decide_eq_true_eq, lt_irrefl, false_or, true_and, false_and, or_false]
  · simp only [hmap, ne_eq, not_false_eq_true, if_true, decide_eq_true_eq, false_and, or_false]

theorem StoredMarker.id_eq_of_sortKey_eq {a b : StoredMarker} (h : a.sortKey = b.sortKey) :
    a.id = b.id := by
  simp only [sortKey, EmbeddingLike.apply_eq_iff_eq, Prod.mk.injEq] at h
  exact h.2.2.2

/-- What flags are backed up by. -/
def DoneFlag.sortKey (f : DoneFlag) : Nat ×ₗ String ×ₗ String :=
  toLex (if f.owner.scope = .account then 0 else 1, toLex (f.owner.name, f.markerId))

theorem DoneFlag.sortsBy_sortKey : SortsBy sortKey comesBefore := by
  intro a b
  simp only [comesBefore, sortKey, Prod.Lex.toLex_le_toLex]
  by_cases hscope : a.owner.scope = b.owner.scope
  · by_cases hname : a.owner.name = b.owner.name
    · simp only [hscope, hname, ne_eq, not_true, if_false, decide_eq_true_eq, lt_irrefl,
        false_or, true_and]
    · simp only [hscope, hname, ne_eq, not_true, not_false_eq_true, if_false, if_true,
        decide_eq_true_eq, lt_irrefl, false_or, true_and, false_and, or_false]
  · cases ha : a.owner.scope <;> cases hb : b.owner.scope
    · exact absurd (ha.trans hb.symm) hscope
    · simp
    · simp
    · exact absurd (ha.trans hb.symm) hscope

theorem DoneFlag.eq_of_sortKey_eq {a b : DoneFlag} (h : a.sortKey = b.sortKey) :
    a.owner = b.owner ∧ a.markerId = b.markerId := by
  obtain ⟨⟨scope, name⟩, id, time⟩ := a
  obtain ⟨⟨scope', name'⟩, id', time'⟩ := b
  simp only [sortKey, EmbeddingLike.apply_eq_iff_eq, Prod.mk.injEq] at h
  obtain ⟨hscope, rfl, rfl⟩ := h
  have hscope : scope = scope' := by cases scope <;> cases scope' <;> simp_all
  exact ⟨by rw [hscope], rfl⟩

/-- What maps are catalogued by. -/
def MapMeta.sortKey (m : MapMeta) : Int ×ₗ String := toLex (m.order.toInt, m.name)

theorem MapMeta.sortsBy_sortKey : SortsBy sortKey comesBefore := by
  intro a b
  simp only [comesBefore, sortKey, Prod.Lex.toLex_le_toLex]
  by_cases horder : a.order = b.order
  · simp only [horder, if_true, decide_eq_true_eq, lt_irrefl, false_or, true_and]
  · have hne : a.order.toInt ≠ b.order.toInt := fun h => horder (Int64.toInt_inj.mp h)
    simp only [horder, if_false, decide_eq_true_eq, hne, false_and, or_false,
      Int64.le_iff_toInt_le]
    omega

theorem MapMeta.name_eq_of_sortKey_eq {a b : MapMeta} (h : a.sortKey = b.sortKey) :
    a.name = b.name := by
  simp only [sortKey, EmbeddingLike.apply_eq_iff_eq, Prod.mk.injEq] at h
  exact h.2

end MarkerAtlas
