import Mathlib.Data.List.Nodup
import Mathlib.Data.List.Induction

/-!
# Lists without repetitions

`eraseDups` keeps of every value its first occurrence. Cutting a list by a key into the parts that
share one therefore loses nothing, and gives the parts in the order of their first members.
-/

namespace MarkerAtlas

section
variable {α : Type} [BEq α] [LawfulBEq α]

theorem nodup_eraseDups (l : List α) : l.eraseDups.Nodup := by
  match l with
  | [] => exact List.nodup_nil
  | a :: as =>
    rw [List.eraseDups_cons, List.nodup_cons, List.mem_eraseDups]
    refine ⟨fun hmem => ?_, nodup_eraseDups _⟩
    simp at hmem
termination_by l.length
decreasing_by exact Nat.lt_succ_of_le (List.length_filter_le _ as)

theorem eraseDups_perm {l l' : List α} (h : l.Perm l') : l.eraseDups.Perm l'.eraseDups := by
  refine (List.perm_ext_iff_of_nodup (nodup_eraseDups l) (nodup_eraseDups l')).mpr fun a => ?_
  rw [List.mem_eraseDups, List.mem_eraseDups]
  exact h.mem_iff

/-- A value at the end is kept if it is new. -/
theorem eraseDups_concat_of_mem {l : List α} {a : α} (h : a ∈ l) :
    (l ++ [a]).eraseDups = l.eraseDups := by
  simp [List.eraseDups_append, List.removeAll, h]

theorem eraseDups_concat_of_notMem {l : List α} {a : α} (h : a ∉ l) :
    (l ++ [a]).eraseDups = l.eraseDups ++ [a] := by
  simp [List.eraseDups_append, List.removeAll, List.eraseDups_cons, h]

/-- What is made of the values that occur once is the same with and without repetitions. -/
theorem filterMap_eraseDups {β : Type} {f : α → Option β} {l : List α}
    (h : ∀ a, 1 < l.count a → f a = none) : l.eraseDups.filterMap f = l.filterMap f := by
  induction l using List.reverseRecOn with
  | nil => rfl
  | append_singleton l a ih =>
    have hrest : l.eraseDups.filterMap f = l.filterMap f := by
      refine ih fun b hb => h b ?_
      rw [List.count_append]
      exact Nat.lt_add_right _ hb
    by_cases ha : a ∈ l
    · -- A second occurrence, so that nothing is made of the value.
      have hnone : f a = none := by
        refine h a ?_
        rw [List.count_append, List.count_singleton_self]
        exact Nat.lt_add_of_pos_left (List.count_pos_iff.mpr ha)
      rw [eraseDups_concat_of_mem ha, hrest, List.filterMap_append]
      simp [hnone]
    · rw [eraseDups_concat_of_notMem ha, List.filterMap_append, List.filterMap_append, hrest]

end

theorem filterMap_eq_flatMap_filter {α β : Type} {f : α → Option β} {g : α → List β}
    {p : α → Bool} {l : List α} (h : ∀ a ∈ l, (f a).toList = if p a = true then g a else []) :
    l.filterMap f = (l.filter p).flatMap g := by
  induction l with
  | nil => rfl
  | cons a l ih =>
    have hhead := h a List.mem_cons_self
    have htail := ih fun b hb => h b (List.mem_cons_of_mem a hb)
    rw [List.filterMap_eq_flatMap_toList] at htail ⊢
    rw [List.flatMap_cons, hhead, htail, List.filter_cons]
    split <;> rfl

/-- The parts of a list that have one of some keys make up what has any of them. -/
theorem flatMap_filter_perm {α κ : Type} [DecidableEq κ] (key : α → Option κ) (l : List α)
    {ks : List κ} (hnd : ks.Nodup) :
    (ks.flatMap fun k => l.filter fun a => key a = some k).Perm
      (l.filter fun a => ∃ k ∈ ks, key a = some k) := by
  induction ks with
  | nil => simp
  | cons k ks ih =>
    obtain ⟨hk, hks⟩ := List.nodup_cons.mp hnd
    have hsplit := List.filter_append_perm (fun a => key a = some k)
      (l.filter fun a => ∃ k' ∈ k :: ks, key a = some k')
    have hhead : (l.filter fun a => ∃ k' ∈ k :: ks, key a = some k').filter
        (fun a => key a = some k) = l.filter fun a => key a = some k := by
      rw [List.filter_filter]
      refine List.filter_congr fun a _ => ?_
      by_cases ha : key a = some k <;> simp [ha]
    have htail : (l.filter fun a => ∃ k' ∈ k :: ks, key a = some k').filter
        (fun a => !decide (key a = some k)) = l.filter fun a => ∃ k' ∈ ks, key a = some k' := by
      rw [List.filter_filter]
      refine List.filter_congr fun a _ => ?_
      by_cases ha : key a = some k
      · -- The first key is none of the others.
        simp [ha, hk]
      · simp [ha]
    rw [List.flatMap_cons]
    rw [hhead, htail] at hsplit
    exact ((ih hks).append_left _).trans hsplit

end MarkerAtlas
