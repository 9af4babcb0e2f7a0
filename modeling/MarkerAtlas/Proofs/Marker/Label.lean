import MarkerAtlas.Proofs.Marker.Wording
import MarkerAtlas.Proofs.Route.Walk
import MarkerAtlas.Scalar.Double

/-!
# What labels look like

A label is trimmed, whatever the name of the marker is. It is blank only for a name of underscores:
such a name is not empty, but putting it into words leaves nothing of it.
-/

namespace MarkerAtlas

open Text (isBlank)

namespace Label

/-! ## The ways to a label -/

/-- A name of underscores only, whatever blanks are around them. -/
def IsUnderscores (name : String) : Prop :=
  Text.trim name ≠ "" ∧ ∀ c ∈ (Text.trim name).toList, c = '_'

theorem not_isUnderscores_of_mem {name : String} {c : Char} (h : c ∈ (Text.trim name).toList)
    (hc : c ≠ '_') : ¬IsUnderscores name := fun hall => hc (hall.2 c h)

theorem isBlank_of_isTokenChar {c : Char} (h : isTokenChar c = true) : isBlank c = false := by
  refine Text.isBlank_of_visible ?_
  simp only [isTokenChar, isSmall, isCapital, Text.isDigit, Bool.or_eq_true, Bool.and_eq_true,
    decide_eq_true_eq] at h
  rcases h with ((((h | h) | h) | rfl) | rfl) | rfl
  · obtain ⟨hlow, hhigh⟩ : 97 ≤ c.toNat ∧ c.toNat ≤ 122 := h
    omega
  · obtain ⟨hlow, hhigh⟩ : 65 ≤ c.toNat ∧ c.toNat ≤ 90 := h
    omega
  · obtain ⟨hlow, hhigh⟩ : 48 ≤ c.toNat ∧ c.toNat ≤ 57 := h
    omega
  · decide
  · decide
  · decide

/-- Is it a text to show for the name: trimmed, and blank for underscores only? -/
structure Suits (name label : String) : Prop where
  trimmed : Text.trim label = label
  blank_iff : label = "" ↔ IsUnderscores name

variable {name : String}

theorem suits_kind (h : ¬IsUnderscores name) (k : MarkerKind) : Suits name k.label := by
  cases k <;> exact ⟨by decide, iff_of_false (by decide) h⟩

theorem suits_name (hname : Text.trim name ≠ "") (h : ¬IsUnderscores name) :
    Suits name (Text.trim name) := ⟨Text.trim_trim name, iff_of_false hname h⟩

/-- A number behind other text ends the label with a digit. -/
theorem suits_numbered (hname : Text.trim name ≠ "")
    (hdigits : ∀ c ∈ (Text.trim name).toList, Text.isDigit c = true) :
    Suits name (MarkerKind.label .material ++ " #" ++ Text.trim name) := by
  have hne : (Text.trim name).toList ≠ [] := mt String.toList_eq_nil_iff.mp hname
  obtain ⟨c, hc⟩ := List.exists_mem_of_ne_nil _ hne
  have hdigit : c ≠ '_' := by
    rintro rfl
    exact absurd (hdigits _ hc) (by decide)
  have htext : (MarkerKind.label .material ++ " #" ++ Text.trim name).toList =
      "Monolith Material #".toList ++ (Text.trim name).toList := by
    rw [String.toList_append]
    rfl
  refine ⟨Text.trim_eq_of_trimmed ?_, iff_of_false (fun hempty => ?_) ?_⟩
  · rw [htext]
    refine ⟨fun d hd => ?_, fun d hd => ?_⟩
    · obtain rfl : 'M' = d := Option.some.inj hd
      decide
    · rw [List.getLast?_append_of_ne_nil _ hne] at hd
      exact isBlank_of_isTokenChar (by simp [isTokenChar, hdigits d (List.mem_of_getLast? hd)])
  · rw [← String.toList_eq_nil_iff, htext] at hempty
    exact hne (List.append_eq_nil_iff.mp hempty).2
  · exact not_isUnderscores_of_mem hc hdigit

/-- A name that a program gave has no blanks, so that only underscores leave nothing of it. -/
theorem suits_humanize (h : isToken (Text.trim name) = true) :
    Suits name (humanize (Text.trim name)) := by
  obtain ⟨hname, htoken⟩ : Text.trim name ≠ "" ∧ ∀ c ∈ (Text.trim name).toList,
      isTokenChar c = true := by simpa [isToken] using h
  refine ⟨Text.trim_eq_of_trimmed (inWords_humanize _).trimmed, ?_⟩
  rw [humanize_eq_empty_iff, IsUnderscores, and_iff_right hname]
  refine forall₂_congr fun c hc => or_iff_left ?_
  rw [isBlank_of_isTokenChar (htoken c hc)]
  exact Bool.false_ne_true

theorem isToken_of_isUnderscores (h : IsUnderscores name) : isToken (Text.trim name) = true := by
  obtain ⟨hname, hall⟩ := h
  simp only [isToken, Bool.and_eq_true, List.all_eq_true]
  refine ⟨by simpa using hname, fun c hc => ?_⟩
  rw [hall c hc]
  decide

end Label

section
variable {α : Type}

open Label in
theorem Marker.suits_label (m : Marker α) : Suits m.name m.label := by
  unfold Marker.label
  extract_lets name
  split
  · next hempty =>
    have hname : Text.trim m.name = "" := by simpa using hempty
    exact suits_kind (fun h => h.1 hname) m.kind
  next hnonempty =>
  have hname : Text.trim m.name ≠ "" := by simpa using hnonempty
  split
  · next hsynced =>
    -- The prefix is not made of underscores.
    have hbegins : syncedPrefix.toList <+: name.toList := List.isPrefixOf_iff_prefix.mp hsynced
    have hother := not_isUnderscores_of_mem (hbegins.subset (by decide : 'a' ∈ _)) (by decide)
    split
    · exact suits_name hname hother
    · exact suits_kind hother _
  · split
    · next hnumber => exact suits_numbered hname (List.all_eq_true.mp hnumber.2)
    · split
      · next htoken => exact suits_humanize htoken
      · -- A name of underscores would have been taken for one that a program gave.
        next hother => exact suits_name hname (mt isToken_of_isUnderscores hother)

variable [Scalar α]

/-- Each step of a route is shown with the label of a marker. -/
theorem Walk.exists_labeled {w : Walk α} {markers : List (Marker α)} {step : RouteStep α}
    (h : step ∈ (w.view markers).steps) :
    ∃ m ∈ markers, m.id = step.id ∧ step.name = m.label := by
  unfold Walk.view at h
  split at h
  · cases h
  · obtain ⟨⟨id, index⟩, -, hstep⟩ := List.mem_filterMap.mp h
    simp only [stepView, Option.bind_eq_bind, Option.bind_eq_some_iff] at hstep
    obtain ⟨m, hm, p, -, hstep⟩ := hstep
    obtain rfl := Option.some.inj hstep
    exact ⟨m, (of_lastMarker hm).1, rfl, rfl⟩

/-- **Labels are trimmed, and blank for underscores only.** Whatever a marker is called and of
whatever kind it is, its label has no blank at either end, and it is empty exactly if the name is
made of underscores. So is every step of every route that is shown. -/
theorem Marker.blank_label_iff :
    (∀ m : Marker α, Text.trim m.label = m.label ∧
      (m.label = "" ↔ Label.IsUnderscores m.name)) ∧
    ∀ (w : Walk α) (markers : List (Marker α)), ∀ step ∈ (w.view markers).steps,
      Text.trim step.name = step.name ∧
        ∃ m ∈ markers, m.id = step.id ∧ (step.name = "" ↔ Label.IsUnderscores m.name) := by
  refine ⟨fun m => ⟨m.suits_label.trimmed, m.suits_label.blank_iff⟩, fun w markers step hstep => ?_⟩
  obtain ⟨m, hm, hid, hname⟩ := Walk.exists_labeled hstep
  rw [hname]
  exact ⟨m.suits_label.trimmed, m, hm, hid, m.suits_label.blank_iff⟩

end

/-- A trace with a name of one underscore has a blank label, and is a blank step of its route. -/
theorem Marker.underscore_shown_blank :
    ∃ (m : Marker Float) (w : Walk Float), m.kind = .trace ∧ m.name = "_" ∧ m.label = "" ∧
      (w.view [m]).steps.map (·.name) = [""] ∧ ¬∀ n : Marker Float, n.label ≠ "" := by
  let m : Marker Float := ⟨"a", .trace, none, "Poeta", none, "_", none, some 1, some 2, none, false⟩
  let w : Walk Float := ⟨some ⟨⟨0, 0⟩, none, ["a"], false, 0⟩, 0, none⟩
  have hblank : m.label = "" := by decide +kernel
  exact ⟨m, w, rfl, rfl, hblank, by decide +kernel, fun h => h m hblank⟩

end MarkerAtlas
