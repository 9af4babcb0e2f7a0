import Mathlib.Data.List.Find
import Mathlib.Data.List.Perm.Basic
import MarkerAtlas.Proofs.Yaml.Alias
import MarkerAtlas.Settings.Document

/-!
# Which settings a document gives

Settings that are taken from a text have no fault, whatever the text is, and a blank text gives the
default ones. A section gives each of its entries once, and no known name twice, so that it does not
matter in which order the entries stand.
-/

namespace MarkerAtlas.Settings

open Yaml

/-! ## Texts -/

theorem faultless_standard : (standard : Settings Float).fault? = none := by decide +kernel

/-- **What is accepted has no fault.** A text gives settings exactly if it is blank, and then the
default ones, or if it is a document of settings that have no fault. -/
theorem ofText_eq_ok_iff {text : String} {s : Settings Float} :
    ofText text = .ok s ↔ s.fault? = none ∧
      ((Text.trim text = "" ∧ s = standard) ∨
        Text.trim text ≠ "" ∧ ∃ d, Document.ofText? text = some d ∧ ofDocument? d = some s) := by
  by_cases hblank : Text.trim text = ""
  · have hstandard : ofText text = .ok standard := by
      rw [ofText, hblank]
      rfl
    rw [hstandard]
    constructor
    · rintro ⟨⟩
      exact ⟨faultless_standard, .inl ⟨hblank, rfl⟩⟩
    · rintro ⟨-, ⟨-, rfl⟩ | ⟨hne, -⟩⟩
      · rfl
      · exact absurd hblank hne
  · have hread : (Text.trim text).isEmpty = false := by
      rw [Bool.eq_false_iff]
      exact mt String.isEmpty_iff.mp hblank
    simp only [ofText, hread, Bool.false_eq_true, if_false, hblank, false_and, false_or, ne_eq,
      not_false_eq_true, true_and]
    rw [← Option.bind_eq_some_iff]
    cases hdocument : (Document.ofText? text).bind ofDocument? with
    | none => simp
    | some t =>
      cases hfault : t.fault? with
      | some f =>
        simp only [hfault, Option.some.injEq]
        constructor
        · rintro ⟨⟩
        · rintro ⟨hnone, rfl⟩
          rw [hfault] at hnone
          cases hnone
      | none =>
        simp only [hfault, Option.some.injEq, Except.ok.injEq]
        exact ⟨fun h => ⟨h ▸ hfault, h⟩, fun h => h.2⟩

/-! ## Sections -/

section
variable {α β : Type} {f : α → Option β}

theorem mapM_eq_some_iff {as : List α} {bs : List β} :
    as.mapM f = some bs ↔ List.Forall₂ (fun a b => f a = some b) as bs := by
  induction as generalizing bs with
  | nil => cases bs <;> simp
  | cons a as ih =>
    cases bs with
    | nil => simp [List.mapM_cons, Option.bind_eq_some_iff]
    | cons b bs => simp [List.mapM_cons, Option.bind_eq_some_iff, ih]

/-- What is made of some values one by one is made of them in another order, too. -/
theorem exists_mapM_of_perm {as as' : List α} (h : as.Perm as') {bs : List β}
    (hbs : as.mapM f = some bs) : ∃ bs', as'.mapM f = some bs' ∧ bs'.Perm bs := by
  obtain ⟨bs', hbs', hperm⟩ := List.perm_comp_forall₂ h.symm (mapM_eq_some_iff.mp hbs)
  exact ⟨bs', mapM_eq_some_iff.mpr hbs', hperm⟩

end

variable {d : Document} {known : List String} {entries entries' : List (Node × Node)}

/-- In a document that was read, an entry is refused only for a name that is no scalar, and never
for an alias without a node. -/
theorem isSome_namedEntry_iff (hd : d.Closed) {entry : Node × Node}
    (hvalue : entry.2.RefersTo d.numbers) :
    (namedEntry d entry).isSome = true ↔
      ∃ text style tag, d.resolve entry.1 = some (.scalar text style tag) := by
  obtain ⟨value, hresolved, -⟩ := hd.resolve hvalue
  unfold namedEntry
  rw [hresolved]
  cases d.resolve entry.1 with
  | none => simp
  | some key => cases key <;> simp

/-- The entries of a section that is a mapping: all of them have a name, and no known one twice. -/
theorem sectionOf_mapping_eq_some_iff {named : List (String × Node)} :
    sectionOf d known (.mapping entries) = some named ↔
      entries.mapM (namedEntry d) = some named ∧
        ∀ name ∈ known, named.countP (·.1 == name) ≤ 1 := by
  have hentries : sectionOf d known (.mapping entries) =
      (entries.mapM (namedEntry d)).bind fun named =>
        if known.all fun name => named.countP (·.1 == name) ≤ 1 then some named else none := rfl
  rw [hentries, Option.bind_eq_some_iff]
  constructor
  · rintro ⟨named', hnamed, honce⟩
    split at honce
    · next hall =>
      cases honce
      exact ⟨hnamed, by simpa using hall⟩
    · cases honce
  · rintro ⟨hnamed, honce⟩
    exact ⟨named, hnamed, if_pos (by simpa using honce)⟩

/-- A name that is there at most once is found in any order. -/
theorem find?_eq_of_perm {named named' : List (String × Node)} (h : named.Perm named')
    {name : String} (honce : named.countP (·.1 == name) ≤ 1) :
    named.find? (·.1 == name) = named'.find? (·.1 == name) := by
  have hsame := h.filter (·.1 == name)
  rw [List.countP_eq_length_filter] at honce
  rw [← List.head?_filter, ← List.head?_filter]
  cases hfound : named.filter (·.1 == name) with
  | nil =>
    rw [hfound] at hsame
    rw [hsame.nil_eq]
  | cons entry others =>
    rw [hfound] at hsame honce
    obtain rfl : others = [] :=
      List.length_eq_zero_iff.mp (Nat.le_zero.mp (Nat.le_of_succ_le_succ honce))
    rw [List.perm_singleton.mp hsame.symm]

/-- What is made of the known entries of a section does not hang on their order. -/
theorem bind_sectionOf_perm {β : Type} (h : entries.Perm entries')
    {body : List (String × Node) → Option β}
    (hbody : ∀ s s' : List (String × Node),
      (∀ name ∈ known, s.find? (·.1 == name) = s'.find? (·.1 == name)) → body s = body s') :
    (sectionOf d known (.mapping entries)).bind body =
      (sectionOf d known (.mapping entries')).bind body := by
  have hsome : ∀ {es es' : List (Node × Node)} {s}, es.Perm es' →
      sectionOf d known (.mapping es) = some s → ∃ s', s'.Perm s ∧
        sectionOf d known (.mapping es') = some s' ∧
          ∀ name ∈ known, s.countP (·.1 == name) ≤ 1 := by
    intro es es' s hes hs
    obtain ⟨hnamed, honce⟩ := sectionOf_mapping_eq_some_iff.mp hs
    obtain ⟨s', hs', hperm⟩ := exists_mapM_of_perm hes hnamed
    refine ⟨s', hperm, sectionOf_mapping_eq_some_iff.mpr ⟨hs', fun name hname => ?_⟩, honce⟩
    rw [hperm.countP_eq]
    exact honce name hname
  cases hs : sectionOf d known (.mapping entries) with
  | some s =>
    obtain ⟨s', hperm, hs', honce⟩ := hsome h hs
    rw [hs']
    exact hbody s s' fun name hname => find?_eq_of_perm hperm.symm (honce name hname)
  | none =>
    cases hs' : sectionOf d known (.mapping entries') with
    | none => rfl
    | some s' =>
      obtain ⟨s, -, hs'', -⟩ := hsome h.symm hs'
      rw [hs''] at hs
      cases hs

/-- **The order of entries leaves no trace**, neither that of the sections nor that of the settings
in one of them. -/
theorem readers_perm (h : entries.Perm entries') (anchors : List (Nat × Node)) :
    ofDocument? ⟨.mapping entries, anchors⟩ = ofDocument? ⟨.mapping entries', anchors⟩ ∧
      readViewport d (.mapping entries) = readViewport d (.mapping entries') ∧
      readCull d (.mapping entries) = readCull d (.mapping entries') ∧
      readCluster d (.mapping entries) = readCluster d (.mapping entries') ∧
      readRoute d (.mapping entries) = readRoute d (.mapping entries') := by
  refine ⟨?_, ?_, ?_, ?_, ?_⟩
  · -- The nodes that are referred to are looked up among the anchors, not in the root.
    refine bind_sectionOf_perm (d := ⟨.empty, anchors⟩) h fun s s' hs => ?_
    simp (disch := decide) only [setting, hs]
  · refine bind_sectionOf_perm h fun s s' hs => ?_
    simp (disch := decide) only [setting, hs]
  · refine bind_sectionOf_perm h fun s s' hs => ?_
    simp (disch := decide) only [setting, hs]
  · refine bind_sectionOf_perm h fun s s' hs => ?_
    simp (disch := decide) only [setting, hs]
  · refine bind_sectionOf_perm h fun s s' hs => ?_
    simp (disch := decide) only [setting, hs]

end MarkerAtlas.Settings
