import MarkerAtlas.Database.Listing

/-!
# What a query takes

What is unknown in a condition never lets a row through, so that a condition of a query may be read
as an ordinary disjunction. So read, the conditions of a listing say which map, which kind and which
factions a filter asks for.
-/

namespace MarkerAtlas

namespace Condition

@[simp] theorem holds_isNull (a : Option String) : (isNull a).holds = a.isNone := by
  cases a <;> rfl

@[simp] theorem holds_equal_some (a b : String) :
    (equal (some a) (some b)).holds = true ↔ a = b := by
  simp [equal, holds]

@[simp] theorem holds_or (a b : Condition) : (a.or b).holds = (a.holds || b.holds) := by
  rcases a with _ | _ | _ <;> rcases b with _ | _ | _ <;> rfl

end Condition

/-- No two kinds have one name. -/
theorem MarkerKind.name_inj {a b : MarkerKind} : a.name = b.name ↔ a = b := by
  cases a <;> cases b <;> decide

/-- No two factions have one name. -/
theorem Faction.name_inj {a b : Faction} : a.name = b.name ↔ a = b := by
  cases a <;> cases b <;> decide

namespace StoredMarker

variable (m : StoredMarker)

theorem holds_onMap_iff (wanted : Option String) :
    (m.onMap wanted).holds = true ↔ ∀ map, wanted = some map → m.map = map := by
  cases wanted with
  | none => simp [onMap]
  | some map => simp [onMap]

theorem holds_ofKind_iff (wanted : Option MarkerKind) :
    (m.ofKind wanted).holds = true ↔ ∀ kind, wanted = some kind → m.kind = kind := by
  cases wanted with
  | none => simp [ofKind]
  | some kind => simp [ofKind, MarkerKind.name_inj]

/-- A marker without faction belongs to every faction, and so does one for both. -/
theorem holds_ofFaction_iff (wanted : Option Faction) :
    (m.ofFaction wanted).holds = true ↔ ∀ faction, wanted = some faction →
      m.faction = none ∨ m.faction = some .both ∨ m.faction = some faction := by
  cases wanted with
  | none => simp [ofFaction]
  | some wanted =>
    cases hm : m.faction with
    | none => simp [ofFaction, hm]
    | some own =>
      have hboth : own.name = "BOTH" ↔ own = .both := Faction.name_inj (b := .both)
      simp [ofFaction, hm, hboth, Faction.name_inj]

/-- The row of a marker is taken if it has the map, the kind and one of the factions that the filter
asks for, as far as it asks for them. -/
theorem meets_iff (f : MarkerFilter) :
    m.meets f = true ↔ (∀ map, f.map = some map → m.map = map) ∧
      (∀ kind, f.kind = some kind → m.kind = kind) ∧
      ∀ faction, f.faction = some faction →
        m.faction = none ∨ m.faction = some .both ∨ m.faction = some faction := by
  rw [meets, Bool.and_eq_true, Bool.and_eq_true, holds_onMap_iff, holds_ofKind_iff,
    holds_ofFaction_iff, and_assoc]

end StoredMarker

/-- A listing has the rows that the query takes, each with the owner's flag. -/
theorem Database.mem_listFor_iff {db : Database} {owner : Owner} {f : MarkerFilter}
    {m : Marker Float} :
    m ∈ db.listFor owner f ↔ ∃ s ∈ db.sortedMarkers, s.meets f = true ∧
      s.found f.searchText = true ∧ (f.onlyRemaining = true → db.isDone owner s.id = false) ∧
      m = s.toMarker (db.isDone owner s.id) := by
  simp only [listFor, List.mem_map, List.mem_filter, Bool.and_eq_true, Bool.or_eq_true,
    Bool.not_eq_true']
  constructor
  · rintro ⟨s, ⟨hs, ⟨hmeets, hfound⟩, hleft⟩, rfl⟩
    exact ⟨s, hs, hmeets, hfound, fun honly => by simpa [honly] using hleft, rfl⟩
  · rintro ⟨s, hs, hmeets, hfound, hleft, rfl⟩
    refine ⟨s, ⟨hs, ⟨hmeets, hfound⟩, ?_⟩, rfl⟩
    cases honly : f.onlyRemaining with
    | false => exact .inl rfl
    | true => exact .inr (hleft honly)

end MarkerAtlas
