import MarkerAtlas.Store.Dialogue

/-!
# What a dialogue can come to

A store may answer or fail at any call, and may have changed since the call before. What is said
of a dialogue for every such store is said of all results it `Yields`. Only the listings that
succeed are asked for something: `listing f ms` says that a listing under the filter `f` may show
the markers `ms`.
-/

namespace MarkerAtlas

/-- A listing shows no marker twice, and only markers of the map that the filter asks for. -/
structure MarkerFilter.Faithful {α : Type} (f : MarkerFilter)
    (markers : List (Marker α)) : Prop where
  nodup : (markers.map (·.id)).Nodup
  onMap : ∀ map, f.map = some map → ∀ m ∈ markers, m.map = map

namespace Dialogue

variable {σ α β γ : Type} {listing : MarkerFilter → List (Marker α) → Prop}

/-- Can the dialogue come to this result, whatever the store does? -/
def Yields (listing : MarkerFilter → List (Marker α) → Prop) : Dialogue α β → β → Prop
  | done b, r => r = b
  | listMaps k, r => ∃ answer, (k answer).Yields listing r
  | listMarkers f k, r =>
    ∃ answer, (∀ ms, answer = .ok ms → listing f ms) ∧ (k answer).Yields listing r
  | setDone _ k, r => ∃ answer, (k answer).Yields listing r

@[simp] theorem yields_done (b r : β) :
    (done b : Dialogue α β).Yields listing r ↔ r = b := Iff.rfl

theorem yields_andThen (d : Dialogue α β) (f : β → Dialogue α γ) (r : γ) :
    (d.andThen f).Yields listing r ↔ ∃ b, d.Yields listing b ∧ (f b).Yields listing r := by
  induction d with
  | done b => simp [andThen]
  | listMaps k ih =>
    simp only [andThen, Yields, ih]
    exact exists_comm.trans (exists_congr fun b => exists_and_right)
  | listMarkers filter k ih =>
    simp only [andThen, Yields, ih]
    constructor
    · rintro ⟨a, ha, b, hb, hr⟩
      exact ⟨b, ⟨a, ha, hb⟩, hr⟩
    · rintro ⟨b, ⟨a, ha, hb⟩, hr⟩
      exact ⟨a, ha, b, hb, hr⟩
  | setDone command k ih =>
    simp only [andThen, Yields, ih]
    exact exists_comm.trans (exists_congr fun b => exists_and_right)

theorem yields_map (f : β → γ) (d : Dialogue α β) (r : γ) :
    (d.map f).Yields listing r ↔ ∃ b, d.Yields listing b ∧ r = f b := by
  simp only [Dialogue.map, yields_andThen, yields_done]

theorem map_map (d : Dialogue α β) (f : β → γ) {δ : Type} (g : γ → δ) :
    (d.map f).map g = d.map (g ∘ f) := by
  unfold Dialogue.map
  induction d with
  | done b => rfl
  | listMaps k ih => exact congrArg listMaps (funext ih)
  | listMarkers filter k ih => exact congrArg (listMarkers filter) (funext ih)
  | setDone command k ih => exact congrArg (setDone command) (funext ih)

/-- What a run on a store comes to is among the results, if the store lists as it should in every
state. -/
theorem yields_run (store : Store σ α) (d : Dialogue α β) (s : σ)
    (h : ∀ s f ms, store.markers s f = .ok ms → listing f ms) :
    d.Yields listing (d.run store s).2 := by
  induction d generalizing s with
  | done b => rfl
  | listMaps k ih => exact ⟨_, ih _ s⟩
  | listMarkers filter k ih => exact ⟨_, h s filter, ih _ s⟩
  | setDone command k ih =>
    simp only [run]
    cases store.setDone s command with
    | error e => exact ⟨.error e, ih _ s⟩
    | ok s' => exact ⟨.ok (), ih _ s'⟩

end Dialogue

end MarkerAtlas
