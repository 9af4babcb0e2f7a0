import MarkerAtlas.Marker.Filter
import MarkerAtlas.Map.Basic
import MarkerAtlas.Progress.Basic
import MarkerAtlas.Store.Failure

/-!
# Talking to a store

A map view needs three things of a store: the markers that a filter admits, the maps there are,
and the setting of done flags. What the view does with the answers is a `Dialogue`: a tree of
calls, each with what follows on every answer. It can be run on a store, and it can be studied
for all answers that a store might give, failures among them.
-/

namespace MarkerAtlas

/-- The answer of a store: what was asked for, or why there is no answer. -/
abbrev Answer (β : Type) := Except StoreFailure β

/-- Calls to a store up to a result of type `β`. -/
inductive Dialogue (α β : Type) where
  | done (result : β)
  | listMaps (resume : Answer (List MapMeta) → Dialogue α β)
  | listMarkers (filter : MarkerFilter) (resume : Answer (List (Marker α)) → Dialogue α β)
  | setDone (command : SetDone) (resume : Answer Unit → Dialogue α β)

/-- A store with states of type `σ`. -/
structure Store (σ α : Type) where
  maps : σ → Answer (List MapMeta)
  markers : σ → MarkerFilter → Answer (List (Marker α))
  setDone : σ → SetDone → Answer σ

namespace Dialogue

variable {σ α β γ : Type}

/-- Goes on with the result. -/
def andThen : Dialogue α β → (β → Dialogue α γ) → Dialogue α γ
  | done b, f => f b
  | listMaps k, f => listMaps fun a => (k a).andThen f
  | listMarkers filter k, f => listMarkers filter fun a => (k a).andThen f
  | setDone command k, f => setDone command fun a => (k a).andThen f

/-- The same calls with another result. -/
def map (f : β → γ) (d : Dialogue α β) : Dialogue α γ := d.andThen fun b => done (f b)

/-- Runs the calls on a store: its state afterwards, and the result. A call that fails leaves
the store as it is. -/
def run (store : Store σ α) : Dialogue α β → σ → σ × β
  | done b, s => (s, b)
  | listMaps k, s => (k (store.maps s)).run store s
  | listMarkers filter k, s => (k (store.markers s filter)).run store s
  | setDone command k, s =>
    match store.setDone s command with
    | .error e => (k (.error e)).run store s
    | .ok s => (k (.ok ())).run store s

@[simp] theorem run_done (store : Store σ α) (b : β) (s : σ) :
    (done b : Dialogue α β).run store s = (s, b) := rfl

theorem run_andThen (store : Store σ α) (d : Dialogue α β) (f : β → Dialogue α γ) (s : σ) :
    (d.andThen f).run store s = (f (d.run store s).2).run store (d.run store s).1 := by
  induction d generalizing s with
  | done b => rfl
  | listMaps k ih => exact ih _ _
  | listMarkers filter k ih => exact ih _ _
  | setDone command k ih =>
    simp only [andThen, run]
    cases store.setDone s command with
    | error e => exact ih _ _
    | ok s => exact ih _ _

end Dialogue

end MarkerAtlas
