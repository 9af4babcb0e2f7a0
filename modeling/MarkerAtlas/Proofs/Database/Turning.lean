import MarkerAtlas.Proofs.Database.Listing
import MarkerAtlas.Proofs.Database.Separation

/-!
# A turned flag in a listing

A listing shows a marker as done if its owner has a flag on the marker. So a flag that is turned
around is seen in the listings of its owner, on the one marker that it is on: the marker shows it,
or the marker is gone, if the listing shows only what is left to do.
-/

namespace MarkerAtlas

/-- The marker with its done flag set, if it is the one with the id. -/
def Marker.withDone {α : Type} (id : String) (done : Bool) (m : Marker α) : Marker α :=
  if m.id = id then { m with done := done } else m

/-- What is listed after a flag was set on the marker with the id, or cleared. -/
def MarkerFilter.afterTurn {α : Type} (f : MarkerFilter) (id : String) (done : Bool)
    (ms : List (Marker α)) : List (Marker α) :=
  if f.onlyRemaining then ms.filter (·.id ≠ id) else ms.map (.withDone id done)

section
variable {α : Type} (id : String) (done : Bool)

theorem Marker.withDone_of_ne {id : String} {m : Marker α} (h : m.id ≠ id) :
    m.withDone id done = m := if_neg h

theorem Marker.withDone_withDone (done' : Bool) (m : Marker α) :
    (m.withDone id done).withDone id done' = m.withDone id done' := by
  by_cases h : m.id = id <;> simp [withDone, h]

/-- Turning a flag around and back again leaves a listing as it was. -/
theorem MarkerFilter.afterTurn_afterTurn {f : MarkerFilter} (honly : f.onlyRemaining = false)
    {ms : List (Marker α)} (hnodup : (ms.map (·.id)).Nodup) {m : Marker α} (hm : m ∈ ms) :
    f.afterTurn m.id m.done (f.afterTurn m.id done ms) = ms := by
  simp only [afterTurn, honly, Bool.false_eq_true, if_false, List.map_map]
  refine (List.map_congr_left fun n hn => ?_).trans (List.map_id ms)
  rw [Function.comp_apply, Marker.withDone_withDone]
  by_cases hid : n.id = m.id
  · obtain rfl : n = m := List.inj_on_of_nodup_map hnodup hn hm hid
    exact if_pos rfl
  · exact n.withDone_of_ne _ hid

end

namespace Database

variable {db db' : Database} {owner : Owner} {c : SetDone}

/-! ## The rows of the flags -/

/-- A command whose marker is stored turns the flag around, if it is the other way. -/
theorem exists_turned (howner : Owner.of? c.scope c.characterId = some owner)
    (hknown : db.hasMarker c.markerId = true) (hwanted : db.isDone owner c.markerId ≠ c.done)
    (now : Int64) : ∃ db', db.setDone now c = .ok db' ∧ db.Turned owner c db' := by
  have hset : ∃ db', db.setDone now c = .ok db' := by
    simp only [setDone, howner, hknown, hwanted, Bool.not_true, Bool.false_eq_true, if_false]
    exact ⟨_, rfl⟩
  obtain ⟨db', hset⟩ := hset
  obtain ⟨owner', howner', -, ⟨hsame, -⟩ | hturned⟩ := setDone_ok hset
  · obtain rfl : owner = owner' := Option.some.inj (howner.symm.trans howner')
    exact absurd hsame hwanted
  · obtain rfl : owner = owner' := Option.some.inj (howner.symm.trans howner')
    exact ⟨db', hset, hturned⟩

theorem Turned.revision (h : db.Turned owner c db') : db'.revision = db.revision + 1 := by
  rw [Database.revision, h.log, List.length_append]
  rfl

/-- The rows of all other flags stay as they are. -/
theorem filter_flags_setDone {now : Int64} (howner : Owner.of? c.scope c.characterId = some owner)
    (h : db.setDone now c = .ok db') :
    db'.flags.filter (fun flag => !flag.isFor owner c.markerId) =
      db.flags.filter fun flag => !flag.isFor owner c.markerId := by
  rw [← write_setDone_of_ok h, flags_setDone db now howner]
  split
  · unfold turnFlag
    cases c.done with
    | true => simp [DoneFlag.isFor]
    | false => simp
  · rfl

/-! ## Listings -/

theorem Turned.toMarker_eq (h : db.Turned owner c db') (m : StoredMarker) :
    m.toMarker (db'.isDone owner m.id) =
      (m.toMarker (db.isDone owner m.id)).withDone c.markerId c.done := by
  rw [h.isDone]
  by_cases hid : m.id = c.markerId
  · simp [Marker.withDone, StoredMarker.toMarker, hid]
  · simp [Marker.withDone, StoredMarker.toMarker, hid]

/-- A turned flag is seen in the listings of its owner, on its marker only. -/
theorem Turned.listFor_eq (h : db.Turned owner c db') {f : MarkerFilter}
    (hleft : f.onlyRemaining = true → c.done = true) :
    db'.listFor owner f = f.afterTurn c.markerId c.done (db.listFor owner f) := by
  rw [listFor, listFor, sortedMarkers, h.markers, ← sortedMarkers, MarkerFilter.afterTurn]
  cases honly : f.onlyRemaining with
  | false =>
    -- The flag is no condition, so that the same rows are taken.
    simp only [Bool.not_false, Bool.true_or, Bool.and_true, Bool.false_eq_true, if_false,
      List.map_map]
    exact List.map_congr_left fun m _ => h.toMarker_eq m
  | true =>
    -- The marker itself is not taken any more, and no other one is touched.
    have htest : ∀ m : StoredMarker,
        (m.meets f && m.found f.searchText && (!true || !db'.isDone owner m.id)) =
          (decide (m.id ≠ c.markerId) &&
            (m.meets f && m.found f.searchText && (!true || !db.isDone owner m.id))) := fun m => by
      rw [h.isDone, hleft honly]
      by_cases hid : m.id = c.markerId <;> simp [hid]
    simp only [htest, if_true, ← List.filter_filter, List.filter_map]
    refine List.map_congr_left fun m hm => ?_
    rw [h.toMarker_eq]
    exact Marker.withDone_of_ne _ (of_decide_eq_true (List.mem_filter.mp hm).2)

theorem done_eq_isDone {f : MarkerFilter} {m : Marker Float} (hm : m ∈ db.listFor owner f) :
    m.done = db.isDone owner m.id := by
  obtain ⟨s, -, -, rfl⟩ := mem_listFor.mp hm
  rfl

/-- Where only what is left to do is listed, nothing that is listed is done. -/
theorem done_eq_false_of_onlyRemaining {f : MarkerFilter} {m : Marker Float}
    (hm : m ∈ db.listFor owner f) (honly : f.onlyRemaining = true) : m.done = false := by
  obtain ⟨s, -, hwants, rfl⟩ := mem_listFor.mp hm
  exact Bool.eq_false_iff.mpr (hwants.remaining honly)

end Database

end MarkerAtlas
