import MarkerAtlas.Proofs.Session.History

/-!
# Dragging loses no motion

While a pointer drags the map, each of its moves only says where the pan is to go, and a tick
applies what was said last. Every such target counts from where the drag began, so it makes no
difference which of them were applied and which were overwritten: when the pointer is released the
map has moved by the way from where the pointer went down to where it was last, however often and
whenever frames were drawn.
-/

namespace MarkerAtlas

variable {α : Type}

/-! ## Gestures -/

/-- What happens to a session from frame to frame: an event on the drawing surface, or a tick. -/
inductive Beat (α : Type) where
  | event (e : InputEvent α)
  | tick

/-- Is it more than a tick? -/
def Beat.isEvent : Beat α → Bool
  | event _ => true
  | tick => false

/-- A drag from its beginning to its end: where the pointer goes down with the primary button, what
happens then, and whether it is cancelled in the end or goes up. -/
structure Gesture (α : Type) where
  pointer : UInt32
  origin : Point α
  between : List (Beat α)
  cancelled : Bool

/-- All that happens in the drag. -/
def Gesture.beats (g : Gesture α) : List (Beat α) :=
  .event (.pointerDown g.pointer DragState.primaryButton g.origin) ::
    (g.between ++
      [.event (if g.cancelled then .pointerCancel g.pointer else .pointerUp g.pointer)])

section
variable [Scalar α]

/-- Where the pointer has moved to. A move to a position that is not finite does not count. -/
def Beat.place? (pointer : UInt32) : Beat α → Option (Point α)
  | event (.pointerMove p position) =>
    if p = pointer ∧ position.isFinite = true then some position else none
  | _ => none

/-- It may happen while a pointer drags: pointers move, other pointers go up or are cancelled, no
pointer goes down so that a drag begins, and frames are drawn. -/
def Beat.During (pointer : UInt32) : Beat α → Prop
  | event (.pointerDown _ button position) =>
    ¬(button = DragState.primaryButton ∧ position.isFinite = true)
  | event (.pointerMove _ _) => True
  | event (.pointerUp p) => p ≠ pointer
  | event (.pointerCancel p) => p ≠ pointer
  | event (.wheel _ _) => False
  | tick => True

namespace Gesture

/-- The places through which the pointer is dragged. -/
def places (g : Gesture α) : List (Point α) := g.between.filterMap (Beat.place? g.pointer)

/-- The drag that the pointer begins. -/
def drag (g : Gesture α) (pan : Point α) : Drag α := ⟨g.pointer, g.origin, pan⟩

end Gesture

/-- Where the pan is to go when the pointer is at a place. -/
def Drag.target (d : Drag α) (place : Point α) : Point α := d.panAtStart + (place - d.origin)

/-- The pan after the drag: moved by the way from where the pointer went down to where it was last,
if it has moved. -/
def Gesture.panAfter (g : Gesture α) (pan : Point α) : Point α :=
  match g.places.getLast? with
  | none => pan
  | some last => pan + (last - g.origin)

/-- The gesture is a drag of one pointer, and no target of it is infinite or no number. -/
structure Gesture.Proper (g : Gesture α) (pan : Point α) : Prop where
  origin : g.origin.isFinite = true
  between : ∀ b ∈ g.between, b.During g.pointer
  targets : ∀ place ∈ g.places, (pan + (place - g.origin)).isFinite = true

end

/-! ## While a pointer drags -/

namespace DragState

variable [Scalar α]

/-- The drag and the view after a beat. -/
def beat (s : DragState α × Viewport α) : Beat α → DragState α × Viewport α
  | .event e => ((s.1.handle s.2 e).1, (s.1.handle s.2 e).2.1)
  | .tick => ((s.1.tick s.2).1, (s.1.tick s.2).2.1)

/-- The drag goes on, the view `v` was only panned, and a tick would bring the pan to `aim`. -/
structure Following (d : Drag α) (v : Viewport α) (aim : Point α)
    (s : DragState α × Viewport α) : Prop where
  drag : s.1.drag = some d
  panned : v.Panned s.2
  aim : (s.1.tick s.2).2.1.pan = aim

variable {d : Drag α} {v : Viewport α} {aim : Point α} {s : DragState α × Viewport α}

/-- A tick does early what it would do later. -/
theorem Following.tick (h : Following d v aim s) : Following d v aim (beat s .tick) := by
  obtain ⟨⟨drag, pending⟩, w⟩ := s
  -- With nothing pending a tick does nothing. Otherwise it sets the pan, after which nothing is
  -- pending and a later tick leaves the pan there.
  cases pending with
  | none => exact h
  | some pan => exact ⟨h.drag, h.panned.trans (Viewport.panned_setPan w pan), h.aim⟩

omit [Scalar α] in
theorem follows_eq (h : s.1.drag = some d) (pointer : UInt32) :
    s.1.follows pointer = (d.pointer == pointer) := by
  rw [follows, h, Option.any_some]

/-- The release of another pointer changes nothing. -/
theorem pointerUp_of_ne (h : s.1.drag = some d) {pointer : UInt32} (hne : pointer ≠ d.pointer) :
    s.1.pointerUp pointer s.2 = (s.1, s.2, false) := by
  have hfollows : ¬(s.1.follows pointer = true) := by
    rw [follows_eq h]
    exact fun heq => hne (beq_iff_eq.mp heq).symm
  rw [pointerUp, if_neg hfollows]

/-- The target of a move takes the place of what was to be applied before. -/
theorem Following.move (h : Following d v aim s) {place : Point α}
    (hplace : place.isFinite = true) (htarget : (d.target place).isFinite = true) :
    Following d v (d.target place) (beat s (.event (.pointerMove d.pointer place))) := by
  have hmove : beat s (.event (.pointerMove d.pointer place)) =
      ({ s.1 with pending := some (d.target place) }, s.2) := by
    simp only [beat, handle, pointerMove, h.drag]
    rw [if_pos ⟨trivial, hplace⟩]
    rfl
  rw [hmove]
  refine ⟨h.drag, h.panned, ?_⟩
  -- A tick would now set the new target, which is finite and so becomes the pan.
  show (s.2.setPan (d.target place)).pan = d.target place
  rw [Viewport.setPan, if_pos htarget]

/-- What may happen during the drag either is a move of its pointer or changes nothing that is to
come. -/
theorem Following.beat (h : Following d v aim s) {b : Beat α} (hb : b.During d.pointer)
    (htargets : ∀ place, b.place? d.pointer = some place → (d.target place).isFinite = true) :
    Following d v ((b.place? d.pointer).elim aim d.target) (beat s b) := by
  cases b with
  | tick => exact h.tick
  | event e =>
    -- Only a move of the pointer that drags says something new; every other event has to leave both
    -- the drag and what is pending as they are.
    cases e with
    | pointerDown pointer button position =>
      -- It is not the primary button, or its place is not finite, so no drag begins.
      have hsame : DragState.beat s (.event (.pointerDown pointer button position)) = s := by
        simp only [DragState.beat, handle, pointerDown]
        rw [if_neg hb]
      rw [hsame]
      exact h
    | pointerMove pointer position =>
      by_cases hown : pointer = d.pointer ∧ position.isFinite = true
      · have hplace : (Beat.event (.pointerMove pointer position)).place? d.pointer =
            some position := if_pos hown
        rw [hplace]
        obtain ⟨rfl, hposition⟩ := hown
        exact h.move hposition (htargets position hplace)
      · -- Another pointer moves, or this one to a place that is not finite: the drag does not
        -- listen.
        have hplace : (Beat.event (.pointerMove pointer position)).place? d.pointer = none :=
          if_neg hown
        have hsame : DragState.beat s (.event (.pointerMove pointer position)) = s := by
          simp only [DragState.beat, handle, pointerMove, h.drag]
          rw [if_neg fun hmove => hown ⟨hmove.1.symm, hmove.2⟩]
        rw [hplace, hsame]
        exact h
    | pointerUp pointer =>
      have hsame : DragState.beat s (.event (.pointerUp pointer)) = s := by
        simp only [DragState.beat, handle, pointerUp_of_ne h.drag hb]
      rw [hsame]
      exact h
    | pointerCancel pointer =>
      have hsame : DragState.beat s (.event (.pointerCancel pointer)) = s := by
        simp only [DragState.beat, handle, pointerUp_of_ne h.drag hb]
      rw [hsame]
      exact h
    | wheel position deltaY => exact hb.elim

/-- Of everything that happens during the drag only the last place of its pointer counts. -/
theorem Following.beats (h : Following d v aim s) {bs : List (Beat α)}
    (hbs : ∀ b ∈ bs, b.During d.pointer)
    (htargets : ∀ place ∈ bs.filterMap (Beat.place? d.pointer),
      (d.target place).isFinite = true) :
    Following d v ((bs.filterMap (Beat.place? d.pointer)).getLast?.elim aim d.target)
      (bs.foldl DragState.beat s) := by
  -- By induction along the beats, with the target as it was before each of them: it is the last
  -- place so far, or where the drag began.
  induction bs generalizing s aim with
  | nil => exact h
  | cons b bs ih =>
    have hb := h.beat (hbs b List.mem_cons_self) fun place hplace =>
      htargets place (List.mem_filterMap.mpr ⟨b, List.mem_cons_self, hplace⟩)
    have hrest := ih hb (fun c hc => hbs c (List.mem_cons_of_mem b hc)) fun place hplace => by
      obtain ⟨c, hc, hcplace⟩ := List.mem_filterMap.mp hplace
      exact htargets place (List.mem_filterMap.mpr ⟨c, List.mem_cons_of_mem b hc, hcplace⟩)
    rw [List.filterMap_cons]
    cases hplace : b.place? d.pointer with
    | none =>
      rw [hplace] at hrest
      exact hrest
    | some place =>
      rw [hplace] at hrest
      rw [List.getLast?_cons]
      cases hlast : (bs.filterMap (Beat.place? d.pointer)).getLast? with
      | none =>
        rw [hlast] at hrest
        exact hrest
      | some last =>
        rw [hlast] at hrest
        exact hrest

/-- The release ends the drag as a tick would leave it. -/
theorem Following.release (h : Following d v aim s) (cancelled : Bool) :
    DragState.beat s
        (.event (if cancelled then .pointerCancel d.pointer else .pointerUp d.pointer)) =
      (idle, { v with pan := aim }) := by
  have hup : s.1.pointerUp d.pointer s.2 = (idle, { v with pan := aim }, true) := by
    -- The pan of the view that a tick would leave is `aim`, and apart from it the view is `v`.
    have hview : (s.1.tick s.2).2.1 = { v with pan := aim } := by
      rw [← h.aim]
      exact (h.panned.trans (s.1.panned_tick s.2)).eq
    unfold pointerUp
    rw [follows_eq h.drag, beq_self_eq_true, if_pos rfl, ← hview]
    obtain ⟨⟨drag, pending⟩, w⟩ := s
    cases pending <;> rfl
  -- A cancelled pointer is released like one that goes up.
  cases cancelled with
  | true =>
    show ((s.1.pointerUp d.pointer s.2).1, (s.1.pointerUp d.pointer s.2).2.1) = _
    rw [hup]
  | false =>
    show ((s.1.pointerUp d.pointer s.2).1, (s.1.pointerUp d.pointer s.2).2.1) = _
    rw [hup]

/-- A gesture from its beginning to its end, whatever was dragged before. -/
theorem foldl_beat_gesture (s : DragState α) (v : Viewport α) {g : Gesture α}
    (hg : g.Proper v.pan) :
    g.beats.foldl beat (s, v) = (idle, { v with pan := g.panAfter v.pan }) := by
  -- Going down takes the pan from where it is and drops what an earlier drag has left pending.
  have hdown : beat (s, v) (.event (.pointerDown g.pointer primaryButton g.origin)) =
      (⟨some (g.drag v.pan), none⟩, v) := by
    simp only [beat, handle, pointerDown]
    rw [if_pos ⟨trivial, hg.origin⟩]
    rfl
  -- At first a tick would leave the pan where the drag began.
  have hbegun : Following (g.drag v.pan) v v.pan (⟨some (g.drag v.pan), none⟩, v) :=
    ⟨rfl, .refl v, rfl⟩
  have haim : (g.places.getLast?).elim v.pan (g.drag v.pan).target = g.panAfter v.pan := by
    unfold Gesture.panAfter
    cases g.places.getLast? <;> rfl
  have hend := (hbegun.beats hg.between hg.targets).release g.cancelled
  rw [Gesture.beats, List.foldl_cons, hdown, List.foldl_append, List.foldl_cons, List.foldl_nil]
  exact hend.trans (congrArg (fun pan => (idle, { v with pan := pan })) haim)

end DragState

/-! ## Sessions -/

namespace Session

variable [Scalar α]

/-- The session after a beat. -/
def beat (s : Session α) : Beat α → Session α
  | .event e => (s.input e).1
  | .tick => s.tick.1

/-- The session after one beat after the other. -/
def play (s : Session α) (bs : List (Beat α)) : Session α := bs.foldl beat s

/-- With a map, beats go to the drag and the view. -/
theorem play_eq {s : Session α} (hsome : s.metadata.isSome = true) (bs : List (Beat α)) :
    s.play bs = { s with
      drag := (bs.foldl DragState.beat (s.drag, s.viewport)).1
      viewport := (bs.foldl DragState.beat (s.drag, s.viewport)).2 } := by
  -- By induction along the beats; none of them takes the metadata away.
  induction bs generalizing s with
  | nil => rfl
  | cons b bs ih =>
    have hbeat : s.beat b = { s with
        drag := (DragState.beat (s.drag, s.viewport) b).1
        viewport := (DragState.beat (s.drag, s.viewport) b).2 } := by
      cases b with
      | tick => rfl
      | event e =>
        have hnone : s.metadata.isNone = false := by
          rw [← Option.not_isSome, hsome]
          rfl
        simp only [beat, input, hnone, Bool.false_eq_true, if_false]
        rfl
    rw [play, List.foldl_cons, hbeat]
    exact ih hsome

/-! ### What is pending -/

section
variable {listing : MarkerFilter → List (Marker α) → Prop} {settings : Settings α} {s : Session α}

/-- The session with its drag as it was, or without one. -/
def DragKept (s s' : Session α) : Prop := s'.drag = s.drag ∨ s'.drag = DragState.idle

omit [Scalar α] in
/-- An operation that does without the store and does not touch the drag where it succeeds. -/
theorem Outcome.dragKept {next : Session α → Prop} {r : After α Unit} (h : s.Outcome next r)
    (hnext : ∀ s', next s' → s'.drag = s.drag) : s.DragKept r.1 :=
  .inl (h.fst (P := fun s' => s'.drag = s.drag) rfl hnext)

omit [Scalar α] in
theorem dragKept_showing (part : MapMeta → Viewport α) : s.DragKept (s.showing part).1 := by
  refine (showing_outcome part).dragKept ?_
  rintro s' ⟨m, -, rfl⟩
  rfl

theorem dragKept_refresh {r : After α Unit} (hr : s.refresh.Yields listing r) :
    r.1.drag = s.drag := by
  obtain ⟨-, rfl⟩ | ⟨-, ⟨why, rfl⟩ | ⟨ms, -, rfl⟩⟩ := refresh_cases hr <;> rfl

theorem dragKept_setDone {id : String} {done : Bool} {r : After α Unit}
    (hr : (s.setDone id done).Yields listing r) : r.1.drag = s.drag := by
  obtain ⟨e, -, rfl⟩ | ⟨why, rfl⟩ | hr := setDone_cases hr
  · rfl
  · rfl
  · exact dragKept_refresh hr

theorem dragKept_selectMap {map : String} {r : After α Unit}
    (hr : (s.selectMap map).Yields listing r) : r.1.drag = DragState.idle := by
  obtain ⟨why, rfl⟩ | rfl | ⟨m, -, ⟨why, rfl⟩ | ⟨ms, -, rfl⟩⟩ := selectMap_cases hr
  · rfl
  · rfl
  · rfl
  · obtain ⟨v, due, heq, -⟩ :=
      (({ s.cleared map with metadata := some m } : Session α).relisted ms).fittedOrDue_eq m
    rw [heq]
    rfl

/-- Only events on the surface and ticks change what is dragged, but for a change of the map, after
which nothing is. -/
theorem attempt_drag {op : Operation α} {r : After α Unit}
    (hr : (s.attempt op).Yields listing r) :
    s.DragKept r.1 ∨ ∃ b, r.1 = s.beat b := by
  -- One case per operation: the first two are the beats, a change of the map ends the drag, and no
  -- other operation touches it, also if it fails.
  cases op with
  | input event => cases hr; exact .inr ⟨.event event, rfl⟩
  | tick => cases hr; exact .inr ⟨.tick, rfl⟩
  | selectMap map => exact .inl (.inr (dragKept_selectMap hr))
  | setFilter filter =>
    refine .inl (.inl ?_)
    obtain ⟨-, rfl⟩ | ⟨-, hr⟩ := setFilter_cases hr
    · rfl
    · exact (dragKept_refresh hr).trans rfl
  | refresh => exact .inl (.inl (dragKept_refresh hr))
  | setDone id done => exact .inl (.inl (dragKept_setDone hr))
  | toggleDone id =>
    refine .inl (.inl ?_)
    obtain ⟨r', hr', rfl⟩ := (Dialogue.yields_map _ _ _).mp hr
    obtain ⟨e, -, rfl⟩ | ⟨m, r'', -, hset, rfl⟩ := toggleDone_cases hr'
    · rfl
    · have hkept := dragKept_setDone hset
      exact hkept
  | resize size =>
    cases hr
    obtain ⟨v, due, heq, -⟩ := s.resize_eq size
    refine .inl (.inl ?_)
    show (s.resize size).drag = s.drag
    rw [heq]
  | fit => cases hr; exact .inl (dragKept_showing _)
  | zoomIn => cases hr; exact .inl (dragKept_showing _)
  | zoomOut => cases hr; exact .inl (dragKept_showing _)
  | clickCluster key =>
    cases hr
    refine .inl ((clickCluster_outcome key).dragKept ?_)
    rintro s' ⟨c, -, -, rfl⟩
    rfl
  | selectMarker id =>
    cases hr
    refine .inl ((selectMarker_outcome id).dragKept ?_)
    rintro s' ⟨rfl, -⟩
    rfl
  | generateRoute =>
    cases hr
    refine .inl (generateRoute_outcome.dragKept ?_)
    rintro s' ⟨m, w, v, -, -, rfl⟩
    rfl
  | setClustering enabled => cases hr; exact .inl (.inl rfl)
  | next => cases hr; exact .inl (.inl rfl)
  | prev => cases hr; exact .inl (.inl rfl)
  | goTo index => cases hr; exact .inl (.inl rfl)
  | recenter => cases hr; exact .inl (.inl rfl)
  | clearRoute => cases hr; exact .inl (.inl rfl)

end

end Session

/-- What is pending is pending for a drag. -/
def DragState.Tended (s : DragState α) : Prop := s.drag = none → s.pending = none

theorem DragState.tended_idle : (idle : DragState α).Tended := fun _ => rfl

theorem DragState.Tended.beat [Scalar α] {s : DragState α} (h : s.Tended) (v : Viewport α)
    (b : Beat α) : (DragState.beat (s, v) b).1.Tended := by
  obtain ⟨drag, pending⟩ := s
  -- A tick leaves nothing pending, with or without a drag.
  have htick : ∀ d, ((⟨d, pending⟩ : DragState α).tick v).1.Tended := by
    intro d hnone
    cases pending <;> rfl
  cases b with
  | tick => exact htick drag
  | event e =>
    -- A drag that begins has nothing pending, a move is heeded only by a drag, and the end of a
    -- drag applies what is pending, as a tick does.
    cases e with
    | pointerDown pointer button position =>
      simp only [DragState.beat, DragState.handle, DragState.pointerDown]
      split
      · exact fun _ => rfl
      · exact h
    | pointerMove pointer position =>
      simp only [DragState.beat, DragState.handle, DragState.pointerMove]
      split
      · exact h
      · split
        · exact fun hnone => by cases hnone
        · exact h
    | pointerUp pointer =>
      simp only [DragState.beat, DragState.handle, DragState.pointerUp]
      split
      · exact htick none
      · exact h
    | pointerCancel pointer =>
      simp only [DragState.beat, DragState.handle, DragState.pointerUp]
      split
      · exact htick none
      · exact h
    | wheel position deltaY =>
      simp only [DragState.beat, DragState.handle]
      split <;> exact h

namespace Session

variable [Scalar α] {listing : MarkerFilter → List (Marker α) → Prop} {settings : Settings α}
  {s : Session α}

theorem tended_beat (h : s.drag.Tended) (b : Beat α) : (s.beat b).drag.Tended := by
  cases b with
  | tick => exact h.beat s.viewport .tick
  | event e =>
    simp only [beat, input]
    split
    · exact h
    · exact h.beat s.viewport (.event e)

theorem Reachable.tended (h : Reachable listing settings s) : s.drag.Tended := by
  -- By induction on the run, with the drag before the last operation.
  induction h with
  | new => exact DragState.tended_idle
  | step op hs h ih =>
    rw [perform_eq_map_attempt] at h
    obtain ⟨r, hr, rfl⟩ := (Dialogue.yields_map _ _ _).mp h
    obtain (hkept | hidle) | ⟨b, hb⟩ := attempt_drag hr
    · rw [hkept]
      exact ih
    · rw [hidle]
      exact DragState.tended_idle
    · rw [hb]
      exact tended_beat ih b

end Session

/-! ## Ticks do not matter -/

section
variable [Scalar α] {g : Gesture α} {pan : Point α} {bs : List (Beat α)}

/-- A pointer is moved by events only. -/
theorem filterMap_place?_filter (pointer : UInt32) (bs : List (Beat α)) :
    (bs.filter (·.isEvent)).filterMap (Beat.place? pointer) =
      bs.filterMap (Beat.place? pointer) := by
  rw [List.filterMap_filter]
  refine List.filterMap_congr fun b _ => ?_
  cases b <;> rfl

theorem Gesture.places_of_filter_eq
    (h : bs.filter (·.isEvent) = g.between.filter (·.isEvent)) :
    ({ g with between := bs } : Gesture α).places = g.places := by
  unfold places
  rw [← filterMap_place?_filter, h, filterMap_place?_filter]

theorem Gesture.Proper.of_filter_eq (hg : g.Proper pan)
    (h : bs.filter (·.isEvent) = g.between.filter (·.isEvent)) :
    ({ g with between := bs } : Gesture α).Proper pan where
  origin := hg.origin
  between := by
    intro b hb
    -- An event among the other beats is one of this gesture, too.
    cases b with
    | tick => trivial
    | event e =>
      have hmem : Beat.event e ∈ g.between.filter (·.isEvent) := by
        rw [← h]
        exact List.mem_filter.mpr ⟨hb, rfl⟩
      exact hg.between _ (List.mem_filter.mp hmem).1
  targets := by
    rw [Gesture.places_of_filter_eq h]
    exact hg.targets

end

namespace Session

variable [Scalar α]

theorem play_gesture {s : Session α} (hsome : s.metadata.isSome = true) {g : Gesture α}
    (hg : g.Proper s.viewport.pan) :
    s.play g.beats = { s with
      viewport := { s.viewport with pan := g.panAfter s.viewport.pan }
      drag := DragState.idle } := by
  rw [play_eq hsome, DragState.foldl_beat_gesture s.drag s.viewport hg]

/-- **Dragging loses no motion.** A drag on a map leaves the session as it was, but for the pan:
it has moved by the way from where the pointer went down to where it was last, if all targets on
the way are finite. So two drags that differ only in their ticks come to the same. In every run
something is pending only as long as a pointer drags. -/
theorem drag_moves_to_last_place :
    (∀ (s : Session α) (g : Gesture α), s.metadata.isSome = true → g.Proper s.viewport.pan →
      s.play g.beats = { s with
        viewport := { s.viewport with pan := g.panAfter s.viewport.pan }
        drag := DragState.idle }) ∧
    (∀ (s : Session α) (g : Gesture α) (bs : List (Beat α)), s.metadata.isSome = true →
      g.Proper s.viewport.pan → bs.filter (·.isEvent) = g.between.filter (·.isEvent) →
      s.play ({ g with between := bs } : Gesture α).beats = s.play g.beats) ∧
    ∀ (listing : MarkerFilter → List (Marker α) → Prop) (settings : Settings α) (s : Session α),
      Reachable listing settings s → s.drag.pending.isSome = true →
      s.drag.drag.isSome = true := by
  refine ⟨fun s g hsome hg => play_gesture hsome hg, fun s g bs hsome hg hbs => ?_,
    fun listing settings s hs hpending => ?_⟩
  · -- Both gestures have the same places, and both leave a pan that is told by these alone.
    have hpan : ({ g with between := bs } : Gesture α).panAfter s.viewport.pan =
        g.panAfter s.viewport.pan := by
      unfold Gesture.panAfter
      rw [Gesture.places_of_filter_eq hbs]
    rw [play_gesture hsome (hg.of_filter_eq hbs), play_gesture hsome hg, hpan]
  · -- Were no pointer dragging, nothing would be pending.
    cases hdrag : s.drag.drag with
    | some d => rfl
    | none =>
      rw [hs.tended hdrag] at hpending
      cases hpending

/-- A chest's map is dragged while another pointer moves about: one place is drawn and one is
overwritten, and in the end the map has moved by 20 and 30. -/
theorem drag_past_other_pointer :
    ∃ (s : Session Float) (g : Gesture Float), Reachable (fun _ _ => True) Settings.standard s ∧
      s.metadata.isSome = true ∧ g.Proper s.viewport.pan ∧
      g.places.length = 3 ∧ (s.play g.beats).drag.pending.isSome = false ∧
      (s.play g.beats).viewport.pan.x = 20 ∧ (s.play g.beats).viewport.pan.y = 30 := by
  let s : Session Float := (new Settings.standard).atPoeta [chest]
  -- The second pointer moves, goes down with another button and up; the last move of the first one
  -- is to a place that is not finite.
  let g : Gesture Float :=
    { pointer := 1
      origin := ⟨10, 20⟩
      between := [.event (.pointerMove 1 ⟨15, 25⟩), .tick, .event (.pointerMove 2 ⟨0, 0⟩),
        .event (.pointerMove 1 ⟨40, 60⟩), .event (.pointerDown 2 1 ⟨0, 0⟩),
        .event (.pointerMove 1 ⟨30, 50⟩), .event (.pointerMove 1 ⟨1 / 0, 0⟩),
        .event (.pointerUp 2)]
      cancelled := false }
  have hs : Reachable (fun _ _ => True) Settings.standard s :=
    Reachable.new.atPoeta isEmpty_size_new trivial
  have hplaces : g.places.map (fun p => (p.x, p.y)) = [(15, 25), (40, 60), (30, 50)] := by
    decide +kernel
  have hg : g.Proper s.viewport.pan := by
    refine ⟨by decide +kernel, ?_, by decide +kernel⟩
    simp [g, Beat.During, DragState.primaryButton]
  -- What the theorem says of the end is a session with a known pan, so that only its two numbers
  -- are left to compute.
  have hend := drag_moves_to_last_place.1 s g rfl hg
  refine ⟨s, g, hs, rfl, hg, ?_, ?_, ?_, ?_⟩
  · rw [← List.length_map, hplaces]
    rfl
  · rw [hend]
    rfl
  · rw [hend]
    decide +kernel
  · rw [hend]
    decide +kernel

end Session

end MarkerAtlas
