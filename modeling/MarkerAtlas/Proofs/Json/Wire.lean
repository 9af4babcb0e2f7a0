import MarkerAtlas.Map.Codec
import MarkerAtlas.Pointer.Codec
import MarkerAtlas.Progress.Codec
import MarkerAtlas.Proofs.Json.ObjectText
import MarkerAtlas.Proofs.Json.Written
import MarkerAtlas.Scalar.Double

/-!
# What goes over the wire and back

Markers, maps, filters, commands, imports, backed up flags and events are exchanged as JSON. What
is written for one of them is read back as it was, whatever was read before is written in a form
that is read alike, and nobody who sends one needs to care for the order of its members.
-/

namespace MarkerAtlas

/-- Reads a text that holds one value and nothing else. -/
def Decoder.read {α : Type} (decode : Decoder α) (text : String) : Except DecodeError α :=
  Decoder.ofText decode (Json.Document.read text).draft (Json.Document.read text).complete

/-- Values go out as JSON and come back. What their type does not say of them is `valid`, and
`finite` says that their numbers are. -/
structure RoundTrips {α : Type} (decode : Decoder α) (encode : α → Json) (valid finite : α → Prop) :
    Prop where
  /-- The value written for another one is read back as it. -/
  decode_encode : ∀ v, valid v → finite v → decode (encode v).written.draft = .ok v
  /-- Whatever a value was read from, what is written for it is read as the same value. -/
  normalizes : ∀ d v, decode d = .ok v → finite v → decode (encode v).written.draft = .ok v
  /-- The order of the members in the text of an object is of no account. -/
  reorders : ∀ before after texts texts', Json.IsBlank before → Json.IsBlank after →
    (∀ text ∈ texts, ∃ m, Json.IsMember text m) → texts.Perm texts' → ∀ v,
      (decode.read (Json.objectText before texts after) = .ok v ↔
        decode.read (Json.objectText before texts' after) = .ok v)

section
variable {α : Type} {decode : Decoder α} {encode : α → Json} {valid finite : α → Prop}

theorem Decoder.read_objectText {before after : String} (hbefore : Json.IsBlank before)
    (hafter : Json.IsBlank after) {texts : List String} {ms : List (Option String × Draft)}
    (h : List.Forall₂ Json.IsMember texts ms) :
    decode.read (Json.objectText before texts after) = decode (.obj ms) := by
  rw [Decoder.read, Json.read_objectText hbefore hafter h, Decoder.ofText]
  cases decode (.obj ms) <;> rfl

/-- The three laws for a decoder that passes over the order of members. -/
theorem RoundTrips.of (hread : ∀ v, valid v → decode (encode v).draft = .ok v)
    (hfinite : ∀ v, finite v → (encode v).Finite)
    (hvalid : ∀ d v, decode d = .ok v → valid v)
    (hperm : ∀ {ms ms' : List (Option String × Draft)} {v}, ms.Perm ms' →
      (decode (.obj ms) = .ok v ↔ decode (.obj ms') = .ok v)) :
    RoundTrips decode encode valid finite := by
  have hwritten : ∀ v, valid v → finite v → decode (encode v).written.draft = .ok v := by
    intro v hv hf
    rw [(hfinite v hf).written_eq]
    exact hread v hv
  refine ⟨hwritten, fun d v hd hf => hwritten v (hvalid d v hd) hf, ?_⟩
  intro before after texts texts' hbefore hafter htexts hperms v
  obtain ⟨ms, hms⟩ := Json.exists_members htexts
  obtain ⟨ms', hpermms, hms'⟩ := Json.exists_perm_members hperms hms
  rw [Decoder.read_objectText hbefore hafter hms, Decoder.read_objectText hbefore hafter hms']
  exact hperm hpermms

/-- A record round-trips if its fields are written one by one. -/
theorem RoundTrips.record {r : Record α} [r.Lawful]
    (hwrites : ∀ v, valid v → ∃ ms, encode v = .obj ms ∧ r.Writes ms v)
    (hfinite : ∀ v, finite v → (encode v).Finite)
    (hvalid : ∀ d v, r.decode d = .ok v → valid v) :
    RoundTrips r.decode encode valid finite := by
  refine .of (fun v hv => ?_) hfinite hvalid Record.decodeWith_perm
  obtain ⟨ms, hencode, hms⟩ := hwrites v hv
  rw [hencode]
  exact hms.decode

end

/-! ## Markers, maps and filters -/

instance : Marker.record.Lawful := by
  unfold Marker.record
  infer_instance

/-- The coordinates of the marker are finite. -/
def Marker.HasFiniteFloats (m : Marker Float) : Prop :=
  (∀ x ∈ m.x, x.isFinite = true) ∧ ∀ y ∈ m.y, y.isFinite = true

theorem Marker.finite_encode {m : Marker Float} (h : m.HasFiniteFloats) : m.encode.Finite := by
  obtain ⟨hx, hy⟩ := h
  simpa [encode] using ⟨hx, hy⟩

open Record (Writes)

theorem Marker.writes (m : Marker Float) : ∃ ms, m.encode = .obj ms ∧ record.Writes ms m :=
  ⟨_, rfl, Writes.pure Marker.mk
    |>.seq (.required "id" (Decoder.text_draft m.id)) (by decide)
    |>.seq (.required "kind" m.kind.decode_draft) (by decide)
    |>.seq (.optional "faction" nofun Faction.decode_draft m.faction) (by decide)
    |>.seq (.required "map" (Decoder.text_draft m.map)) (by decide)
    |>.seq (.optional "region" nofun Decoder.text_draft m.region) (by decide)
    |>.seq (.required "name" (Decoder.text_draft m.name)) (by decide)
    |>.seq (.optional "note" nofun Decoder.text_draft m.note) (by decide)
    |>.seq (.optional "x" nofun Decoder.float_draft m.x) (by decide)
    |>.seq (.optional "y" nofun Decoder.float_draft m.y) (by decide)
    |>.seq (.optional "source" nofun Decoder.text_draft m.source) (by decide)
    |>.seq (.withDefault "done" (Decoder.bool_draft m.done)) (by decide)⟩

instance : MapMeta.record.Lawful := by
  unfold MapMeta.record
  infer_instance

theorem MapMeta.writes (m : MapMeta) : ∃ ms, m.encode = .obj ms ∧ record.Writes ms m :=
  ⟨_, rfl, Writes.pure MapMeta.mk
    |>.seq (.required "name" (Decoder.text_draft m.name)) (by decide)
    |>.seq (.required "order" (Decoder.int64_draft m.order)) (by decide)
    |>.seq (.optional "type" nofun Decoder.text_draft m.style) (by decide)
    |>.seq (.required "tileWidth" (Decoder.uint32_draft m.tileWidth)) (by decide)
    |>.seq (.required "tileHeight" (Decoder.uint32_draft m.tileHeight)) (by decide)
    |>.seq (.required "tilesCountX" (Decoder.uint32_draft m.tilesCountX)) (by decide)
    |>.seq (.required "tilesCountY" (Decoder.uint32_draft m.tilesCountY)) (by decide)
    |>.seq (.required "width" (Decoder.uint32_draft m.width)) (by decide)
    |>.seq (.required "height" (Decoder.uint32_draft m.height)) (by decide)
    |>.seq (.optional "source" nofun Decoder.text_draft m.source) (by decide)⟩

instance : MarkerFilter.record.Lawful := by
  unfold MarkerFilter.record
  infer_instance

theorem MarkerFilter.writes (f : MarkerFilter) : ∃ ms, f.encode = .obj ms ∧ record.Writes ms f :=
  ⟨_, rfl, Writes.pure MarkerFilter.mk
    |>.seq (.withDefault "scope" f.scope.decode_draft) (by decide)
    |>.seq (.memberIfSome "characterId" nofun Decoder.text_draft f.characterId) (by decide)
    |>.seq (.memberIfSome "map" nofun Decoder.text_draft f.map) (by decide)
    |>.seq (.memberIfSome "kind" nofun MarkerKind.decode_draft f.kind) (by decide)
    |>.seq (.memberIfSome "faction" nofun Faction.decode_draft f.faction) (by decide)
    |>.seq (.memberIfSome "q" nofun Decoder.text_draft f.query) (by decide)
    |>.seq (.withDefault "onlyRemaining" (Decoder.bool_draft f.onlyRemaining)) (by decide)⟩

theorem MapMeta.finite_encode (m : MapMeta) : m.encode.Finite := by
  simp [encode]

theorem MarkerFilter.finite_encode (f : MarkerFilter) : f.encode.Finite := by
  simp only [encode, Json.finite_obj, List.forall_mem_cons, List.forall_mem_append,
    Json.forall_mem_memberIfSome]
  simp

/-! ## Progress -/

instance : SetDone.record.Lawful := by
  unfold SetDone.record
  infer_instance

theorem SetDone.writes (c : SetDone) : ∃ ms, c.encode = .obj ms ∧ record.Writes ms c :=
  ⟨_, rfl, Writes.pure SetDone.mk
    |>.seq (.withDefault "scope" c.scope.decode_draft) (by decide)
    |>.seq (.optional "characterId" nofun Decoder.text_draft c.characterId) (by decide)
    |>.seq (.required "markerId" (Decoder.text_draft c.markerId)) (by decide)
    |>.seq (.required "done" (Decoder.bool_draft c.done)) (by decide)⟩

theorem SetDone.finite_encode (c : SetDone) : c.encode.Finite := by
  simp [encode]

instance : ProgressRecord.record.Lawful := by
  unfold ProgressRecord.record
  infer_instance

theorem ProgressRecord.writes (r : ProgressRecord) :
    ∃ ms, r.encode = .obj ms ∧ record.Writes ms r := by
  refine ⟨_, ?_, Writes.pure ProgressRecord.mk
    |>.seq (.required "scope" r.scope.decode_draft) (by decide)
    |>.seq (.memberIfSome "characterId" nofun Decoder.text_draft r.characterId) (by decide)
    |>.seq (.required "markerId" (Decoder.text_draft r.markerId)) (by decide)
    |>.seq (.required "doneAtMs" (Decoder.int64_draft r.doneAtMs)) (by decide)⟩
  simp [ProgressRecord.encode]

theorem ProgressRecord.finite_encode (r : ProgressRecord) : r.encode.Finite := by
  simp only [encode, Json.finite_obj, List.forall_mem_cons, List.forall_mem_append,
    Json.forall_mem_memberIfSome]
  simp

/-! ## Imports -/

theorem Decoder.items_json (ds : List Draft) : Decoder.items Decoder.json ds = Draft.values ds := by
  induction ds with
  | nil => rfl
  | cons d ds ih =>
    rw [Decoder.items, Draft.values, ih, show Decoder.json d = d.value from rfl]
    cases d.value <;> rfl

namespace MarkerImport

instance : record.Lawful := by
  unfold record
  infer_instance

/-- The items are values as they are kept, their members sorted by name. -/
def HasSortedItems (i : MarkerImport) : Prop := ∀ j ∈ i.items, j.Sorted

/-- The numbers in the items are finite. -/
def HasFiniteFloats (i : MarkerImport) : Prop := ∀ j ∈ i.items, j.Finite

theorem writes {i : MarkerImport} (h : i.HasSortedItems) :
    ∃ ms, i.encode = .obj ms ∧ record.Writes ms i := by
  have hitems : Decoder.list Decoder.json (Json.arr i.items).draft = .ok i.items := by
    rw [Json.draft, Decoder.list, Decoder.items_json]
    exact Json.values_drafts fun j hj => (h j hj).value_draft
  have hnull : ∀ s, Decoder.text .null ≠ .ok s := by
    intro s hs
    cases hs
  exact ⟨_, rfl, Writes.pure MarkerImport.mk
    |>.seq (.required "items" hitems) (by decide)
    |>.seq (.optional "defaultSource" hnull Decoder.text_draft i.defaultSource) (by decide)⟩

theorem finite_encode {i : MarkerImport} (h : i.HasFiniteFloats) : i.encode.Finite := by
  simpa [encode] using .arr h

/-- Items that were read are sorted. -/
theorem hasSortedItems_of_decode {d : Draft} {i : MarkerImport} (h : record.decode d = .ok i) :
    i.HasSortedItems := by
  obtain ⟨get, hbuild⟩ := Record.exists_build h
  obtain ⟨g, source, hg, -, rfl⟩ := Record.build_seq_eq_ok.mp hbuild
  obtain ⟨-, items, ⟨⟩, hitems, rfl⟩ := Record.build_seq_eq_ok.mp hg
  -- The items are a required member, and each is kept as the value that was read.
  simp only [Record.required] at hitems
  split at hitems
  · rename_i d' hget
    unfold Decoder.list at hitems
    split at hitems
    · rw [Decoder.items_json] at hitems
      exact Json.sorted_of_values hitems
    · exact absurd hitems (Decoder.otherwise_ne_ok _ items)
  · cases hitems

end MarkerImport

/-! ## Events -/

namespace InputEvent

theorem lawful_kinds : ∀ k ∈ kinds, k.2.Lawful := by
  simp only [kinds, List.forall_mem_cons]
  refine ⟨?_, ?_, ?_, ?_, ?_, nofun⟩ <;> infer_instance

/-- The places and distances in the event are finite. -/
def HasFiniteFloats : InputEvent Float → Prop
  | pointerDown _ _ p => p.isFinite = true
  | pointerMove _ p => p.isFinite = true
  | pointerUp _ => True
  | pointerCancel _ => True
  | wheel p deltaY => p.isFinite = true ∧ deltaY.isFinite = true

theorem decode_encode (e : InputEvent Float) : decode e.encode.draft = .ok e := by
  cases e with
  | pointerDown pointer button p =>
    exact Tagged.decode_written rfl (by decide) (Writes.pure _
      |>.seq (.required "pointerId" (Decoder.uint32_draft pointer)) (by decide)
      |>.seq (.withDefault "button" (Decoder.uint8_draft button)) (by decide)
      |>.seq (.required "x" (Decoder.float_draft p.x)) (by decide)
      |>.seq (.required "y" (Decoder.float_draft p.y)) (by decide)) (by simp)
  | pointerMove pointer p =>
    exact Tagged.decode_written rfl (by decide) (Writes.pure _
      |>.seq (.required "pointerId" (Decoder.uint32_draft pointer)) (by decide)
      |>.seq (.required "x" (Decoder.float_draft p.x)) (by decide)
      |>.seq (.required "y" (Decoder.float_draft p.y)) (by decide)) (by simp)
  | pointerUp pointer =>
    exact Tagged.decode_written rfl (by decide) (Writes.pure _
      |>.seq (.required "pointerId" (Decoder.uint32_draft pointer)) (by decide)) (by simp)
  | pointerCancel pointer =>
    exact Tagged.decode_written rfl (by decide) (Writes.pure _
      |>.seq (.required "pointerId" (Decoder.uint32_draft pointer)) (by decide)) (by simp)
  | wheel p deltaY =>
    exact Tagged.decode_written rfl (by decide) (Writes.pure _
      |>.seq (.required "x" (Decoder.float_draft p.x)) (by decide)
      |>.seq (.required "y" (Decoder.float_draft p.y)) (by decide)
      |>.seq (.required "deltaY" (Decoder.float_draft deltaY)) (by decide)) (by simp)

theorem finite_encode {e : InputEvent Float} (h : e.HasFiniteFloats) : e.encode.Finite := by
  cases e with
  | pointerUp pointer | pointerCancel pointer => simp [encode]
  | pointerDown pointer button p | pointerMove pointer p =>
    simpa [encode, HasFiniteFloats, Point.isFinite, Scalar.isFinite] using h
  | wheel p deltaY =>
    simpa [encode, HasFiniteFloats, Point.isFinite, Scalar.isFinite, and_assoc] using h

end InputEvent

/-! ## All of them -/

/-- **Everything that is sent is read again as it was.** Reading undoes writing, writing what was
read in any form is read alike, and members may come in any order, the kind of an event among
them. -/
theorem wire_types_round_trip :
    RoundTrips Marker.record.decode Marker.encode (fun _ => True) Marker.HasFiniteFloats ∧
    RoundTrips MapMeta.record.decode MapMeta.encode (fun _ => True) (fun _ => True) ∧
    RoundTrips MarkerFilter.record.decode MarkerFilter.encode (fun _ => True) (fun _ => True) ∧
    RoundTrips SetDone.record.decode SetDone.encode (fun _ => True) (fun _ => True) ∧
    RoundTrips MarkerImport.record.decode MarkerImport.encode MarkerImport.HasSortedItems
      MarkerImport.HasFiniteFloats ∧
    RoundTrips ProgressRecord.record.decode ProgressRecord.encode (fun _ => True)
      (fun _ => True) ∧
    RoundTrips InputEvent.decode InputEvent.encode (fun _ => True) InputEvent.HasFiniteFloats := by
  -- Each type is settled by what it writes; items are sorted already if they were read.
  refine ⟨?marker, ?map, ?filter, ?command, ?items, ?flag, ?event⟩
  case marker =>
    exact .record (fun m _ => m.writes) (fun _ => Marker.finite_encode) fun _ _ _ => trivial
  case map =>
    exact .record (fun m _ => m.writes) (fun m _ => m.finite_encode) fun _ _ _ => trivial
  case filter =>
    exact .record (fun f _ => f.writes) (fun f _ => f.finite_encode) fun _ _ _ => trivial
  case command =>
    exact .record (fun c _ => c.writes) (fun c _ => c.finite_encode) fun _ _ _ => trivial
  case items =>
    exact .record (fun _ => MarkerImport.writes) (fun _ => MarkerImport.finite_encode)
      fun _ _ => MarkerImport.hasSortedItems_of_decode
  case flag =>
    exact .record (fun r _ => r.writes) (fun r _ => r.finite_encode) fun _ _ _ => trivial
  case event =>
    exact .of (fun e _ => e.decode_encode) (fun _ => InputEvent.finite_encode)
      (fun _ _ _ => trivial) (Tagged.decode_perm InputEvent.lawful_kinds)

-- The kind of an event may come last, after a member that no event has.
example : InputEvent.decode.read
    "\x7b\"pointerId\": 7, \"seen\": [], \"type\": \"pointerUp\"\x7d" = .ok (.pointerUp 7) := by
  cbv

end MarkerAtlas
