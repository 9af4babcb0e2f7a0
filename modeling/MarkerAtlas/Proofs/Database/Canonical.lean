import MarkerAtlas.Database.Listing
import MarkerAtlas.Proofs.Database.Rows
import MarkerAtlas.Proofs.Scalar.Order
import MarkerAtlas.Proofs.Text.Blank

/-!
# Rows that an import leaves alone

What is stored has been trimmed and coded when it was imported. A canonical row is one that comes
back from its own backup as it is: every row that is ever stored is canonical.
-/

namespace MarkerAtlas

/-! ## Names of kinds, factions and scopes -/

theorem MarkerKind.ofName?_name (k : MarkerKind) : ofName? k.name = some k := by
  cases k <;> decide

theorem Faction.normalize_name (f : Faction) : normalize f.name = some f := by
  cases f <;> decide

theorem Scope.ofName?_name (s : Scope) : ofName? s.name = some s := by
  cases s <;> decide

/-! ## Derived ids and sources -/

theorem Sha256.not_blank_of_mem_hexDigest {s : String} {c : Char} (h : c ∈ hexDigest s) :
    Text.isBlank c = false := by
  have hdigit : ∀ n < 16, Text.isBlank (Nat.digitChar n) = false := by decide
  obtain ⟨b, -, hb⟩ := List.mem_flatMap.mp h
  have hlt : b.toNat < 256 := b.toNat_lt
  simp only [byteHex, List.mem_cons, List.not_mem_nil, or_false] at hb
  rcases hb with rfl | rfl
  · exact hdigit _ (by omega)
  · exact hdigit _ (by omega)

/-- An id that was made from what identifies a marker has no blanks at its ends. -/
theorem MarkerIdentity.trimmed?_id (i : MarkerIdentity) : Text.trimmed? i.id = some i.id := by
  have hlist : i.id.toList =
      idPrefix.toList ++ (Sha256.hexDigest i.encode.render).take idDigits := by
    rw [id, String.toList_append, String.toList_ofList]
  refine Text.trimmed?_eq_self ⟨fun c hc => ?_, fun c hc => ?_⟩ fun hempty => ?_
  · rw [hlist] at hc
    obtain rfl : 'i' = c := Option.some.inj hc
    decide
  · rw [hlist, List.getLast?_append] at hc
    cases hlast : ((Sha256.hexDigest i.encode.render).take idDigits).getLast? with
    | none =>
      rw [hlast] at hc
      obtain rfl : ':' = c := Option.some.inj hc
      decide
    | some d =>
      rw [hlast] at hc
      obtain rfl : d = c := Option.some.inj hc
      exact Sha256.not_blank_of_mem_hexDigest (List.mem_of_mem_take (List.mem_of_getLast? hlast))
  · rw [hempty] at hlist
    cases hlist

theorem MarkerImport.trimmed?_source (i : MarkerImport) :
    Text.trimmed? i.source = some i.source := by
  unfold MarkerImport.source
  cases h : i.defaultSource.bind Text.trimmed? with
  | none => decide
  | some s =>
    obtain ⟨t, -, ht⟩ := Option.bind_eq_some_iff.mp h
    exact Text.trimmed?_trimmed? ht

theorem Json.trimmed?_of_memberTrimmed? {name : String} {row : Json} {s : String}
    (h : row.memberTrimmed? name = some s) : Text.trimmed? s = some s := by
  obtain ⟨t, -, ht⟩ := Option.bind_eq_some_iff.mp h
  exact Text.trimmed?_trimmed? ht

theorem Json.memberTrimmed?_eq {name : String} {row : Json} {s : String}
    (h : row.memberText? name = some s) (hs : Text.trimmed? s = some s) :
    row.memberTrimmed? name = some s := by
  rw [memberTrimmed?, h, Option.bind_some, hs]

theorem Json.text?_ofOption (s : Option String) : (ofOption .str s).text? = s := by
  cases s <;> rfl

theorem Json.text?_ofOption_name (f : Option Faction) :
    (ofOption (fun f : Faction => .str f.name) f).text? = f.map Faction.name := by
  cases f <;> rfl

theorem Json.float?_ofOption (x : Option Float) : (ofOption float x).float? = x := by
  cases x <;> rfl

/-! ## Markers -/

namespace Marker

/-- A marker whose texts an import takes as they are. -/
structure Importable (m : Marker Float) : Prop where
  id : Text.trimmed? m.id = some m.id
  map : Text.trimmed? m.map = some m.map
  name : Text.trimmed? m.name = some m.name
  source : ∃ s, m.source = some s ∧ Text.trimmed? s = some s

/-- The marker as an import stores it. -/
def stored (m : Marker Float) : StoredMarker where
  id := m.id
  kind := m.kind
  faction := m.faction
  map := m.map
  region := m.region
  name := m.name
  note := m.note
  x := StoredMarker.storedCoordinate m.x
  y := StoredMarker.storedCoordinate m.y
  source := m.source

/-- The encoded marker is read back, whatever source is the default. -/
theorem Importable.ofRow?_encode {m : Marker Float} (h : m.Importable) (source : String) :
    StoredMarker.ofRow? source m.encode = some m.stored := by
  obtain ⟨s, hs, hstrim⟩ := h.source
  let row := m.encode
  -- Each member of the row is read back as what it was written from.
  have hkind : row.memberText? "kind" = some m.kind.name := rfl
  have hid : row.memberTrimmed? "id" = some m.id := Json.memberTrimmed?_eq rfl h.id
  have hmap : row.memberTrimmed? "map" = some m.map := Json.memberTrimmed?_eq rfl h.map
  have hname : row.memberTrimmed? "name" = some m.name := Json.memberTrimmed?_eq rfl h.name
  have hregion : row.memberText? "region" = m.region := Json.text?_ofOption m.region
  have hnote : row.memberText? "note" = m.note := Json.text?_ofOption m.note
  have hx : row.memberFloat? "x" = m.x := Json.float?_ofOption m.x
  have hy : row.memberFloat? "y" = m.y := Json.float?_ofOption m.y
  have hsource : row.memberTrimmed? "source" = some s := by
    refine Json.memberTrimmed?_eq ?_ hstrim
    rw [← hs]
    exact Json.text?_ofOption m.source
  have hfaction : (row.memberText? "faction").bind Faction.normalize = m.faction := by
    have hword : row.memberText? "faction" = m.faction.map Faction.name :=
      Json.text?_ofOption_name m.faction
    rw [hword]
    cases m.faction with
    | none => rfl
    | some f => rw [Option.map_some, Option.bind_some, f.normalize_name]
  show StoredMarker.ofRow? source row = some m.stored
  simp only [StoredMarker.ofRow?, hkind, hid, hmap, hname, hregion, hnote, hx, hy, hsource,
    hfaction, MarkerKind.ofName?_name, Option.bind_eq_bind, Option.bind_some, Option.getD_some]
  rw [← hs, stored]

end Marker

namespace StoredMarker

/-- A marker that an import would store as it is. -/
structure Canonical (m : StoredMarker) : Prop where
  id : Text.trimmed? m.id = some m.id
  map : Text.trimmed? m.map = some m.map
  name : Text.trimmed? m.name = some m.name
  source : ∃ s, m.source = some s ∧ Text.trimmed? s = some s
  x : storedCoordinate m.x = m.x
  y : storedCoordinate m.y = m.y

theorem storedCoordinate_idem (x : Option Float) :
    storedCoordinate (storedCoordinate x) = storedCoordinate x := by
  cases x with
  | none => rfl
  | some x => exact congrArg some (Scalar.plainZero_plainZero x)

theorem canonical_of_ofRow? {source : String} (hsource : Text.trimmed? source = some source)
    {row : Json} {m : StoredMarker} (h : ofRow? source row = some m) : m.Canonical := by
  simp only [ofRow?, Option.bind_eq_bind, Option.bind_eq_some_iff, Option.some.injEq] at h
  obtain ⟨kind, -, map, hmap, name, hname, rfl⟩ := h
  refine ⟨?_, Json.trimmed?_of_memberTrimmed? hmap, Json.trimmed?_of_memberTrimmed? hname, ?_,
    storedCoordinate_idem _, storedCoordinate_idem _⟩
  · cases hid : row.memberTrimmed? "id" with
    | none =>
      rw [Option.getD_none]
      exact MarkerIdentity.trimmed?_id _
    | some id =>
      rw [Option.getD_some]
      exact Json.trimmed?_of_memberTrimmed? hid
  · refine ⟨_, rfl, ?_⟩
    cases hs : row.memberTrimmed? "source" with
    | none =>
      rw [Option.getD_none]
      exact hsource
    | some s =>
      rw [Option.getD_some]
      exact Json.trimmed?_of_memberTrimmed? hs

theorem Canonical.importable {m : StoredMarker} (h : m.Canonical) (done : Bool) :
    (m.toMarker done).Importable := ⟨h.id, h.map, h.name, h.source⟩

theorem Canonical.stored_toMarker {m : StoredMarker} (h : m.Canonical) (done : Bool) :
    (m.toMarker done).stored = m := by
  simp only [Marker.stored, toMarker, h.x, h.y]

/-- The backup of a canonical marker is read back as the marker, whatever source is the default. -/
theorem Canonical.ofRow?_encode {m : StoredMarker} (h : m.Canonical) (source : String)
    (done : Bool) : ofRow? source (m.toMarker done).encode = some m := by
  rw [(h.importable done).ofRow?_encode, h.stored_toMarker]

end StoredMarker

/-! ## Flags -/

/-- An owner that its backup names again. -/
def Owner.Canonical (o : Owner) : Prop :=
  of? o.scope (if o.scope = .character then some o.name else none) = some o

theorem Owner.canonical_of_of? {scope : Scope} {characterId : Option String} {o : Owner}
    (h : of? scope characterId = some o) : o.Canonical := by
  unfold of? at h
  obtain ⟨name, hname, rfl⟩ := Option.map_eq_some_iff.mp h
  unfold Canonical
  cases scope with
  | account =>
    obtain rfl : "" = name := Option.some.inj hname
    rfl
  | character =>
    obtain ⟨text, -, htrim⟩ := Option.bind_eq_some_iff.mp hname
    simp only [if_true, of?, Scope.owner?, Option.bind_some, Text.trimmed?_trimmed? htrim,
      Option.map_some]

namespace DoneFlag

theorem owner_canonical_of_ofRow? {now : Int64} {row : Json} {f : DoneFlag}
    (h : ofRow? now row = some f) : f.owner.Canonical := by
  simp only [ofRow?, Option.bind_eq_bind, Option.bind_eq_some_iff] at h
  obtain ⟨scope, -, markerId, -, h⟩ := h
  split at h
  · cases h
  · obtain ⟨owner, howner, hf⟩ := Option.bind_eq_some_iff.mp h
    cases hf
    exact Owner.canonical_of_of? howner

theorem int64?_int (n : Int64) : (Json.int n.toInt).int64? = some n := by
  have hlow : Int64.minValue.toInt ≤ n.toInt := n.minValue_le_toInt
  have hhigh : n.toInt ≤ Int64.maxValue.toInt := n.toInt_le
  show (if Int64.minValue.toInt ≤ n.toInt ∧ n.toInt ≤ Int64.maxValue.toInt then
    some (Int64.ofInt n.toInt) else none) = some n
  rw [if_pos ⟨hlow, hhigh⟩, Int64.ofInt_toInt]

/-- The backup of a flag is read back as the flag, at any time. -/
theorem ofRow?_encode {f : DoneFlag} (howner : f.owner.Canonical)
    (hid : Text.trimmed? f.markerId = some f.markerId) (now : Int64) :
    ofRow? now f.record.encode = some f := by
  obtain ⟨⟨scope, name⟩, markerId, doneAtMs⟩ := f
  -- The backup of an account's flag has no member for a character.
  let row := (DoneFlag.record ⟨⟨scope, name⟩, markerId, doneAtMs⟩).encode
  have hscope : row.memberText? "scope" = some scope.name := by cases scope <;> rfl
  have hmarker : row.memberTrimmed? "markerId" = some markerId := by
    refine Json.memberTrimmed?_eq ?_ hid
    cases scope <;> rfl
  have hdone : row.member? "done" = none := by cases scope <;> rfl
  have htime : (row.member? "doneAtMs").bind Json.int64? = some doneAtMs := by
    have hmember : row.member? "doneAtMs" = some (Json.int doneAtMs.toInt) := by
      cases scope <;> rfl
    rw [hmember, Option.bind_some, int64?_int]
  have hcharacter : row.memberText? "characterId" =
      if scope = .character then some name else none := by cases scope <;> rfl
  show ofRow? now row = some _
  have howner : Owner.of? scope (if scope = .character then some name else none) =
      some ⟨scope, name⟩ := howner
  simp only [ofRow?, hscope, hmarker, hdone, htime, hcharacter, howner, Scope.ofName?_name,
    Option.bind_eq_bind, Option.bind_some, Option.bind_none, reduceCtorEq, if_false,
    Option.getD_some]

end DoneFlag

end MarkerAtlas
