import MarkerAtlas.Proofs.Database.Canonical
import MarkerAtlas.Proofs.Database.Merge
import MarkerAtlas.Proofs.Json.Apart
import MarkerAtlas.Proofs.Json.Range

/-!
# Derived ids

A row without an id is stored under a digest of the text of what identifies it. Different identities
have different texts, so that, as long as no two of the texts collide, a derived id stands for the
identity and for nothing else: the same row updates its own marker, however it is spelled, and other
rows leave the marker alone.

* `eq_of_render_eq`: the text of an identity tells it from every other.
* `identity?`: what of a row counts as its identity.
* `derived_ids`: equal ids are equal identities, and what that means for imports.
-/

namespace MarkerAtlas

open Json

/-- Different texts whose digests have the same first digits. -/
def Sha256.Collide (digits : Nat) (s t : String) : Prop :=
  s ≠ t ∧ (hexDigest s).take digits = (hexDigest t).take digits

/-! ## The text of an identity -/

namespace MarkerIdentity

/-- The coordinates have a JSON text of their own. -/
structure Finite (i : MarkerIdentity) : Prop where
  x : ∀ v, i.x = some v → v.isFinite = true
  y : ∀ v, i.y = some v → v.isFinite = true

theorem kind_name_injective : Function.Injective MarkerKind.name := by
  intro k l h
  have hread := congrArg MarkerKind.ofName? h
  rwa [MarkerKind.ofName?_name, MarkerKind.ofName?_name, Option.some.injEq] at hread

theorem faction_name_injective : Function.Injective Faction.name := by
  intro f g h
  have hread := congrArg Faction.normalize h
  rwa [Faction.normalize_name, Faction.normalize_name, Option.some.injEq] at hread

/-- A missing text is told apart from an empty one: no string begins like null. -/
theorem tellsApart_text : TellsApart (fun o : Option String => ∀ s, o = some s → True)
    fun o => textOf (ofOption .str o) := by
  apply tellsApart_str.ofOption
  rintro s r - ⟨⟩

theorem tellsApart_kind : TellsApart (fun _ => True) fun k : MarkerKind => textOf (.str k.name) :=
  TellsApart.named kind_name_injective

theorem tellsApart_faction : TellsApart (fun o : Option Faction => ∀ f, o = some f → True)
    fun o => textOf (ofOption (fun f => .str f.name) o) := by
  apply TellsApart.ofOption (TellsApart.named faction_name_injective)
  rintro f r - ⟨⟩

/-- A missing number is told apart from every number: numbers begin with a digit or a sign. -/
theorem tellsApart_coordinate :
    TellsApart (fun o : Option Float => ∀ x, o = some x → x.isFinite = true)
      fun o => textOf (ofOption float o) := by
  apply tellsApart_float.ofOption
  intro x r hx
  obtain ⟨-, c, u, htext, hc, -⟩ := numberParts_real hx
  show (numberText (.real x) ++ r).head? ≠ some 'n'
  rw [htext]
  rintro ⟨⟩
  exact absurd hc (by decide)

theorem textOf_encode (i : MarkerIdentity) : textOf i.encode = '\x7b' ::
    (stringText "kind" ++ ':' :: textOf (.str i.kind.name) ++ ',' ::
    (stringText "map" ++ ':' :: textOf (.str i.map) ++ ',' ::
    (stringText "name" ++ ':' :: textOf (.str i.name) ++ ',' ::
    (stringText "region" ++ ':' :: textOf (ofOption .str i.region) ++ ',' ::
    (stringText "x" ++ ':' :: textOf (ofOption float i.x) ++ ',' ::
    (stringText "y" ++ ':' :: textOf (ofOption float i.y) ++ ',' ::
    (stringText "faction" ++ ':' :: textOf (ofOption (fun f => .str f.name) i.faction) ++
      ['\x7d']))))))) := by
  simp only [encode, textOf, memberTexts, commaSeparated, List.append_assoc, List.cons_append]

/-- Different identities have different texts. -/
theorem eq_of_render_eq {i j : MarkerIdentity} (hi : i.Finite) (hj : j.Finite)
    (h : i.encode.render = j.encode.render) : i = j := by
  have htext : textOf i.encode = textOf j.encode := String.ofList_injective h
  rw [textOf_encode, textOf_encode] at htext
  -- The members are told apart from the front; each is followed by a comma or the closing bracket.
  have hends (cs : List Char) := endsNumber_comma cs
  obtain ⟨hkind, hrest⟩ := tellsApart_kind.member trivial trivial
    (hends _) (hends _) (List.cons.inj htext).2
  obtain ⟨hmap, hrest⟩ := tellsApart_str.member trivial trivial (hends _) (hends _)
    (List.cons.inj hrest).2
  obtain ⟨hname, hrest⟩ := tellsApart_str.member trivial trivial (hends _) (hends _)
    (List.cons.inj hrest).2
  obtain ⟨hregion, hrest⟩ := tellsApart_text.member (fun _ _ => trivial) (fun _ _ => trivial)
    (hends _) (hends _) (List.cons.inj hrest).2
  obtain ⟨hx, hrest⟩ := tellsApart_coordinate.member hi.x hj.x (hends _) (hends _)
    (List.cons.inj hrest).2
  obtain ⟨hy, hrest⟩ := tellsApart_coordinate.member hi.y hj.y (hends _) (hends _)
    (List.cons.inj hrest).2
  obtain ⟨hfaction, -⟩ := tellsApart_faction.member (fun _ _ => trivial) (fun _ _ => trivial)
    (endsNumber_brace _) (endsNumber_brace _) (List.cons.inj hrest).2
  cases i
  cases j
  cases hkind; cases hmap; cases hname; cases hregion; cases hx; cases hy; cases hfaction
  rfl

/-- Where their texts do not collide, identities and derived ids are told apart alike. -/
theorem id_eq_iff {i j : MarkerIdentity} (hi : i.Finite) (hj : j.Finite)
    (hdigest : ¬ Sha256.Collide idDigits i.encode.render j.encode.render) :
    i.id = j.id ↔ i = j := by
  refine ⟨fun hid => ?_, congrArg id⟩
  -- All derived ids begin alike; what is left are the digits.
  have hdigits : (Sha256.hexDigest i.encode.render).take idDigits =
      (Sha256.hexDigest j.encode.render).take idDigits := by
    have hlist := congrArg String.toList hid
    rw [id, id, String.toList_append, String.toList_append, String.toList_ofList,
      String.toList_ofList] at hlist
    exact List.append_cancel_left hlist
  -- Equal digits of different texts would be a collision.
  apply eq_of_render_eq hi hj
  by_contra hne
  exact hdigest ⟨hne, hdigits⟩

end MarkerIdentity

/-! ## Imports of one row -/

namespace Database

variable {db : Database} {i : MarkerImport} {n : StoredMarker}

/-- A single marker takes the place of the one with its id. -/
theorem mem_importMarkers_single (h : db.Canonical) (hi : i.accepted = [n]) {x : StoredMarker} :
    x ∈ (db.importMarkers i).1.markers ↔ x = n ∨ (x ∈ db.markers ∧ x.id ≠ n.id) := by
  have hmerges := merges_importMarkers h i
  have hnd : ([n].map (·.id)).Nodup := List.nodup_singleton _
  rw [hi] at hmerges
  rw [hmerges.mem, isLastOf_iff_mem _ hnd, List.mem_singleton, List.map_singleton,
    List.mem_singleton]

/-- A single marker whose id is stored is updated. -/
theorem importMarkers_single_known (h : db.Canonical) (hi : i.accepted = [n])
    (hknown : n.id ∈ db.markers.map (·.id)) : (db.importMarkers i).2 = ⟨0, 1⟩ := by
  have hmerges := merges_importMarkers h i
  rw [hi] at hmerges
  have hinserted := hmerges.inserted_eq_zero _ (by simpa using hknown)
  have htotal := hmerges.total
  rw [hinserted, List.length_singleton, Nat.zero_add] at htotal
  rw [← hinserted, ← htotal]

end Database

/-! ## Rows without an id -/

namespace Json

/-- What identifies the marker of a row: its kind, its trimmed map and name, its region as it
stands, its coordinates as doubles, and its faction under whatever alias. -/
def identity? (row : Json) : Option MarkerIdentity := do
  let kind ← (row.memberText? "kind").bind MarkerKind.ofName?
  let map ← row.memberTrimmed? "map"
  let name ← row.memberTrimmed? "name"
  some {
    kind := kind
    map := map
    name := name
    region := row.memberText? "region"
    x := row.memberFloat? "x"
    y := row.memberFloat? "y"
    faction := (row.memberText? "faction").bind Faction.normalize }

/-- The identity is looked up by name: the order of the members is of no account. -/
theorem identity?_of_perm {ms ms' : List (String × Json)} (hnd : (ms.map (·.1)).Nodup)
    (hperm : ms.Perm ms') : (obj ms).identity? = (obj ms').identity? := by
  -- At most one member has the name that is looked for.
  have hmember : ∀ name, (obj ms).member? name = (obj ms').member? name := by
    intro name
    have hfind := List.find?_eq_find?_of_perm (p := fun m => m.1 == name) hperm fun m hm m' hm' =>
      List.inj_on_of_nodup_map hnd hm.1 hm'.1
        ((beq_iff_eq.mp hm.2).trans (beq_iff_eq.mp hm'.2).symm)
    exact congrArg (Option.map Prod.snd) hfind
  simp only [identity?, memberTrimmed?, memberText?, memberFloat?, hmember]

end Json

/-- The marker that is stored for a row with this identity. -/
def MarkerIdentity.stored (i : MarkerIdentity) (row : Json) (source : String) : StoredMarker where
  id := (row.memberTrimmed? "id").getD i.id
  kind := i.kind
  faction := i.faction
  map := i.map
  region := i.region
  name := i.name
  note := row.memberText? "note"
  x := StoredMarker.storedCoordinate i.x
  y := StoredMarker.storedCoordinate i.y
  source := some ((row.memberTrimmed? "source").getD source)

/-- The rows that have an identity are those that are taken. -/
theorem StoredMarker.ofRow?_eq_map_identity (source : String) (row : Json) :
    ofRow? source row = row.identity?.map fun i => i.stored row source := by
  unfold ofRow? Json.identity?
  cases (row.memberText? "kind").bind MarkerKind.ofName? with
  | none => rfl
  | some kind =>
    cases row.memberTrimmed? "map" with
    | none => rfl
    | some map =>
      cases row.memberTrimmed? "name" with
      | none => rfl
      | some name => rfl

namespace Json

/-- A row without a usable id that an import takes, with its identity and the marker that is
stored for it. -/
structure Derives (row : Json) (source : Option String) (i : MarkerIdentity) (m : StoredMarker) :
    Prop where
  /-- Its numbers are such as JSON has. -/
  inRange : row.InRange
  /-- It has no id, or a blank one. -/
  unnamed : row.memberTrimmed? "id" = none
  identity : row.identity? = some i
  accepted : (MarkerImport.mk [row] source).accepted = [m]

namespace Derives

variable {row a b : Json} {source source' : Option String} {i j : MarkerIdentity}
  {m n : StoredMarker}

theorem of_identity (hrange : row.InRange) (hid : row.memberTrimmed? "id" = none)
    (hi : row.identity? = some i) (source : Option String) :
    row.Derives source i (i.stored row (MarkerImport.mk [row] source).source) := by
  refine ⟨hrange, hid, hi, ?_⟩
  rw [MarkerImport.accepted, List.filterMap_cons, StoredMarker.ofRow?_eq_map_identity, hi]
  rfl

/-- Every row without a usable id that is taken gets the id of its identity. -/
theorem exists_of_accepted (hrange : row.InRange) (hid : row.memberTrimmed? "id" = none)
    (haccepted : (MarkerImport.mk [row] source).accepted ≠ []) :
    ∃ i m, row.Derives source i m := by
  cases hi : row.identity? with
  | none =>
    apply absurd _ haccepted
    rw [MarkerImport.accepted, List.filterMap_cons, StoredMarker.ofRow?_eq_map_identity, hi]
    rfl
  | some i => exact ⟨i, _, of_identity hrange hid hi source⟩

theorem id_eq (h : row.Derives source i m) : m.id = i.id := by
  have haccepted := (of_identity h.inRange h.unnamed h.identity source).accepted
  rw [h.accepted, List.singleton_inj] at haccepted
  rw [haccepted, MarkerIdentity.stored, h.unnamed, Option.getD_none]

theorem finite (h : row.Derives source i m) : i.Finite := by
  have hi := h.identity
  simp only [identity?, Option.bind_eq_bind, Option.bind_eq_some_iff, Option.some.injEq] at hi
  obtain ⟨kind, -, map, -, name, -, rfl⟩ := hi
  exact ⟨fun _ => h.inRange.memberFloat?, fun _ => h.inRange.memberFloat?⟩

/-- Derived ids identify exactly the identity, as long as the texts of the two do not collide. So a
row that comes in again updates its own marker, whatever else has changed in it and however it is
spelled, and rows of different identities leave each other's markers alone, in one import or in
two. -/
theorem derived_ids (ha : a.Derives source i m) (hb : b.Derives source' j n)
    (hdigest : ¬ Sha256.Collide MarkerIdentity.idDigits i.encode.render j.encode.render) :
    (m.id = n.id ↔ i = j) ∧
    ∀ db, Database.Reachable db →
      (∀ second : MarkerImport, second.accepted = [n] → m ∈ db.markers →
        let after := db.importMarkers second
        n ∈ after.1.markers ∧
        (i = j → after.2 = ⟨0, 1⟩ ∧
          ∀ x, x ∈ after.1.markers ↔ x = n ∨ (x ∈ db.markers ∧ x ≠ m)) ∧
        (i ≠ j → m ∈ after.1.markers)) ∧
      ∀ both : MarkerImport, both.accepted = [m, n] → i ≠ j →
        let after := db.importMarkers both
        m ∈ after.1.markers ∧ n ∈ after.1.markers := by
  have hids : m.id = n.id ↔ i = j := by
    rw [ha.id_eq, hb.id_eq]
    exact MarkerIdentity.id_eq_iff ha.finite hb.finite hdigest
  refine ⟨hids, fun db hdb => ⟨?_, ?_⟩⟩
  · intro second hsecond hm
    have hmem (x : StoredMarker) := Database.mem_importMarkers_single hdb.canonical hsecond (x := x)
    refine ⟨(hmem n).mpr (.inl rfl), ?_, ?_⟩
    · intro hij
      have hid : m.id = n.id := hids.mpr hij
      have hknown : n.id ∈ db.markers.map (·.id) := hid ▸ List.mem_map_of_mem hm
      refine ⟨Database.importMarkers_single_known hdb.canonical hsecond hknown, fun x => ?_⟩
      rw [hmem, ← hid]
      apply or_congr_right
      apply and_congr_right
      intro hx
      -- No other marker has the id of the one that is replaced.
      have hunique : x.id = m.id → x = m := List.inj_on_of_nodup_map hdb.canonical.ids hx hm
      exact not_congr ⟨hunique, congrArg StoredMarker.id⟩
    · -- Another id is not among the new ones, so that its marker stays.
      intro hne
      exact (hmem m).mpr (.inr ⟨hm, mt hids.mp hne⟩)
  · intro both hboth hne
    have hmerges := Database.merges_importMarkers hdb.canonical both
    rw [hboth] at hmerges
    -- Neither of the two gives way to the other, since their ids are different.
    have hnd : ([m, n].map (·.id)).Nodup := by simpa using mt hids.mp hne
    have hlast : ∀ k ∈ [m, n], k ∈ (db.importMarkers both).1.markers := by
      intro k hk
      exact (hmerges.mem k).mpr (.inl ((isLastOf_iff_mem _ hnd).mpr hk))
    exact ⟨hlast m List.mem_cons_self, hlast n (List.mem_cons_of_mem m List.mem_cons_self)⟩

/-- A chest comes in again with its members in another order, its coordinate with a point and its
faction under another name; a chest in a region without a name is another one, in the same import
or later. -/
theorem derived_ids_respelled :
    ∃ m n k : StoredMarker, m.id = n.id ∧ m.id ≠ k.id ∧ ∃ db, Database.Reachable db ∧
      m ∈ db.markers ∧ ∃ second third both : MarkerImport, second.accepted = [n] ∧
        third.accepted = [k] ∧ both.accepted = [m, k] ∧
        (db.importMarkers second).2 = ⟨0, 1⟩ ∧ m ∈ (db.importMarkers third).1.markers ∧
        m ∈ (db.importMarkers both).1.markers ∧ k ∈ (db.importMarkers both).1.markers := by
  let chest : Json := .obj [("kind", .str "CUBE"), ("map", .str "Poeta"), ("name", .str " Chest"),
    ("x", .num (.whole 5)), ("faction", .str "E")]
  let members : List (String × Json) := [("kind", .str "CUBE"), ("map", .str "Poeta "),
    ("name", .str "Chest"), ("x", .num (.real 5.0)), ("faction", .str " light"),
    ("id", .str " "), ("note", .str "by the well")]
  let respelled : Json := .obj members.reverse
  let elsewhere : Json := .obj [("kind", .str "CUBE"), ("map", .str "Poeta"),
    ("name", .str "Chest"), ("region", .str ""), ("x", .num (.whole 5)), ("faction", .str "E")]
  let i : MarkerIdentity := ⟨.cube, "Poeta", "Chest", none, some 5.0, none, some .elyos⟩
  let j : MarkerIdentity := { i with region := some "" }
  have hrange (v : JsonNumber) (hv : v.InRange) (ms : List (String × Json))
      (hms : ∀ p ∈ ms, (∃ s, p.2 = .str s) ∨ p.2 = .num v) : (obj ms).InRange := by
    refine .obj fun p hp => ?_
    rcases hms p hp with ⟨s, hs⟩ | hnum
    · exact hs ▸ .str s
    · exact hnum ▸ .num hv
  have hfive : (JsonNumber.whole 5).InRange := ⟨by decide, by decide⟩
  have hreal : (JsonNumber.real 5.0).InRange := (by decide +kernel : (5.0 : Float).isFinite = true)
  have hchest : chest.identity? = some i := rfl
  have hrespelled : respelled.identity? = some i :=
    (identity?_of_perm (by decide) members.reverse_perm.symm).symm
  have helsewhere : elsewhere.identity? = some j := rfl
  -- Each of the three rows is taken under its identity.
  have ha := of_identity (hrange _ hfive _ (by simp)) rfl hchest none
  have hb := of_identity (hrange _ hreal _ (by simp [members])) rfl hrespelled none
  have hc := of_identity (hrange _ hfive _ (by simp)) rfl helsewhere none
  have hne : i ≠ j := by
    intro heq
    cases congrArg MarkerIdentity.region heq
  -- The digests of the two texts are computed; they differ in the digits that an id keeps.
  have hdigest : (Sha256.hexDigest i.encode.render).take MarkerIdentity.idDigits ≠
      (Sha256.hexDigest j.encode.render).take MarkerIdentity.idDigits := by decide +kernel
  let db := (Database.empty.importMarkers ⟨[chest], none⟩).1
  have hdb : Database.Reachable db := .importMarkers _ .empty
  have hstored := (Database.mem_importMarkers_single Database.Reachable.empty.canonical
    ha.accepted).mpr (.inl rfl)
  let both : MarkerImport := ⟨[chest] ++ [elsewhere], none⟩
  have hboth := (List.filterMap_append : both.accepted = _).trans
    (congrArg₂ List.append ha.accepted hc.accepted)
  obtain ⟨hsame, hagain⟩ := ha.derived_ids hb fun hcollide => hcollide.1 rfl
  obtain ⟨hother, hapart⟩ := ha.derived_ids hc fun hcollide => hdigest hcollide.2
  obtain ⟨-, hupdated, -⟩ := (hagain db hdb).1 _ hb.accepted hstored
  obtain ⟨-, -, hkept⟩ := (hapart db hdb).1 _ hc.accepted hstored
  exact ⟨_, _, _, hsame.mpr rfl, mt hother.mp hne, db, hdb, hstored, _, _, both, hb.accepted,
    hc.accepted, hboth, (hupdated rfl).1, hkept hne, (hapart db hdb).2 both hboth hne⟩

end Derives

end Json

end MarkerAtlas
