import MarkerAtlas.Marker.Filter
import MarkerAtlas.Json.Decoder

/-!
# Markers and filters in JSON
-/

namespace MarkerAtlas

/-- Reads the name of a kind. -/
def MarkerKind.decode : Decoder MarkerKind := Decoder.choice MarkerKind.names

/-- Reads the name of a faction. -/
def Faction.decode : Decoder Faction := Decoder.choice Faction.names

/-- Reads the name of a scope. -/
def Scope.decode : Decoder Scope := Decoder.choice Scope.names

/-- The fields of a marker. -/
def Marker.record : Record (Marker Float) :=
  Marker.mk <$> Record.required "id" Decoder.text
    <*> Record.required "kind" MarkerKind.decode
    <*> Record.optional "faction" Faction.decode
    <*> Record.required "map" Decoder.text
    <*> Record.optional "region" Decoder.text
    <*> Record.required "name" Decoder.text
    <*> Record.optional "note" Decoder.text
    <*> Record.optional "x" Decoder.float
    <*> Record.optional "y" Decoder.float
    <*> Record.optional "source" Decoder.text
    <*> Record.withDefault "done" Decoder.bool false

/-- Writes a marker with every field, null for what it lacks. -/
def Marker.encode (m : Marker Float) : Json :=
  .obj [("id", .str m.id), ("kind", .str m.kind.name),
    ("faction", Json.ofOption (fun f => .str f.name) m.faction), ("map", .str m.map),
    ("region", Json.ofOption .str m.region), ("name", .str m.name),
    ("note", Json.ofOption .str m.note), ("x", Json.ofOption Json.float m.x),
    ("y", Json.ofOption Json.float m.y), ("source", Json.ofOption .str m.source),
    ("done", .bool m.done)]

/-- The fields of a filter. -/
def MarkerFilter.record : Record MarkerFilter :=
  MarkerFilter.mk <$> Record.withDefault "scope" Scope.decode .account
    <*> Record.optional "characterId" Decoder.text
    <*> Record.optional "map" Decoder.text
    <*> Record.optional "kind" MarkerKind.decode
    <*> Record.optional "faction" Faction.decode
    <*> Record.optional "q" Decoder.text
    <*> Record.withDefault "onlyRemaining" Decoder.bool false

/-- A member that is left out when its value is missing. -/
def Json.memberIfSome {α : Type} (name : String) (f : α → Json) (value : Option α) :
    List (String × Json) :=
  match value with
  | none => []
  | some a => [(name, f a)]

/-- Writes a filter; what it does not ask for is left out. -/
def MarkerFilter.encode (f : MarkerFilter) : Json :=
  .obj (("scope", .str f.scope.name) :: (Json.memberIfSome "characterId" .str f.characterId
    ++ Json.memberIfSome "map" .str f.map
    ++ Json.memberIfSome "kind" (fun k => .str k.name) f.kind
    ++ Json.memberIfSome "faction" (fun g => .str g.name) f.faction
    ++ Json.memberIfSome "q" .str f.query
    ++ [("onlyRemaining", .bool f.onlyRemaining)]))

end MarkerAtlas
