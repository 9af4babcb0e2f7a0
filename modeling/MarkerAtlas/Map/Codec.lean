import MarkerAtlas.Map.Basic
import MarkerAtlas.Json.Decoder

/-!
# Map metadata in JSON
-/

namespace MarkerAtlas

/-- The fields of a map's metadata. -/
def MapMeta.record : Record MapMeta :=
  MapMeta.mk <$> Record.required "name" Decoder.text
    <*> Record.required "order" Decoder.int64
    <*> Record.optional "type" Decoder.text
    <*> Record.required "tileWidth" Decoder.uint32
    <*> Record.required "tileHeight" Decoder.uint32
    <*> Record.required "tilesCountX" Decoder.uint32
    <*> Record.required "tilesCountY" Decoder.uint32
    <*> Record.required "width" Decoder.uint32
    <*> Record.required "height" Decoder.uint32
    <*> Record.optional "source" Decoder.text

/-- Writes a map's metadata with every field, null for what it lacks. -/
def MapMeta.encode (m : MapMeta) : Json :=
  .obj [("name", .str m.name), ("order", Json.int m.order.toInt),
    ("type", Json.ofOption .str m.style), ("tileWidth", Json.nat m.tileWidth.toNat),
    ("tileHeight", Json.nat m.tileHeight.toNat), ("tilesCountX", Json.nat m.tilesCountX.toNat),
    ("tilesCountY", Json.nat m.tilesCountY.toNat), ("width", Json.nat m.width.toNat),
    ("height", Json.nat m.height.toNat), ("source", Json.ofOption .str m.source)]

end MarkerAtlas
