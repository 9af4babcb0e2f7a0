import MarkerAtlas.Map.Basic
import MarkerAtlas.Scalar.Double

/-!
# The catalog of maps

The maps of the game that are known beforehand, and the metadata that a map outside the catalog
gets from the markers on it.
-/

namespace MarkerAtlas.Catalog

/-- The side of a map tile in pixels. -/
def tilePixels : UInt32 := 1024

/-- The place of a map that is not in the catalog. -/
def fallbackOrder : Int64 := 999

/-- Where the catalog comes from. -/
def sourceName : String := "aion2-interactive-map"

/-- A map of the catalog. -/
def entry (name : String) (order : Int64) (countX countY : UInt32) (style : String) : MapMeta :=
  { MapMeta.ofTiles name order tilePixels tilePixels countX countY with
    style := some style
    source := some sourceName }

/-- The maps of the catalog, in its order. -/
def maps : List MapMeta :=
  [entry "World_L_A" 0 8 8 "light",
   entry "World_D_A" 1 8 8 "dark",
   entry "World_L_B" 2 6 6 "light",
   entry "World_D_B" 3 8 8 "dark",
   entry "World_L_Starter" 4 4 4 "light",
   entry "World_D_Starter" 5 5 5 "dark",
   entry "Abyss_Reshanta_A" 6 4 4 "abyss",
   entry "Abyss_Reshanta_B" 7 2 2 "abyss"]

/-- The map of the catalog with this name. -/
def find? (name : String) : Option MapMeta := maps.find? (·.name == name)

/-- How many tiles cover the coordinates up to `greatest`: at least one and at most 65535. -/
def tilesFor (greatest : Float) : UInt32 :=
  match Double.natCeil? (Double.greater greatest 0.0 / Double.ofNat tilePixels.toNat) with
  | some n => if 1 ≤ n then UInt32.ofNat (min n 65535) else 1
  | none => 1

/-- A map outside the catalog, as large as the greatest coordinates on it ask for. -/
def fallback (name : String) (greatestX greatestY : Float) : MapMeta :=
  MapMeta.ofTiles name fallbackOrder tilePixels tilePixels (tilesFor greatestX) (tilesFor greatestY)

/-- The metadata of a map: that of the catalog, or else what its coordinates ask for. -/
def metaFor (name : String) (greatestX greatestY : Float) : MapMeta :=
  (find? name).getD (fallback name greatestX greatestY)

end MarkerAtlas.Catalog
