/-!
# Maps

The metadata of a map: its place in the catalog and its size, which is that of the tiles it is
drawn with.
-/

namespace MarkerAtlas

/-- What is known of a map. -/
structure MapMeta where
  name : String
  order : Int64
  style : Option String
  tileWidth : UInt32
  tileHeight : UInt32
  tilesCountX : UInt32
  tilesCountY : UInt32
  width : UInt32
  height : UInt32
  source : Option String
  deriving DecidableEq

namespace MapMeta

/-- The product, or the greatest 32-bit number if it does not fit. -/
def saturatingProduct (a b : UInt32) : UInt32 :=
  UInt32.ofNat (min (a.toNat * b.toNat) (UInt32.size - 1))

/-- A map drawn with `countX · countY` tiles of one size. -/
def ofTiles (name : String) (order : Int64) (tileWidth tileHeight countX countY : UInt32) :
    MapMeta where
  name := name
  order := order
  style := none
  tileWidth := tileWidth
  tileHeight := tileHeight
  tilesCountX := countX
  tilesCountY := countY
  width := saturatingProduct tileWidth countX
  height := saturatingProduct tileHeight countY
  source := none

/-- Does the first map come no later in the catalog? Maps are ordered by their place, then by
their name. -/
def comesBefore (a b : MapMeta) : Bool :=
  if a.order = b.order then decide (a.name ≤ b.name) else decide (a.order ≤ b.order)

/-- The maps in the order of the catalog. -/
def sort (maps : List MapMeta) : List MapMeta := maps.mergeSort comesBefore

end MapMeta

end MarkerAtlas
