import MarkerAtlas.Pointer.Event
import MarkerAtlas.Json.Decoder

/-!
# Pointer and wheel events in JSON

An event is an object whose member `type` names its kind; the other members are its fields.
-/

namespace MarkerAtlas.InputEvent

/-- The kinds of events by name, each with its fields. -/
def kinds : List (String × Record (InputEvent Float)) :=
  [("pointerDown",
      (fun pointer button x y => pointerDown pointer button ⟨x, y⟩)
        <$> Record.required "pointerId" Decoder.uint32
        <*> Record.withDefault "button" Decoder.uint8 0
        <*> Record.required "x" Decoder.float <*> Record.required "y" Decoder.float),
    ("pointerMove",
      (fun pointer x y => pointerMove pointer ⟨x, y⟩)
        <$> Record.required "pointerId" Decoder.uint32
        <*> Record.required "x" Decoder.float <*> Record.required "y" Decoder.float),
    ("pointerUp", pointerUp <$> Record.required "pointerId" Decoder.uint32),
    ("pointerCancel", pointerCancel <$> Record.required "pointerId" Decoder.uint32),
    ("wheel",
      (fun x y deltaY => wheel ⟨x, y⟩ deltaY) <$> Record.required "x" Decoder.float
        <*> Record.required "y" Decoder.float <*> Record.required "deltaY" Decoder.float)]

/-- Reads an event. -/
def decode : Decoder (InputEvent Float) := Tagged.decode "type" kinds

/-- Writes an event. -/
def encode : InputEvent Float → Json
  | pointerDown pointer button p =>
    .obj [("type", .str "pointerDown"), ("pointerId", Json.nat pointer.toNat),
      ("button", Json.nat button.toNat), ("x", Json.float p.x), ("y", Json.float p.y)]
  | pointerMove pointer p =>
    .obj [("type", .str "pointerMove"), ("pointerId", Json.nat pointer.toNat),
      ("x", Json.float p.x), ("y", Json.float p.y)]
  | pointerUp pointer => .obj [("type", .str "pointerUp"), ("pointerId", Json.nat pointer.toNat)]
  | pointerCancel pointer =>
    .obj [("type", .str "pointerCancel"), ("pointerId", Json.nat pointer.toNat)]
  | wheel p deltaY =>
    .obj [("type", .str "wheel"), ("x", Json.float p.x), ("y", Json.float p.y),
      ("deltaY", Json.float deltaY)]

end MarkerAtlas.InputEvent
