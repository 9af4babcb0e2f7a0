import MarkerAtlas.Progress.Basic
import MarkerAtlas.Marker.Codec

/-!
# Progress in JSON
-/

namespace MarkerAtlas

/-- The fields of the command to set a done flag. -/
def SetDone.record : Record SetDone :=
  SetDone.mk <$> Record.withDefault "scope" Scope.decode .account
    <*> Record.optional "characterId" Decoder.text
    <*> Record.required "markerId" Decoder.text
    <*> Record.required "done" Decoder.bool

/-- Writes the command to set a done flag. -/
def SetDone.encode (c : SetDone) : Json :=
  .obj [("scope", .str c.scope.name), ("characterId", Json.ofOption .str c.characterId),
    ("markerId", .str c.markerId), ("done", .bool c.done)]

/-- The fields of a backed up done flag. -/
def ProgressRecord.record : Record ProgressRecord :=
  ProgressRecord.mk <$> Record.required "scope" Scope.decode
    <*> Record.optional "characterId" Decoder.text
    <*> Record.required "markerId" Decoder.text
    <*> Record.required "doneAtMs" Decoder.int64

/-- Writes a done flag for a backup. -/
def ProgressRecord.encode (r : ProgressRecord) : Json :=
  .obj (("scope", .str r.scope.name) :: (Json.memberIfSome "characterId" .str r.characterId
    ++ [("markerId", .str r.markerId), ("doneAtMs", Json.int r.doneAtMs.toInt)]))

/-- The fields of a marker import. -/
def MarkerImport.record : Record MarkerImport :=
  MarkerImport.mk <$> Record.required "items" (Decoder.list Decoder.json)
    <*> Record.optional "defaultSource" Decoder.text

/-- Writes a marker import. -/
def MarkerImport.encode (i : MarkerImport) : Json :=
  .obj [("items", .arr i.items), ("defaultSource", Json.ofOption .str i.defaultSource)]

/-- The fields of a progress import. -/
def ProgressImport.record : Record ProgressImport :=
  ProgressImport.mk <$> Record.required "progress" (Decoder.list Decoder.json)

/-- Writes a report on an import. -/
def ImportReport.encode (r : ImportReport) : Json :=
  .obj [("inserted", Json.nat r.inserted), ("total", Json.nat r.total),
    ("updated", Json.nat r.updated)]

end MarkerAtlas
