import MarkerAtlas.Store.Dialogue
import MarkerAtlas.Text.LowerCase

/-!
# A store in memory

A store that holds its markers and maps in lists and its done flags in a set of keys. It can be
told to refuse every read or every write.
-/

namespace MarkerAtlas

variable {α : Type}

/-- Whose flag on which marker. The account's flags have no character. -/
structure ProgressKey where
  scope : Scope
  characterId : Option String
  markerId : String
  deriving DecidableEq

/-- A store in memory. -/
structure MemoryStore (α : Type) where
  markers : List (Marker α)
  maps : List MapMeta
  progress : List ProgressKey
  refusesReads : Bool
  refusesWrites : Bool

namespace MemoryStore

/-- A store with these maps and markers. Markers that are done are so for the account. -/
def ofLists (maps : List MapMeta) (markers : List (Marker α)) : MemoryStore α where
  markers := markers
  maps := MapMeta.sort maps
  progress := (markers.filter (·.done)).map fun m => ⟨.account, none, m.id⟩
  refusesReads := false
  refusesWrites := false

/-- The character whose progress counts. -/
def characterOf (scope : Scope) (characterId : Option String) : Option String :=
  match scope with
  | .account => none
  | .character => characterId

/-- Is the search text found in a text, whatever the case of the letters? -/
def holds (wanted text : String) : Bool := Text.contains (Text.lower text) (Text.lower wanted)

/-- Is the search text, if there is one, found in the marker's name, region or map? -/
def found (f : MarkerFilter) (m : Marker α) : Bool :=
  f.searchText.all fun wanted =>
    holds wanted m.name || m.region.any (holds wanted) || holds wanted m.map

/-- The marker as it shows the filter's progress. -/
def marked (s : MemoryStore α) (f : MarkerFilter) (m : Marker α) : Marker α :=
  { m with done := decide (⟨f.scope, characterOf f.scope f.characterId, m.id⟩ ∈ s.progress) }

/-- Is the progress of a character asked for without saying of which? -/
def lacksCharacter (scope : Scope) (characterId : Option String) : Bool :=
  scope = .character && characterId.isNone

/-- The markers that a filter admits, in the order in which the store holds them. -/
def listMarkers (s : MemoryStore α) (f : MarkerFilter) : Answer (List (Marker α)) :=
  if s.refusesReads then .error .unavailable
  else if lacksCharacter f.scope f.characterId then .error .noCharacter
  else
    let listed := (s.markers.filter fun m => f.admits m && found f m).map (s.marked f)
    .ok (listed.filter fun m => !(f.onlyRemaining && m.done))

/-- The maps in the order of the catalog. -/
def listMaps (s : MemoryStore α) : Answer (List MapMeta) :=
  if s.refusesReads then .error .unavailable else .ok s.maps

/-- Sets or clears a done flag. -/
def setDone (s : MemoryStore α) (c : SetDone) : Answer (MemoryStore α) :=
  if s.refusesWrites then .error .readOnly
  else if lacksCharacter c.scope c.characterId then .error .noCharacter
  else if s.markers.all (·.id ≠ c.markerId) then .error (.notListed c.markerId)
  else
    let key : ProgressKey := ⟨c.scope, characterOf c.scope c.characterId, c.markerId⟩
    let others := s.progress.filter (· ≠ key)
    .ok { s with progress := if c.done then key :: others else others }

/-- The store in memory as a store. -/
def store : Store (MemoryStore α) α := ⟨listMaps, listMarkers, setDone⟩

end MemoryStore

end MarkerAtlas
