import MarkerAtlas.Store.Failure
import MarkerAtlas.Route.Walk
import MarkerAtlas.Text.Quoted

/-!
# What can go wrong in a session
-/

namespace MarkerAtlas

/-- Why a session did not do what it was asked for. -/
inductive SessionError where
  /-- The store knows no such map. -/
  | noMapMeta (map : String)
  | noMapSelected
  | noStartSelected
  | tooManyCandidates (fault : TooManyCandidates)
  | unknownMarker (id : String)
  | missingCoordinates (id : String)
  | unknownCluster (key : String)
  /-- The store did not answer. -/
  | store (failure : StoreFailure)
  deriving DecidableEq

namespace SessionError

/-- What is said of the error; of a failed store only what failed, not why. -/
def message : SessionError → String
  | noMapMeta map => "no map metadata for " ++ Text.quoted map
  | noMapSelected => "no map selected"
  | noStartSelected => "select a start marker first"
  | tooManyCandidates fault =>
    "too many undone markers (" ++ toString fault.count ++ "); narrow the filter (max "
      ++ toString fault.max ++ ")"
  | unknownMarker id => "unknown marker: " ++ id
  | missingCoordinates id => "marker " ++ id ++ " has no coordinates"
  | unknownCluster key => "unknown cluster: " ++ key
  | store failure => failure.message

/-- What went wrong with a route, as an error of the session. -/
def ofRoute : RouteError → SessionError
  | .noStart => noStartSelected
  | .noPosition id => missingCoordinates id
  | .tooMany fault => tooManyCandidates fault

end SessionError

end MarkerAtlas
