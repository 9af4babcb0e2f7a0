import MarkerAtlas.Database.Archive
import MarkerAtlas.Database.Basic
import MarkerAtlas.Database.Condition
import MarkerAtlas.Database.Import
import MarkerAtlas.Database.Listing
import MarkerAtlas.Database.Log
import MarkerAtlas.Database.Pattern
import MarkerAtlas.Database.Progress
import MarkerAtlas.Decimal.Binary64
import MarkerAtlas.Decimal.Layout
import MarkerAtlas.Decimal.Reader
import MarkerAtlas.Decimal.Shortest
import MarkerAtlas.Decimal.Text
import MarkerAtlas.Digest.Sha256
import MarkerAtlas.Json.Basic
import MarkerAtlas.Json.Decoder
import MarkerAtlas.Json.Draft
import MarkerAtlas.Json.Reader
import MarkerAtlas.Json.Writer
import MarkerAtlas.Main
import MarkerAtlas.Map.Basic
import MarkerAtlas.Map.Catalog
import MarkerAtlas.Map.Codec
import MarkerAtlas.Marker.Basic
import MarkerAtlas.Marker.Codec
import MarkerAtlas.Marker.Filter
import MarkerAtlas.Marker.Label
import MarkerAtlas.Plane
import MarkerAtlas.Pointer.Codec
import MarkerAtlas.Pointer.Drag
import MarkerAtlas.Pointer.Event
import MarkerAtlas.Progress.Basic
import MarkerAtlas.Progress.Codec
import MarkerAtlas.Proofs.Route.Tour
import MarkerAtlas.Proofs.Route.Walk
import MarkerAtlas.Proofs.Store.Answers
import MarkerAtlas.Route.Basic
import MarkerAtlas.Route.Codec
import MarkerAtlas.Route.Greedy
import MarkerAtlas.Route.Plan
import MarkerAtlas.Route.TwoOpt
import MarkerAtlas.Route.Walk
import MarkerAtlas.Scalar.Basic
import MarkerAtlas.Scalar.Double
import MarkerAtlas.Scalar.Hypot
import MarkerAtlas.Service.Address
import MarkerAtlas.Service.Command
import MarkerAtlas.Service.Console
import MarkerAtlas.Service.Form
import MarkerAtlas.Service.Job
import MarkerAtlas.Service.MediaType
import MarkerAtlas.Service.Message
import MarkerAtlas.Service.Origin
import MarkerAtlas.Service.Router
import MarkerAtlas.Session.Basic
import MarkerAtlas.Session.Codec
import MarkerAtlas.Session.Error
import MarkerAtlas.Session.Frame
import MarkerAtlas.Settings.Basic
import MarkerAtlas.Settings.Document
import MarkerAtlas.Store.Dialogue
import MarkerAtlas.Store.Failure
import MarkerAtlas.Store.Memory
import MarkerAtlas.Text.Blank
import MarkerAtlas.Text.CaseTable
import MarkerAtlas.Text.CharSet
import MarkerAtlas.Text.Hidden
import MarkerAtlas.Text.Integer
import MarkerAtlas.Text.LowerCase
import MarkerAtlas.Text.Quoted
import MarkerAtlas.Text.Utf8
import MarkerAtlas.View.Cluster
import MarkerAtlas.View.Viewport
import MarkerAtlas.View.Visibility
import MarkerAtlas.Yaml.Cursor
import MarkerAtlas.Yaml.Node
import MarkerAtlas.Yaml.Scalar
import MarkerAtlas.Yaml.Tag
import MarkerAtlas.Yaml.Token
import MarkerAtlas.Proofs.Session.Run
import MarkerAtlas.Proofs.Session.Sound
import MarkerAtlas.Proofs.Session.Listing
import MarkerAtlas.Proofs.Session.Coherent
import MarkerAtlas.Proofs.Service.Coherence
import MarkerAtlas.Proofs.Scalar.Order
import MarkerAtlas.Proofs.Database.Canonical
import MarkerAtlas.Proofs.Database.Order
import MarkerAtlas.Proofs.Database.Permuted
import MarkerAtlas.Proofs.Database.Backup
import MarkerAtlas.Proofs.Database.Revision
import MarkerAtlas.Proofs.View.CellKey
import MarkerAtlas.Proofs.View.Cluster
import MarkerAtlas.Proofs.Session.Frame
import MarkerAtlas.Proofs.Store.Flags
import MarkerAtlas.Proofs.Session.Atomic
import MarkerAtlas.Proofs.Session.History
import MarkerAtlas.Proofs.Session.MapChange
import MarkerAtlas.Proofs.Session.Routing
import MarkerAtlas.Proofs.Session.Ownership
import MarkerAtlas.Proofs.Session.Fitting
import MarkerAtlas.Proofs.Database.Search
import MarkerAtlas.Proofs.Store.Agreement
import MarkerAtlas.Proofs.Database.Replay
import MarkerAtlas.Proofs.Database.Separation
import MarkerAtlas.Proofs.Service.Access
import MarkerAtlas.Proofs.Service.Gate
import MarkerAtlas.Proofs.Service.Traffic
import MarkerAtlas.Proofs.Route.Shortening
import MarkerAtlas.Proofs.Session.Dragging
import MarkerAtlas.Proofs.Session.Clicking
import MarkerAtlas.Proofs.Json.Reader
import MarkerAtlas.Proofs.Json.ObjectText
import MarkerAtlas.Proofs.Json.Record
import MarkerAtlas.Proofs.Json.Written
import MarkerAtlas.Proofs.Json.Value
import MarkerAtlas.Proofs.Json.Wire
import MarkerAtlas.Proofs.Route.Nearest
import MarkerAtlas.Proofs.Route.Passes
import MarkerAtlas.Proofs.Route.LocalOptimum
import MarkerAtlas.Proofs.Database.Pattern
import MarkerAtlas.Proofs.Text.ByteOrder
import MarkerAtlas.Proofs.Database.Listing
import MarkerAtlas.Proofs.Database.Merge
import MarkerAtlas.Proofs.Database.Restore
import MarkerAtlas.Proofs.Database.Maps
import MarkerAtlas.Proofs.Database.Identity
import MarkerAtlas.Proofs.View.Culling
import MarkerAtlas.Proofs.Database.Turning
import MarkerAtlas.Proofs.Session.Course
import MarkerAtlas.Proofs.Session.Distance
import MarkerAtlas.Proofs.Session.Stepping
import MarkerAtlas.Proofs.Session.Toggling
import MarkerAtlas.Proofs.View.Zooming
import MarkerAtlas.Proofs.View.ScaleBounds
import MarkerAtlas.Proofs.View.FittedMap
import MarkerAtlas.Proofs.View.Centroid
import MarkerAtlas.Proofs.Text.Words
import MarkerAtlas.Proofs.Marker.Label
import MarkerAtlas.Proofs.Route.Pruning
import MarkerAtlas.Proofs.Service.Metadata
import MarkerAtlas.Proofs.View.Direction
import MarkerAtlas.Proofs.Marker.Wording
import MarkerAtlas.Proofs.Service.Origin
import MarkerAtlas.Proofs.Database.Condition
import MarkerAtlas.Proofs.Yaml.Alias
import MarkerAtlas.Proofs.Settings.Document
