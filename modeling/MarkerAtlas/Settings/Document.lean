import MarkerAtlas.Settings.Basic
import MarkerAtlas.Scalar.Double
import MarkerAtlas.Decimal.Layout
import MarkerAtlas.Decimal.Text
import MarkerAtlas.Text.Blank
import MarkerAtlas.Yaml.Node

/-!
# Settings in a document

Settings are kept as a YAML document of up to four sections, each with any of its settings; what
is left out has its default. Names that are not known are passed over, a known one may stand only
once.
-/

namespace MarkerAtlas

/-- Why settings cannot be used. -/
inductive SettingsError where
  /-- The file cannot be read. -/
  | unreadable (path reason : String)
  /-- The text is not a document of settings. -/
  | malformed
  /-- The view could not work with the settings. -/
  | fault (f : SettingsFault Float)

/-- How numbers stand in messages: never with an exponent. -/
def SettingsFault.numberLayout : Decimal.Layout where
  positional _ := true
  pointZero := false
  exponentPlus := false
  tie := .up

/-- What a fault of the settings is called. -/
def SettingsFault.message : SettingsFault Float → String
  | .scaleBounds low high =>
    "viewport scale bounds must satisfy 0 < min <= max (got " ++ numberLayout.render low ++ ".."
      ++ numberLayout.render high ++ ")"
  | .zoomIn => "zoom-in factors must be > 1"
  | .wheelZoomOut => "wheel_zoom_out must be in (0, 1)"
  | .cellSize => "cluster.cell_px must be > 0"
  | .maxCandidates => "route.max_candidates must be > 0"

namespace Settings

open Yaml

/-- A reader of the value of one setting. -/
abbrev Reader (β : Type) := Node → Option β

/-- The text of a scalar that may stand for a value with this tag: plain, or a literal block that
carries the tag. -/
def valueText (tag : String) : Reader String
  | .scalar text .plain _ => some text
  | .scalar text .literal t => if t = some tag then some text else none
  | _ => none

/-- The double that a text writes: a decimal, or one of the words for what is not finite. -/
def float? (s : String) : Option Float :=
  if s ∈ [".inf", ".Inf", ".INF", "+.inf", "+.Inf", "+.INF"] then some (1.0 / 0.0)
  else if s ∈ ["-.inf", "-.Inf", "-.INF"] then some (-1.0 / 0.0)
  else if s ∈ [".nan", ".NaN", ".NAN"] then some (0.0 / 0.0)
  else (Double.ofText? s.toList).filter Float.isFinite

/-- The truth value that a text writes. -/
def bool? (s : String) : Option Bool :=
  if s ∈ ["true", "True", "TRUE"] then some true
  else if s ∈ ["false", "False", "FALSE"] then some false
  else none

/-- The number that a non-empty run of digits writes, if it is below 2 ^ 64. -/
def wordToBase (base : Nat) (cs : List Char) : Option Nat :=
  if cs.isEmpty then none else (Text.numeralToBase? base 0 cs).filter (· < UInt64.size)

/-- The count that a text writes: decimal without leading zeros, or to the base that a leading
`0x`, `0o` or `0b` names. -/
def count? (s : String) : Option Nat :=
  let cs := match s.toList with
    | '+' :: cs => cs
    | cs => cs
  let based := match cs with
    | '0' :: 'x' :: ds => wordToBase 16 ds
    | '0' :: 'o' :: ds => wordToBase 8 ds
    | '0' :: 'b' :: ds => wordToBase 2 ds
    | _ => none
  match based with
  | some n => some n
  | none =>
    match cs with
    | '0' :: _ :: _ => none
    | cs => wordToBase 10 cs

/-- Reads a double. -/
def float : Reader Float := fun n => (valueText "tag:yaml.org,2002:float" n).bind float?

/-- Reads a truth value. -/
def bool : Reader Bool := fun n => (valueText "tag:yaml.org,2002:bool" n).bind bool?

/-- Reads a count. -/
def count : Reader Nat := fun n => (valueText "tag:yaml.org,2002:int" n).bind count?

/-- The name and the value of an entry. The name has to be a scalar. -/
def namedEntry (d : Document) (entry : Node × Node) : Option (String × Node) := do
  match ← d.resolve entry.1 with
  | .scalar name _ _ => some (name, ← d.resolve entry.2)
  | _ => none

/-- The entries of a section by name, every name a scalar and every known name there once. A
section that was left empty has none. -/
def sectionOf (d : Document) (known : List String) (n : Node) : Option (List (String × Node)) := do
  let entries ←
    match ← d.resolve n with
    | .mapping entries => some entries
    | .scalar "" .plain _ => some []
    | _ => none
  let named ← entries.mapM (namedEntry d)
  if known.all fun name => named.countP (·.1 == name) ≤ 1 then some named else none

/-- The value of a setting, or its default if the section does not have it. -/
def setting {β : Type} (entries : List (String × Node)) (name : String) (read : Reader β)
    (default : β) : Option β :=
  match entries.find? (·.1 == name) with
  | none => some default
  | some (_, n) => read n

/-- Reads the settings of the view. -/
def readViewport (d : Document) (n : Node) : Option (ViewportSettings Float) := do
  let s ← sectionOf d ["min_scale", "max_scale", "fit_padding_px", "zoom_step", "wheel_zoom_in",
    "wheel_zoom_out", "cluster_zoom"] n
  let standard : ViewportSettings Float := .standard
  some {
    minScale := ← setting s "min_scale" float standard.minScale
    maxScale := ← setting s "max_scale" float standard.maxScale
    fitPadding := ← setting s "fit_padding_px" float standard.fitPadding
    zoomStep := ← setting s "zoom_step" float standard.zoomStep
    wheelZoomIn := ← setting s "wheel_zoom_in" float standard.wheelZoomIn
    wheelZoomOut := ← setting s "wheel_zoom_out" float standard.wheelZoomOut
    clusterZoom := ← setting s "cluster_zoom" float standard.clusterZoom }

/-- Reads how far beyond the screen markers are visible. -/
def readCull (d : Document) (n : Node) : Option (CullSettings Float) := do
  let s ← sectionOf d ["padding_px"] n
  some { padding := ← setting s "padding_px" float CullSettings.standard.padding }

/-- Reads the settings of clusters. -/
def readCluster (d : Document) (n : Node) : Option (ClusterSettings Float) := do
  let s ← sectionOf d ["enabled", "cell_px", "below_scale", "above_count"] n
  let standard : ClusterSettings Float := .standard
  some {
    enabled := ← setting s "enabled" bool standard.enabled
    cellSize := ← setting s "cell_px" float standard.cellSize
    belowScale := ← setting s "below_scale" float standard.belowScale
    aboveCount := ← setting s "above_count" count standard.aboveCount }

/-- Reads the settings of routes. -/
def readRoute (d : Document) (n : Node) : Option RouteSettings := do
  let s ← sectionOf d ["max_candidates", "two_opt_passes"] n
  some {
    maxCandidates := ← setting s "max_candidates" count RouteSettings.standard.maxCandidates
    passes := ← setting s "two_opt_passes" count RouteSettings.standard.passes }

/-- Reads the settings of a document. -/
def ofDocument? (d : Document) : Option (Settings Float) := do
  let s ← sectionOf d ["viewport", "cull", "cluster", "route"] d.root
  some {
    viewport := ← setting s "viewport" (readViewport d) .standard
    cull := ← setting s "cull" (readCull d) .standard
    cluster := ← setting s "cluster" (readCluster d) .standard
    route := ← setting s "route" (readRoute d) .standard }

/-- The settings that a text holds. A blank text holds the default ones. -/
def ofText (text : String) : Except SettingsError (Settings Float) :=
  if (Text.trim text).isEmpty then .ok .standard
  else
    match (Document.ofText? text).bind ofDocument? with
    | none => .error .malformed
    | some s =>
      match s.fault? with
      | some f => .error (.fault f)
      | none => .ok s

end Settings

/-- What is wrong, for the user. The text that is not a document has no message of its own. -/
def SettingsError.message? : SettingsError → Option String
  | .unreadable path reason => some ("configuration error: read " ++ path ++ ": " ++ reason)
  | .malformed => none
  | .fault f => some ("configuration error: " ++ f.message)

end MarkerAtlas
