import MarkerAtlas.Json.Draft

/-!
# Decoding values and records

A decoder turns a draft into a value of the domain or says why it cannot. A `Record` describes a
record by its fields; it decodes from an object, in which unknown members are passed over and
repeated ones refused, and from a list of the fields in their order.
-/

namespace MarkerAtlas

/-- A way to read a value of a type. -/
abbrev Decoder (α : Type) := Draft → Except DecodeError α

namespace Decoder

/-- What a decoder answers to a draft of a kind that it does not take. -/
def otherwise {α : Type} : Decoder α
  | .broken => .error .malformed
  | .unreadable => .error .malformed
  | _ => .error .mismatch

/-- Reads text. -/
def text : Decoder String
  | .str s => .ok s
  | d => otherwise d

/-- Reads a truth value. -/
def bool : Decoder Bool
  | .bool b => .ok b
  | d => otherwise d

/-- Reads a number as a double. -/
def float : Decoder Float
  | .num n => .ok n.toFloat
  | d => otherwise d

/-- Reads a whole number within bounds. -/
def integer (least greatest : Int) : Decoder Int
  | .num (.whole n) => if least ≤ n ∧ n ≤ greatest then .ok n else .error .mismatch
  | d => otherwise d

/-- Reads a signed 64-bit integer. -/
def int64 : Decoder Int64 := fun d =>
  (integer Int64.minValue.toInt Int64.maxValue.toInt d).map Int64.ofInt

/-- Reads an unsigned 32-bit integer. -/
def uint32 : Decoder UInt32 := fun d =>
  (integer 0 (UInt32.size - 1 : Nat) d).map fun n => UInt32.ofNat n.toNat

/-- Reads an unsigned 8-bit integer. -/
def uint8 : Decoder UInt8 := fun d => (integer 0 255 d).map fun n => UInt8.ofNat n.toNat

/-- Reads a count or an index below 2 ^ 64. -/
def index : Decoder Nat := fun d => (integer 0 (UInt64.size - 1 : Nat) d).map Int.toNat

/-- Reads a value that may be null. -/
def optional {α : Type} (f : Decoder α) : Decoder (Option α)
  | .null => .ok none
  | d => (f d).map some

/-- Reads any JSON value. -/
def json : Decoder Json := Draft.value

/-- Reads the items of a list one after the other. -/
def items {α : Type} (f : Decoder α) : List Draft → Except DecodeError (List α)
  | [] => .ok []
  | d :: ds =>
    match f d with
    | .error e => .error e
    | .ok v => (items f ds).map (v :: ·)

/-- Reads a list. -/
def list {α : Type} (f : Decoder α) : Decoder (List α)
  | .arr ds => items f ds
  | d => otherwise d

/-- The value that a name stands for. -/
def named {α : Type} (choices : List (String × α)) (name : String) : Except DecodeError α :=
  match choices.find? (·.1 == name) with
  | some c => .ok c.2
  | none => .error .mismatch

/-- Reads one of a few names, written as text or as the one member, null, of an object. The name
is looked at before what follows it. -/
def choice {α : Type} (choices : List (String × α)) : Decoder α
  | .str s => named choices s
  | .obj ((some name, d) :: rest) =>
    match named choices name, d with
    | .error e, _ => .error e
    | .ok v, .null => if rest.isEmpty then .ok v else .error .malformed
    | .ok _, d => otherwise d
  | _ => .error .malformed

end Decoder

/-! ## Records -/

/-- A field of a record: its name, and what it must be. -/
structure RecordField where
  name : String
  check : Draft → Except DecodeError Unit

/-- A record of fields in order, built from the draft of each field that is present. -/
structure Record (α : Type) where
  fields : List RecordField
  build : (String → Option Draft) → Except DecodeError α

namespace Record

/-- The record without fields. -/
protected def pure {α : Type} (a : α) : Record α := ⟨[], fun _ => .ok a⟩

/-- The fields of two records one after the other. -/
protected def seq {α β : Type} (f : Record (α → β)) (x : Record α) : Record β where
  fields := f.fields ++ x.fields
  build get :=
    match f.build get with
    | .error e => .error e
    | .ok g => (x.build get).map g

instance : Applicative Record where
  pure := Record.pure
  seq f x := Record.seq f (x ())

/-- A field whose decoder must take what is there. -/
private def field (name : String) {α : Type} (f : Decoder α) : RecordField :=
  ⟨name, fun d => (f d).map fun _ => ()⟩

/-- A field that must be present. -/
def required {α : Type} (name : String) (f : Decoder α) : Record α where
  fields := [field name f]
  build get := match get name with
    | some d => f d
    | none => .error .mismatch

/-- A field that has a default. -/
def withDefault {α : Type} (name : String) (f : Decoder α) (default : α) : Record α where
  fields := [field name f]
  build get := match get name with
    | some d => f d
    | none => .ok default

/-- A field that may be missing or null. -/
def optional {α : Type} (name : String) (f : Decoder α) : Record (Option α) :=
  withDefault name (Decoder.optional f) none

/-- Checks the members of an object in their order: a field that is named twice is refused, an
unknown member only has to be JSON. -/
def checkMembers (fields : List RecordField) :
    List String → List (Option String × Draft) → Except DecodeError Unit
  | _, [] => .ok ()
  | _, (none, _) :: _ => .error .malformed
  | seen, (some name, d) :: rest =>
    match fields.find? (·.name == name) with
    | none => if d.whole then checkMembers fields seen rest else .error .malformed
    | some f =>
      if name ∈ seen then .error .mismatch
      else
        match f.check d with
        | .error e => .error e
        | .ok () => checkMembers fields (name :: seen) rest

/-- Checks the items of a list against the fields in their order. -/
def checkItems : List RecordField → List Draft → Except DecodeError Unit
  | _, [] => .ok ()
  | [], _ :: _ => .ok ()
  | f :: fs, d :: ds =>
    match f.check d with
    | .error e => .error e
    | .ok () => checkItems fs ds

/-- The draft of the first member of a name. -/
def lookup (members : List (Option String × Draft)) (name : String) : Option Draft :=
  (members.find? (·.1 == some name)).map (·.2)

/-- Reads a record; `excess` is the fault of a list with more items than there are fields. -/
def decodeWith {α : Type} (excess : DecodeError) (r : Record α) : Decoder α
  | .obj members =>
    match checkMembers r.fields [] members with
    | .error e => .error e
    | .ok () => r.build (lookup members)
  | .arr items =>
    match checkItems r.fields items with
    | .error e => .error e
    | .ok () =>
      match r.build (lookup ((r.fields.map fun f => some f.name).zip items)) with
      | .error e => .error e
      | .ok v => if items.length > r.fields.length then .error excess else .ok v
  | d => Decoder.otherwise d

/-- Reads a record from an object or from the list of its fields. -/
def decode {α : Type} (r : Record α) : Decoder α := r.decodeWith .malformed

end Record

/-! ## Tagged records -/

/-- Splits the members of a tagged object into its tag and the other members, in the order of
the text. The others have to be readable, the tag must occur once and name a choice. -/
def Tagged.split {α : Type} (tag : String) (choices : List (String × α)) :
    List (Option String × Draft) → Except DecodeError (Option α × List (Option String × Draft)) :=
  go none []
where
  go (found : Option α) (others : List (Option String × Draft)) :
      List (Option String × Draft) → Except DecodeError (Option α × List (Option String × Draft))
    | [] => .ok (found, others.reverse)
    | (none, _) :: _ => .error .malformed
    | (some name, d) :: rest =>
      if name = tag then
        match found, (Decoder.text d) with
        | some _, _ => .error .mismatch
        | none, .error e => .error e
        | none, .ok s =>
          match Decoder.named choices s with
          | .error e => .error e
          | .ok a => go (some a) others rest
      else
        match d.value with
        | .error e => .error e
        | .ok _ => go found ((some name, d) :: others) rest

/-- Reads a record whose kind is told by the member `tag`: the kinds by name, each with the
record that its other members form. A list has the tag as its first item. -/
def Tagged.decode {α : Type} (tag : String) (kinds : List (String × Record α)) : Decoder α
  | .obj members =>
    match Tagged.split tag kinds members with
    | .error e => .error e
    | .ok (none, _) => .error .mismatch
    | .ok (some r, others) => r.decodeWith .mismatch (.obj others)
  | .arr [] => .error .mismatch
  | .arr (d :: ds) =>
    match Decoder.text d with
    | .error e => .error e
    | .ok s =>
      match Decoder.named kinds s with
      | .error e => .error e
      | .ok r =>
        match Draft.values ds with
        | .error e => .error e
        | .ok _ => r.decodeWith .mismatch (.arr ds)
  | d => Decoder.otherwise d

/-- Reads a text that holds one value and nothing else. A fault in the value is found before
one in what follows it. -/
def Decoder.ofText {α : Type} (f : Decoder α) (draft : Draft) (complete : Bool) :
    Except DecodeError α :=
  match f draft with
  | .error e => .error e
  | .ok v => if complete then .ok v else .error .malformed

end MarkerAtlas
