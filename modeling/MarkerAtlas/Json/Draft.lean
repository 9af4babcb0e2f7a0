import MarkerAtlas.Json.Basic

/-!
# JSON text, read as far as it goes

Who reads a text into a record learns of a fault in the order of the text: a member of the wrong
kind is found before a bracket that is missing further on. A `Draft` therefore is a value in
which the point where the text stops being JSON is marked, and decoders run on drafts.
Every JSON value is a draft (`Json.draft`), and a draft without marks is a JSON value
(`Draft.value`).
-/

namespace MarkerAtlas

/-- A value read from text. -/
inductive Draft where
  | null
  | bool (b : Bool)
  | num (n : JsonNumber)
  | str (s : String)
  | arr (items : List Draft)
  /-- The members in order. The name is missing where none can be read: it has half of a
  surrogate pair, or no text stands in its place. -/
  | obj (members : List (Option String × Draft))
  /-- Well formed, but without a value: a number beyond every double, a text with half of a
  surrogate pair, or brackets nested too deep. -/
  | unreadable
  /-- Here the text stops being JSON; nothing after it was read. -/
  | broken

/-- Why a text could not be decoded. -/
inductive DecodeError where
  /-- The text is not JSON. -/
  | malformed
  /-- The text is JSON, of another shape. -/
  | mismatch
  deriving Repr, DecidableEq

mutual

/-- A value as a draft. -/
def Json.draft : Json → Draft
  | .null => .null
  | .bool b => .bool b
  | .num n => .num n
  | .str s => .str s
  | .arr items => .arr (Json.drafts items)
  | .obj members => .obj (Json.memberDrafts members)

/-- The items of a list as drafts. -/
def Json.drafts : List Json → List Draft
  | [] => []
  | v :: vs => v.draft :: Json.drafts vs

/-- The members of an object as drafts. -/
def Json.memberDrafts : List (String × Json) → List (Option String × Draft)
  | [] => []
  | (name, v) :: ms => (some name, v.draft) :: Json.memberDrafts ms

end

namespace Draft

mutual

/-- Is the text JSON to the end of this value? -/
def whole : Draft → Bool
  | .broken => false
  | .arr items => wholeItems items
  | .obj members => wholeMembers members
  | _ => true

/-- Is every item whole? -/
def wholeItems : List Draft → Bool
  | [] => true
  | d :: ds => d.whole && wholeItems ds

/-- Is the value of every member whole? -/
def wholeMembers : List (Option String × Draft) → Bool
  | [] => true
  | (_, d) :: ms => d.whole && wholeMembers ms

end

mutual

/-- The JSON value, if the draft has one. -/
def value : Draft → Except DecodeError Json
  | .null => .ok .null
  | .bool b => .ok (.bool b)
  | .num n => .ok (.num n)
  | .str s => .ok (.str s)
  | .arr items => (values items).map .arr
  | .obj members => (memberValues members).map Json.object
  | .unreadable => .error .malformed
  | .broken => .error .malformed

/-- The values of the items of a list. -/
def values : List Draft → Except DecodeError (List Json)
  | [] => .ok []
  | d :: ds =>
    match d.value with
    | .error e => .error e
    | .ok v => (values ds).map (v :: ·)

/-- The values of the members of an object, each of which has to have a name. -/
def memberValues : List (Option String × Draft) → Except DecodeError (List (String × Json))
  | [] => .ok []
  | (none, _) :: _ => .error .malformed
  | (some name, d) :: ms =>
    match d.value with
    | .error e => .error e
    | .ok v => (memberValues ms).map ((name, v) :: ·)

end

end Draft

end MarkerAtlas
