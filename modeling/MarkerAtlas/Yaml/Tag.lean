import MarkerAtlas.Yaml.Cursor
import MarkerAtlas.Text.Integer
import MarkerAtlas.Text.Utf8

/-!
# The text of tags

A tag is written as a handle and a suffix, or whole between angle brackets. Percent signs write
the bytes of characters that may not stand in a tag themselves.
-/

namespace MarkerAtlas.Yaml

/-- A handle of a tag: word characters between exclamation marks, or one mark alone. -/
def tagHandle (directive : Bool) (c : Cursor) : Option (List Char × Cursor) :=
  if c.isAt 0 '!' then
    let (word, c) := c.skip.takeWhile isWordChar
    if c.isAt 0 '!' then some ('!' :: word ++ ['!'], c.skip)
    else if directive && !word.isEmpty then none
    else some ('!' :: word, c)
  else none

/-- May the character stand in a tag? -/
def isTagChar (whole : Bool) (d : Char) : Bool :=
  isWordChar d || ";/?:@&=+$.%!~*()".toList.contains d || d = '\'' ||
    (whole && (d = ',' || d = '[' || d = ']'))

/-- How many bytes follow one that begins a character, as its highest bits say. -/
def followingBytes? (byte : Nat) : Option Nat :=
  if byte < 0x80 then some 0
  else if byte < 0xC0 then none
  else if byte < 0xE0 then some 1
  else if byte < 0xF0 then some 2
  else if byte < 0xF8 then some 3
  else none

/-- How many bytes of a character are due after this one, if `due` were due before it. -/
def dueAfter? (due byte : Nat) : Option Nat :=
  match due with
  | 0 => followingBytes? byte
  | n + 1 => if 0x80 ≤ byte ∧ byte < 0xC0 then some n else none

/-- The bytes that the characters of a tag write, `due` of which are still to continue a
character: all bytes of a character are written with percent signs if the first one is. -/
def tagBytes? : (due : Nat) → List Char → Option (List UInt8)
  | 0, [] => some []
  | _ + 1, [] => none
  | due, '%' :: a :: b :: rest => do
    let a ← Text.hexValue? a
    let b ← Text.hexValue? b
    let due ← dueAfter? due (a * 16 + b)
    (tagBytes? due rest).map (UInt8.ofNat (a * 16 + b) :: ·)
  | 0, c :: rest =>
    if c = '%' then none else (tagBytes? 0 rest).map (UInt8.ofNat c.toNat :: ·)
  | _ + 1, _ :: _ => none

/-- The text that the characters of a tag write; a NUL ends it. -/
def tagText? (cs : List Char) : Option (List Char) :=
  (tagBytes? 0 cs).map fun bytes => (Text.decodeUtf8From 0 bytes).takeWhile (· ≠ '\x00')

/-- Reads a tag: its handle, which is empty if the suffix is the whole tag, its suffix, and the
cursor after it. An exclamation mark alone is a whole tag. -/
def readTag (c : Cursor) : Option (List Char × List Char × Cursor) := do
  if c.isAt 1 '<' then
    let (uri, c) := (c.skipMany 2).takeWhile (isTagChar true)
    if uri.isEmpty || !c.isAt 0 '>' then none
    some ([], ← tagText? uri, c.skip)
  else
    let (handle, c) ← tagHandle false c
    let (suffix, c) := c.takeWhile (isTagChar false)
    if handle.length > 1 && handle.getLast? = some '!' then
      if suffix.isEmpty then none
      some (handle, ← tagText? suffix, c)
    else
      let suffix ← tagText? (handle.drop 1 ++ suffix)
      if suffix.isEmpty then some ([], ['!'], c) else some (['!'], suffix, c)

end MarkerAtlas.Yaml
