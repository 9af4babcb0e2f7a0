/-!
# A place in a YAML text

A cursor holds the text that is still to be read, and where in the text it stands: indentation
is told by line and column, the reach of a key by the offset, which counts bytes of UTF-8.
-/

namespace MarkerAtlas.Yaml

/-- A place in a text. -/
structure Cursor where
  rest : List Char
  /-- How many bytes stand before the place. -/
  offset : Nat
  line : Nat
  column : Nat

/-- Is it a space or a tab? -/
def isBlank (c : Char) : Bool := c = ' ' || c = '\t'

/-- Does the character end a line? -/
def isBreak (c : Char) : Bool :=
  c = '\n' || c = '\r' || c.toNat = 0x85 || c.toNat = 0x2028 || c.toNat = 0x2029

/-- Is it a letter, a digit, an underscore or a hyphen of ASCII? -/
def isWordChar (c : Char) : Bool :=
  ('a' ≤ c && c ≤ 'z') || ('A' ≤ c && c ≤ 'Z') || ('0' ≤ c && c ≤ '9') || c = '_' || c = '-'

/-- May the character stand in a YAML text? -/
def isAllowed (c : Char) : Bool :=
  let n := c.toNat
  n = 0x09 || n = 0x0A || n = 0x0D || (0x20 ≤ n && n ≤ 0x7E) || n = 0x85 ||
    (0xA0 ≤ n && n ≤ 0xFFFD) || 0x10000 ≤ n

namespace Cursor

/-- The start of a text. -/
def start (cs : List Char) : Cursor := ⟨cs, 0, 0, 0⟩

/-- The character `n` places further on. -/
def peek? (c : Cursor) (n : Nat) : Option Char := c.rest[n]?

/-- Is this the character `n` places further on? -/
def isAt (c : Cursor) (n : Nat) (char : Char) : Bool := c.peek? n == some char

/-- Is there a blank `n` places further on? -/
def blankAt (c : Cursor) (n : Nat) : Bool := (c.peek? n).any isBlank

/-- Is there a line break `n` places further on? -/
def breakAt (c : Cursor) (n : Nat) : Bool := (c.peek? n).any isBreak

/-- Is there a blank, a line break or the end of the text `n` places further on? -/
def gapAt (c : Cursor) (n : Nat) : Bool := (c.peek? n).all fun d => isBlank d || isBreak d

/-- How many bytes the next `n` characters take. -/
def bytesAhead (c : Cursor) (n : Nat) : Nat :=
  (c.rest.take n).foldr (fun next bytes => next.utf8Size + bytes) 0

/-- Moves on by `n` characters within a line. -/
def skipMany (c : Cursor) (n : Nat) : Cursor :=
  ⟨c.rest.drop n, c.offset + c.bytesAhead n, c.line, c.column + n⟩

/-- Moves on by one character within a line. -/
def skip (c : Cursor) : Cursor := c.skipMany 1

/-- How many characters the line break in front takes: a carriage return and a line feed are one
break. -/
def breakWidth (c : Cursor) : Nat := if c.isAt 0 '\r' && c.isAt 1 '\n' then 2 else 1

/-- Moves to the start of the next line. -/
def skipBreak (c : Cursor) : Cursor :=
  ⟨c.rest.drop c.breakWidth, c.offset + c.bytesAhead c.breakWidth, c.line + 1, 0⟩

/-- The line break in front as it counts in a text. -/
def breakChars (c : Cursor) : List Char :=
  match c.rest with
  | [] => []
  | d :: _ => if d.toNat = 0x2028 || d.toNat = 0x2029 then [d] else if isBreak d then ['\n'] else []

/-- Does a line with the marker of a document's start or end begin here? -/
def atDocumentMarker (c : Cursor) : Bool :=
  c.column = 0 && (['-', '-', '-'].isPrefixOf c.rest || ['.', '.', '.'].isPrefixOf c.rest) &&
    c.gapAt 3

/-- Moves over the characters of a kind within a line. -/
def skipWhile (p : Char → Bool) (c : Cursor) : Cursor := c.skipMany (c.rest.takeWhile p).length

/-- The characters of a kind in front, and the cursor after them. -/
def takeWhile (p : Char → Bool) (c : Cursor) : List Char × Cursor :=
  (c.rest.takeWhile p, c.skipWhile p)

end Cursor

end MarkerAtlas.Yaml
