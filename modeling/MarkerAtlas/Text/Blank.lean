import MarkerAtlas.Text.CharSet

/-!
# Blanks

The characters of the Unicode property White_Space, and the two operations that depend on them:
`trim` takes the blanks off both ends of a text, `words` cuts a text into the runs between blanks.
-/

namespace MarkerAtlas.Text

/-- The 25 characters with the Unicode property White_Space. -/
def blanks : CharSet where
  ranges := [(0x09, 0x0D), (0x20, 0x20), (0x85, 0x85), (0xA0, 0xA0), (0x1680, 0x1680),
    (0x2000, 0x200A), (0x2028, 0x2029), (0x202F, 0x202F), (0x205F, 0x205F), (0x3000, 0x3000)]

/-- Is the character white space? -/
def isBlank (c : Char) : Bool := blanks.contains c

/-- The characters without the blanks at either end. -/
def trimChars (cs : List Char) : List Char :=
  ((cs.dropWhile isBlank).reverse.dropWhile isBlank).reverse

/-- The text without the blanks at either end. -/
def trim (s : String) : String := String.ofList (trimChars s.toList)

/-- The text without the blanks at either end, if anything is left. -/
def trimmed? (s : String) : Option String :=
  let t := trim s
  if t.isEmpty then none else some t

/-- The pieces between blanks, empty ones included: one more piece than there are blanks. -/
def pieces : List Char → List (List Char)
  | [] => [[]]
  | c :: cs =>
    if isBlank c then [] :: pieces cs
    else match pieces cs with
      | [] => [[c]]
      | p :: ps => (c :: p) :: ps

/-- The non-empty runs of characters between blanks. -/
def words (cs : List Char) : List (List Char) := (pieces cs).filter (!·.isEmpty)

end MarkerAtlas.Text
