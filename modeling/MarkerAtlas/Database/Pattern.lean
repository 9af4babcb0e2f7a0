/-!
# Search patterns

The patterns of the `LIKE` operator: a percent sign stands for any text, an underscore for any one
character, and a backslash makes the next character stand for itself. Letters of ASCII are
compared without case, all other characters exactly. A NUL ends a pattern as well as a text, and
a pattern that is too large matches nothing. `Pattern.containing` makes the pattern of all texts
that contain a given one.
-/

namespace MarkerAtlas

/-- An item of a pattern. -/
inductive PatternItem where
  | anyText
  | anyChar
  | char (c : Char)
  deriving DecidableEq

namespace Pattern

/-- The character that makes the next one stand for itself. -/
def escape : Char := '\\'

/-- Capitals of ASCII as small letters. -/
def fold (c : Char) : Char :=
  if 'A' ≤ c ∧ c ≤ 'Z' then Char.ofNat (c.toNat + 32) else c

/-- The characters up to the first NUL. -/
def upToNul (cs : List Char) : List Char := cs.takeWhile (· ≠ '\x00')

/-- A character as it is compared: the last two code points of the first plane are no characters,
and count as the replacement character. -/
def reading (c : Char) : Char :=
  if c.toNat = 0xFFFE ∨ c.toNat = 0xFFFF then '\uFFFD' else c

/-- The part of a pattern or a text that is compared. -/
def readable (cs : List Char) : List Char := (upToNul cs).map reading

/-- The number of bytes in a pattern beyond which it matches nothing. -/
def sizeLimit : Nat := 50000

/-- The number of bytes that the characters take in UTF-8. -/
def byteSize (cs : List Char) : Nat := cs.foldr (fun c n => c.utf8Size + n) 0

/-- The items of a pattern; none if it ends right after a backslash. -/
def items? : List Char → Option (List PatternItem)
  | [] => some []
  | c :: cs =>
    if c = escape then
      match cs with
      | [] => none
      | d :: ds => (items? ds).map (.char d :: ·)
    else if c = '%' then (items? cs).map (.anyText :: ·)
    else if c = '_' then (items? cs).map (.anyChar :: ·)
    else (items? cs).map (.char c :: ·)

/-- Does some end of the text pass the test? -/
def anyEnd (test : List Char → Bool) : List Char → Bool
  | [] => test []
  | c :: cs => test (c :: cs) || anyEnd test cs

/-- Does the whole text match the items? -/
def itemsMatch : List PatternItem → List Char → Bool
  | [], cs => cs.isEmpty
  | .anyText :: ps, cs => anyEnd (itemsMatch ps) cs
  | .anyChar :: _, [] => false
  | .anyChar :: ps, _ :: cs => itemsMatch ps cs
  | .char _ :: _, [] => false
  | .char p :: ps, c :: cs => fold p == fold c && itemsMatch ps cs

/-- Does the text match the pattern? -/
def admits (pattern text : List Char) : Bool :=
  byteSize pattern ≤ sizeLimit &&
    match items? (readable pattern) with
    | none => false
    | some ps => itemsMatch ps (readable text)

/-- The text with every character escaped that has a meaning of its own. -/
def escaped : List Char → List Char
  | [] => []
  | c :: cs =>
    if c = '\\' ∨ c = '%' ∨ c = '_' then escape :: c :: escaped cs else c :: escaped cs

/-- The pattern of the texts that contain `wanted`. -/
def containing (wanted : List Char) : List Char := '%' :: (escaped wanted ++ ['%'])

end Pattern

end MarkerAtlas
