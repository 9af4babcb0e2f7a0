import MarkerAtlas.Text.CaseTable

/-!
# Lower case

The lower-case form of a text, letter by letter, with the two cases that a table of single
letters cannot hold: the capital I with a dot becomes two characters, and a capital sigma at the
end of a word takes its final form. `contains` looks for one text inside another without regard
to case.
-/

namespace MarkerAtlas.Text

/-- The lower-case form of a letter that does not depend on its neighbours. -/
def lowerChar (c : Char) : List Char :=
  if c.toNat = 0x130 then ['i', Char.ofNat 0x307]
  else
    match lowerRuns.find? (·.contains c.toNat) with
    | some r => [Char.ofNat ((c.toNat : Int) + r.shift).toNat]
    | none => [c]

/-- Is the first character that is not case-ignorable one with a case? -/
def startsCased (cs : List Char) : Bool :=
  match cs.dropWhile caseIgnorable.contains with
  | [] => false
  | c :: _ => cased.contains c

/-- Lowers the characters after those of `before`, which is held last character first: the
neighbours on both sides say whether a capital sigma ends a word. -/
def lowerAfter (before : List Char) : List Char → List Char
  | [] => []
  | c :: rest =>
    let here :=
      if c.toNat = 0x3A3 then
        if startsCased before && !startsCased rest then [Char.ofNat 0x3C2]
        else [Char.ofNat 0x3C3]
      else lowerChar c
    here ++ lowerAfter (c :: before) rest

/-- The text in lower case. -/
def lower (s : String) : String := String.ofList (lowerAfter [] s.toList)

/-- Does `part` stand somewhere in the text? -/
def isInfix (part text : List Char) : Bool :=
  part.isPrefixOf text ||
    match text with
    | [] => false
    | _ :: rest => isInfix part rest

/-- Does `part` stand somewhere in `whole`? -/
def contains (whole part : String) : Bool := isInfix part.toList whole.toList

end MarkerAtlas.Text
