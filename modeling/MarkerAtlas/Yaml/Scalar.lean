import MarkerAtlas.Yaml.Cursor
import MarkerAtlas.Text.Integer

/-!
# Scalars of YAML

The ways to write a scalar: plain, in single or double quotes, or as a block. Lines are folded:
one line break counts as a space, further ones are kept. A reader gives the text and the cursor
after it, and fails where the text breaks the rules of YAML.
-/

namespace MarkerAtlas.Yaml

/-- How a scalar is written. -/
inductive Style where
  | plain
  | quoted
  | literal
  | folded
  deriving Repr, DecidableEq

/-! ## The space between words -/

/-- What was skipped since the last word: blanks, or the first line break and those after it. -/
structure Space where
  blanks : List Char
  broken : Bool
  first : List Char
  further : List Char

/-- Nothing skipped. -/
def Space.none : Space := ⟨[], false, [], []⟩

/-- What stands between two words for the space between them. -/
def Space.joined (s : Space) : List Char :=
  if s.broken then
    if s.first = ['\n'] then (if s.further.isEmpty then [' '] else s.further)
    else s.first ++ s.further
  else s.blanks

/-- Skips blanks and line breaks. With an indentation, a tab in front of it is refused. -/
def skipSpace (indent : Option Int) : Nat → Space → Cursor → Option (Space × Cursor)
  | 0, _, _ => .none
  | fuel + 1, s, c =>
    match c.rest with
    | [] => some (s, c)
    | d :: _ =>
      if isBlank d then
        if s.broken && d = '\t' && indent.any (fun i => (c.column : Int) < i) then .none
        else if s.broken then skipSpace indent fuel s c.skip
        else skipSpace indent fuel { s with blanks := s.blanks ++ [d] } c.skip
      else if isBreak d then
        if s.broken then
          skipSpace indent fuel { s with further := s.further ++ c.breakChars } c.skipBreak
        else
          skipSpace indent fuel { s with blanks := [], broken := true, first := c.breakChars }
            c.skipBreak
      else some (s, c)

/-! ## Plain scalars -/

/-- The characters that have a meaning of their own inside brackets. -/
def isFlowIndicator (d : Char) : Bool := d = ',' || d = '[' || d = ']' || d = '{' || d = '}'

/-- One word of a plain scalar: up to a gap, a colon before a gap or, inside brackets, a
character with a meaning of its own. A colon right before such a character is refused. -/
def plainWord (inFlow : Bool) : Nat → List Char → Cursor → Option (List Char × Cursor)
  | 0, _, _ => none
  | fuel + 1, before, c =>
    match c.rest with
    | [] => some (before.reverse, c)
    | d :: _ =>
      if c.gapAt 0 then some (before.reverse, c)
      else if inFlow && d = ':' && (c.peek? 1).any (fun e => isFlowIndicator e || e = '?') then none
      else if (d = ':' && c.gapAt 1) || (inFlow && isFlowIndicator d) then some (before.reverse, c)
      else plainWord inFlow fuel (d :: before) c.skip

/-- A scalar as it was read. -/
structure ScalarText where
  text : List Char
  style : Style
  after : Cursor
  /-- The cursor stands at the start of a line, after the scalar's last one. -/
  endsLine : Bool

/-- The words of a plain scalar after `text`, with the space `s` skipped since. Outside brackets
every line has to be indented by `indent`. -/
def plainFrom (inFlow : Bool) (indent : Int) :
    Nat → List Char → Space → Cursor → Option ScalarText
  | 0, _, _, _ => none
  | fuel + 1, text, s, c =>
    if c.atDocumentMarker || c.isAt 0 '#' then some ⟨text, .plain, c, s.broken⟩
    else do
      let (word, c) ← plainWord inFlow (c.rest.length + 1) [] c
      let (text, s) := if word.isEmpty then (text, s) else (text ++ s.joined ++ word, Space.none)
      if c.rest.isEmpty || !c.gapAt 0 then some ⟨text, .plain, c, s.broken⟩
      else
        let (s, c) ← skipSpace (some indent) (c.rest.length + 1) s c
        if !inFlow && (c.column : Int) < indent then some ⟨text, .plain, c, s.broken⟩
        else plainFrom inFlow indent fuel text s c

/-- Reads a plain scalar inside a collection that is indented by `parent`. -/
def plainScalar (inFlow : Bool) (parent : Int) (c : Cursor) : Option ScalarText :=
  plainFrom inFlow (parent + 1) (c.rest.length + 2) [] Space.none c

/-! ## Quoted scalars -/

/-- The character that a letter after a backslash stands for. -/
def escapeLetter? : Char → Option Char
  | '0' => some '\x00'
  | 'a' => some '\x07'
  | 'b' => some '\x08'
  | 't' => some '\t'
  | '\t' => some '\t'
  | 'n' => some '\n'
  | 'v' => some '\x0b'
  | 'f' => some '\x0c'
  | 'r' => some '\r'
  | 'e' => some '\x1b'
  | ' ' => some ' '
  | '"' => some '"'
  | '/' => some '/'
  | '\\' => some '\\'
  | 'N' => some (Char.ofNat 0x85)
  | '_' => some (Char.ofNat 0xA0)
  | 'L' => some (Char.ofNat 0x2028)
  | 'P' => some (Char.ofNat 0x2029)
  | _ => none

/-- How many hexadecimal digits follow a letter after a backslash. -/
def escapeDigits? : Char → Option Nat
  | 'x' => some 2
  | 'u' => some 4
  | 'U' => some 8
  | _ => none

/-- The character that an escape stands for, the cursor standing after the backslash. -/
def escape? (c : Cursor) : Option (Char × Cursor) :=
  match c.rest with
  | [] => none
  | letter :: rest =>
    match escapeDigits? letter with
    | none => (escapeLetter? letter).map fun d => (d, c.skip)
    | some width =>
      let digits := rest.take width
      if digits.length < width then none
      else
        match Text.numeralToBase? 16 0 digits with
        | none => none
        | some n =>
          if (0xD800 ≤ n && n ≤ 0xDFFF) || n > 0x10FFFF then none
          else some (Char.ofNat n, c.skipMany (width + 1))

/-- One word of a quoted scalar: up to a gap or the closing quote. It ends in `true` where a
backslash stood before the line break. -/
def quotedWord (single : Bool) : Nat → List Char → Cursor → Option (List Char × Bool × Cursor)
  | 0, _, _ => none
  | fuel + 1, before, c =>
    match c.rest with
    | [] => some (before.reverse, false, c)
    | d :: _ =>
      if c.gapAt 0 then some (before.reverse, false, c)
      else if single && d = '\'' && c.isAt 1 '\'' then
        quotedWord single fuel ('\'' :: before) (c.skipMany 2)
      else if d = (if single then '\'' else '"') then some (before.reverse, false, c)
      else if !single && d = '\\' then
        if c.breakAt 1 then some (before.reverse, true, c.skip.skipBreak)
        else
          match escape? c.skip with
          | none => none
          | some (e, c) => quotedWord single fuel (e :: before) c
      else quotedWord single fuel (d :: before) c.skip

/-- The words of a quoted scalar after `text`, up to the closing quote. -/
def quotedFrom (single : Bool) : Nat → List Char → Cursor → Option ScalarText
  | 0, _, _ => none
  | fuel + 1, text, c =>
    if c.atDocumentMarker || c.rest.isEmpty then none
    else do
      let (word, joinsLine, c) ← quotedWord single (c.rest.length + 1) [] c
      let text := text ++ word
      if c.isAt 0 (if single then '\'' else '"') && !joinsLine then
        some ⟨text, .quoted, c.skip, false⟩
      else
        let s : Space := { Space.none with broken := joinsLine }
        let (s, c) ← skipSpace none (c.rest.length + 1) s c
        quotedFrom single fuel (text ++ s.joined) c

/-- Reads a quoted scalar, the cursor standing on the opening quote. -/
def quotedScalar (single : Bool) (c : Cursor) : Option ScalarText :=
  quotedFrom single (c.rest.length + 2) [] c.skip

/-! ## Block scalars -/

/-- What becomes of the line breaks at the end of a block. -/
inductive Chomping where
  | strip
  | clip
  | keep
  deriving Repr, DecidableEq

/-- The chomping that a sign in the header of a block asks for. -/
def chomping? : Char → Option Chomping
  | '+' => some .keep
  | '-' => some .strip
  | _ => none

/-- The header of a block: chomping and indentation, in either order. -/
def blockHeader (c : Cursor) : Option (Chomping × Nat × Cursor) :=
  let digit? (c : Cursor) : Option Nat :=
    (c.peek? 0).bind fun d => if '0' ≤ d ∧ d ≤ '9' then some (d.toNat - '0'.toNat) else none
  match (c.peek? 0).bind chomping? with
  | some chomp =>
    match digit? c.skip with
    | some 0 => none
    | some n => some (chomp, n, c.skip.skip)
    | none => some (chomp, 0, c.skip)
  | none =>
    match digit? c with
    | some 0 => none
    | some n =>
      match (c.skip.peek? 0).bind chomping? with
      | some chomp => some (chomp, n, c.skip.skip)
      | none => some (.clip, n, c.skip)
    | none => some (.clip, 0, c)

/-- Skips empty lines and the indentation of the next line. An indentation of zero is not known
yet: then it is the greatest one seen, and deeper than that of the parent. -/
def blockBreaks (parent : Int) :
    Nat → (indent deepest : Nat) → List Char → Cursor → Option (Nat × List Char × Cursor)
  | 0, _, _, _, _ => none
  | fuel + 1, indent, deepest, breaks, c =>
    let here := c.rest.takeWhile (· = ' ')
    let width := if indent = 0 then here.length else min here.length (indent - c.column)
    let c := c.skipMany width
    let deepest := max deepest c.column
    if (indent = 0 || c.column < indent) && c.isAt 0 '\t' then none
    else if c.breakAt 0 then
      blockBreaks parent fuel indent deepest (breaks ++ c.breakChars) c.skipBreak
    else
      let found := max (max deepest (parent + 1).toNat) 1
      some (if indent = 0 then found else indent, breaks, c)

/-- The lines of a block after `text`. `lead` is the line break before the next line, `breaks`
are the empty lines after it, and `leadBlank` says that the line before began with a blank. -/
def blockLines (literal : Bool) (parent : Int) (indent : Nat) :
    Nat → List Char → (lead breaks : List Char) → (leadBlank : Bool) → Cursor →
      Option (List Char × List Char × List Char × Cursor)
  | 0, _, _, _, _, _ => none
  | fuel + 1, text, lead, breaks, leadBlank, c =>
    if c.column = indent && !c.rest.isEmpty then
      let blank := c.blankAt 0
      let folds := !literal && lead = ['\n'] && !leadBlank && !blank
      let between := if folds then (if breaks.isEmpty then [' '] else []) else lead
      let (line, c) := c.takeWhile fun d => !isBreak d
      let text := text ++ between ++ breaks ++ line
      let lead := c.breakChars
      let c := if c.breakAt 0 then c.skipBreak else c
      match blockBreaks parent (c.rest.length + 2) indent 0 [] c with
      | none => none
      | some (_, breaks, c) => blockLines literal parent indent fuel text lead breaks blank c
    else some (text, lead, breaks, c)

/-- Reads a block scalar, the cursor standing on its indicator. -/
def blockScalar (literal : Bool) (parent : Int) (c : Cursor) : Option ScalarText := do
  let (chomp, step, c) ← blockHeader c.skip
  let c := c.skipWhile isBlank
  let c := if c.isAt 0 '#' then c.skipWhile fun d => !isBreak d else c
  if !c.rest.isEmpty && !c.breakAt 0 then none
  let c := if c.breakAt 0 then c.skipBreak else c
  let indent := if step = 0 then 0 else (if 0 ≤ parent then parent.toNat + step else step)
  let (indent, breaks, c) ← blockBreaks parent (c.rest.length + 2) indent 0 [] c
  let (text, lead, breaks, c) ←
    blockLines literal parent indent (c.rest.length + 2) [] [] breaks false c
  let text := if chomp = .strip then text else text ++ lead
  let text := if chomp = .keep then text ++ breaks else text
  some ⟨text, if literal then .literal else .folded, c, true⟩

end MarkerAtlas.Yaml
