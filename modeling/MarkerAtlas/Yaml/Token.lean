import MarkerAtlas.Yaml.Scalar
import MarkerAtlas.Yaml.Tag

/-!
# Tokens of YAML

A text is cut into tokens. Indentation shows in them: a deeper line opens a block collection, a
line that is less deep closes those it leaves. Whether a scalar is a key is known only when the
colon after it is found; the token that says so is then put in front of the scalar.
-/

namespace MarkerAtlas.Yaml

/-- A token. -/
inductive Token where
  | version
  | tagHandle (handle uri : List Char)
  | documentStart
  | documentEnd
  | blockSequence
  | blockMapping
  | blockEnd
  | flowSequence
  | flowSequenceEnd
  | flowMapping
  | flowMappingEnd
  | blockEntry
  | flowEntry
  | key
  | value
  | alias (name : List Char)
  | anchor (name : List Char)
  | tag (handle suffix : List Char)
  | scalar (text : List Char) (style : Style)
  deriving DecidableEq

/-- A place where a key may have begun that is written without a question mark. -/
structure PossibleKey where
  /-- A key has to begin here, or the text is wrong. -/
  required : Bool
  /-- How many tokens stand before it. -/
  tokens : Nat
  offset : Nat
  line : Nat
  column : Nat

/-- What is known after some of the text was cut into tokens. -/
structure Lexer where
  cursor : Cursor
  tokens : List Token
  /-- Indentations of the open block collections, innermost first; the least is -1. -/
  indents : List Int
  /-- For the block level and every open bracket, innermost first, where a key may have begun. -/
  keys : List (Option PossibleKey)
  keyAllowed : Bool

namespace Lexer

/-- The state before the first character. -/
def start (cs : List Char) : Lexer := ⟨Cursor.start cs, [], [], [none], true⟩

/-- The indentation of the innermost block collection. -/
def indent (l : Lexer) : Int := l.indents.headD (-1)

/-- Is the cursor inside brackets? -/
def inFlow (l : Lexer) : Bool := l.keys.length > 1

/-- Adds a token. -/
def push (l : Lexer) (t : Token) : Lexer := { l with tokens := l.tokens ++ [t] }

/-- Puts a token in front of the last ones, after the first `n`. -/
def insertAfter (l : Lexer) (n : Nat) (t : Token) : Lexer :=
  { l with tokens := l.tokens.take n ++ t :: l.tokens.drop n }

/-- Closes the block collections that are deeper than a column. -/
def unroll (column : Int) (l : Lexer) : Lexer :=
  if l.inFlow then l
  else
    let closed := (l.indents.takeWhile (· > column)).length
    { l with
      indents := l.indents.drop closed
      tokens := l.tokens ++ List.replicate closed .blockEnd }

/-- Opens a block collection if the column is deeper than those open; its token goes after the
first `n` tokens. -/
def roll (column : Int) (n : Nat) (t : Token) (l : Lexer) : Lexer :=
  if l.inFlow || column ≤ l.indent then l
  else { l.insertAfter n t with indents := column :: l.indents }

/-- Gives up the key that may have begun on this level; a required one may not be given up. -/
def dropKey (l : Lexer) : Option Lexer :=
  match l.keys with
  | some k :: ks => if k.required then none else some { l with keys := none :: ks }
  | _ => some l

/-- Notes that a key may begin here. -/
def noteKey (l : Lexer) : Option Lexer :=
  if l.keyAllowed then
    l.dropKey.map fun l =>
      let c := l.cursor
      let key : PossibleKey :=
        { required := !l.inFlow && l.indent = (c.column : Int)
          tokens := l.tokens.length, offset := c.offset, line := c.line, column := c.column }
      { l with keys := some key :: l.keys.drop 1 }
  else some l

/-- Gives up the keys that are out of reach: a key stays on its line and within 1024 bytes. -/
def dropStaleKeys (l : Lexer) : Option Lexer :=
  let stale (k : PossibleKey) : Bool :=
    k.line < l.cursor.line || k.offset + 1024 < l.cursor.offset
  if l.keys.any (fun k => k.any fun k => stale k && k.required) then none
  else some { l with keys := l.keys.map fun k => k.filter fun k => !stale k }

/-- Skips a byte order mark at the start of a line; it takes a column. -/
def skipByteOrderMark (c : Cursor) : Cursor :=
  if c.column = 0 && c.isAt 0 '\uFEFF' then c.skip else c

/-- Skips blanks, comments and line breaks. A tab may stand only where no key can begin. -/
def skipToToken : Nat → Lexer → Lexer
  | 0, l => l
  | fuel + 1, l =>
    let tabs := l.inFlow || !l.keyAllowed
    let c := (skipByteOrderMark l.cursor).skipWhile fun d => d = ' ' || (tabs && d = '\t')
    let c := if c.isAt 0 '#' then c.skipWhile fun d => !isBreak d else c
    if c.breakAt 0 then
      skipToToken fuel { l with cursor := c.skipBreak, keyAllowed := l.keyAllowed || !l.inFlow }
    else { l with cursor := c }

/-! ## Directives, anchors and tags -/

/-- Skips what may follow a directive on its line. -/
def endOfDirective (c : Cursor) : Option Cursor :=
  let c := c.skipWhile isBlank
  let c := if c.isAt 0 '#' then c.skipWhile fun d => !isBreak d else c
  if c.rest.isEmpty then some c else if c.breakAt 0 then some c.skipBreak else none

/-- A number of a version: at most nine digits. -/
def versionNumber (c : Cursor) : Option (Nat × Cursor) :=
  let (digits, c) := c.takeWhile Text.isDigit
  if digits.length ≤ 9 then (Text.numeral? digits).map fun n => (n, c) else none

/-- A directive: the version of YAML, which has to be 1.1 or 1.2, or a handle for tags. -/
def directive (l : Lexer) : Option Lexer := do
  let (name, c) := l.cursor.skip.takeWhile isWordChar
  if !c.gapAt 0 then none
  let c := c.skipWhile isBlank
  if name = "YAML".toList then
    let (major, c) ← versionNumber c
    if !c.isAt 0 '.' then none
    let (minor, c) ← versionNumber c.skip
    if major ≠ 1 || (minor ≠ 1 && minor ≠ 2) then none
    let c ← endOfDirective c
    some { l.push .version with cursor := c }
  else if name = "TAG".toList then
    let (handle, c) ← tagHandle true c
    if !c.blankAt 0 then none
    let (uri, c) := (c.skipWhile isBlank).takeWhile (isTagChar true)
    if uri.isEmpty || !c.gapAt 0 then none
    let c ← endOfDirective c
    some { l.push (.tagHandle handle (← tagText? uri)) with cursor := c }
  else none

/-- A name after an ampersand or an asterisk. -/
def anchorName (c : Cursor) : Option (List Char × Cursor) :=
  let (name, c) := c.skip.takeWhile isWordChar
  let ends := c.gapAt 0 || (c.peek? 0).any fun d => "?:,]\x7d%@`".toList.contains d
  if name.isEmpty || !ends then none else some (name, c)

/-- A tag. -/
def tag (l : Lexer) : Option Lexer := do
  let (handle, suffix, c) ← readTag l.cursor
  if c.gapAt 0 || (l.inFlow && c.isAt 0 ',') then
    some { l.push (.tag handle suffix) with cursor := c }
  else none

/-! ## Cutting off the next token -/

/-- Adds a token of `width` characters. -/
def indicator (t : Token) (width : Nat) (l : Lexer) : Lexer :=
  { l.push t with cursor := l.cursor.skipMany width }

/-- Adds the token of a scalar. -/
def scalar (l : Lexer) (s : Option ScalarText) (keyAllowed : ScalarText → Bool) : Option Lexer :=
  s.map fun s =>
    { l.push (.scalar s.text s.style) with cursor := s.after, keyAllowed := keyAllowed s }

/-- The end of every block collection, before a directive or a document's marker. -/
def endBlocks (l : Lexer) : Option Lexer :=
  (unroll (-1) l).dropKey.map fun l => { l with keyAllowed := false }

/-- The start of a bracketed collection. -/
def openFlow (t : Token) (l : Lexer) : Option Lexer :=
  l.noteKey.map fun l => { (l.indicator t 1) with keys := none :: l.keys, keyAllowed := true }

/-- The end of a bracketed collection. -/
def closeFlow (t : Token) (l : Lexer) : Option Lexer :=
  l.dropKey.map fun l =>
    { (l.indicator t 1) with
      keys := if l.keys.length > 1 then l.keys.drop 1 else l.keys
      keyAllowed := false }

/-- A colon: its key was noted before, or is empty. -/
def colon (l : Lexer) : Option Lexer :=
  match l.keys with
  | some k :: ks =>
    let l := l.insertAfter k.tokens .key
    let l := l.roll k.column k.tokens .blockMapping
    some (({ l with keys := none :: ks, keyAllowed := false }).indicator .value 1)
  | _ =>
    if l.inFlow then some (({ l with keyAllowed := false }).indicator .value 1)
    else if l.keyAllowed then
      some ((l.roll l.cursor.column l.tokens.length .blockMapping).indicator .value 1)
    else none

/-- A dash before an entry of a block sequence. -/
def dash (l : Lexer) : Option Lexer :=
  if l.inFlow then l.dropKey.map fun l => { l with keyAllowed := true }.indicator .blockEntry 1
  else if l.keyAllowed then
    (l.roll l.cursor.column l.tokens.length .blockSequence).dropKey.map fun l =>
      { l with keyAllowed := true }.indicator .blockEntry 1
  else none

/-- A question mark before a key. -/
def question (l : Lexer) : Option Lexer :=
  if l.inFlow then l.dropKey.map fun l => { l with keyAllowed := false }.indicator .key 1
  else if l.keyAllowed then
    (l.roll l.cursor.column l.tokens.length .blockMapping).dropKey.map fun l =>
      { l with keyAllowed := true }.indicator .key 1
  else none

/-- May a plain scalar begin with the character? -/
def startsPlain (d : Char) : Bool := !("-?:,[]\x7b\x7d#&*!|>'\"%@`".toList.contains d)

/-- Cuts off the next token; nothing is left at the end of the text. -/
def next (l : Lexer) : Option Lexer := do
  let l := skipToToken (l.cursor.rest.length + 1) l
  let l ← l.dropStaleKeys
  let l := unroll l.cursor.column l
  let c := l.cursor
  match c.rest with
  | [] => l.endBlocks
  | d :: _ =>
    if c.column = 0 && d = '%' then l.endBlocks.bind directive
    else if c.atDocumentMarker then
      l.endBlocks.map (indicator (if d = '-' then .documentStart else .documentEnd) 3)
    else if d = '[' then l.openFlow .flowSequence
    else if d = '{' then l.openFlow .flowMapping
    else if d = ']' then l.closeFlow .flowSequenceEnd
    else if d = '}' then l.closeFlow .flowMappingEnd
    else if d = ',' then
      l.dropKey.map fun l => { l with keyAllowed := true }.indicator .flowEntry 1
    else if d = '-' && c.gapAt 1 then l.dash
    else if d = '?' && (l.inFlow || c.gapAt 1) then l.question
    else if d = ':' && (l.inFlow || c.gapAt 1) then l.colon
    else if d = '*' || d = '&' then
      let l ← l.noteKey
      let (name, c) ← anchorName c
      some { l.push (if d = '*' then .alias name else .anchor name) with
        cursor := c, keyAllowed := false }
    else if d = '!' then
      let l ← l.noteKey
      ({ l with keyAllowed := false }).tag
    else if (d = '|' || d = '>') && !l.inFlow then
      let l ← l.dropKey
      l.scalar (blockScalar (d = '|') l.indent c) fun _ => true
    else if d = '\'' || d = '"' then
      let l ← l.noteKey
      l.scalar (quotedScalar (d = '\'') c) fun _ => false
    else if (!c.gapAt 0 && startsPlain d) || (d = '-' && !c.blankAt 1)
        || (!l.inFlow && (d = '?' || d = ':') && !c.gapAt 1) then
      let l ← l.noteKey
      l.scalar (plainScalar l.inFlow l.indent c) fun s => s.endsLine
    else none

/-- Cuts the rest of the text into tokens. -/
def run : Nat → Lexer → Option Lexer
  | 0, _ => none
  | fuel + 1, l =>
    match l.next with
    | none => none
    | some l' => if l'.cursor.rest.isEmpty && l.cursor.rest.isEmpty then some l' else run fuel l'

end Lexer

/-- The tokens of a text, if it keeps to the rules of YAML so far as tokens show. -/
def Token.ofText? (s : String) : Option (List Token) :=
  let cs := s.toList
  if cs.all isAllowed then
    ((Lexer.start cs).run (cs.length + 2)).map fun l => l.tokens
  else none

end MarkerAtlas.Yaml
