import MarkerAtlas.Json.Draft
import MarkerAtlas.Text.Integer

/-!
# Reading JSON text

A text is read into a `Draft`: blanks are skipped, numbers without point and exponent that fit 64
bits stay whole, every other number becomes the nearest double. Brackets may be nested 127 deep.
-/

namespace MarkerAtlas.Json.Reader

/-- Skips the blanks that may stand between tokens. -/
def skipBlanks : List Char → List Char
  | [] => []
  | c :: cs => if c = ' ' ∨ c = '\n' ∨ c = '\t' ∨ c = '\r' then skipBlanks cs else c :: cs

/-- A value and the text after it; no text is left where the value is broken. -/
structure Step (α : Type) where
  result : α
  rest : Option (List Char)

/-- The step that ends because the text is not JSON. -/
def broken : Step Draft := ⟨.broken, none⟩

/-! ## Literals -/

/-- Reads a word that has one value. -/
def word (w : List Char) (d : Draft) (cs : List Char) : Step Draft :=
  if w.isPrefixOf cs then ⟨d, some (cs.drop w.length)⟩ else broken

/-! ## Numbers -/

/-- Splits off the digits in front. -/
def spanDigits (cs : List Char) : List Char × List Char := cs.span Text.isDigit

/-- The parts of a number's text. -/
structure NumberParts where
  negative : Bool
  whole : List Char
  fraction : Option (List Char)
  exponent : Option Int

/-- The digits after the point, if there is a point. -/
def fractionPart : List Char → Option (Option (List Char) × List Char)
  | '.' :: cs =>
    let (ds, rest) := spanDigits cs
    if ds.isEmpty then none else some (some ds, rest)
  | cs => some (none, cs)

/-- The value of an exponent's digits. -/
def exponentValue (negative : Bool) (ds : List Char) : Int :=
  let n : Int := (Text.numeral? ds).getD 0
  if negative then -n else n

/-- The exponent, if there is one. -/
def exponentPart : List Char → Option (Option Int × List Char)
  | [] => some (none, [])
  | c :: cs =>
    if c = 'e' ∨ c = 'E' then
      let (negative, cs) :=
        match cs with
        | '-' :: r => (true, r)
        | '+' :: r => (false, r)
        | r => (false, r)
      let (ds, rest) := spanDigits cs
      if ds.isEmpty then none else some (some (exponentValue negative ds), rest)
    else some (none, c :: cs)

/-- The parts of the number in front: a zero stands alone before the point. -/
def numberParts (cs : List Char) : Option (NumberParts × List Char) := do
  let (negative, cs) := match cs with | '-' :: r => (true, r) | r => (false, r)
  let (whole, rest) := spanDigits cs
  if whole.isEmpty || (whole.head? == some '0' && whole.length > 1) then none
  let (fraction, rest) ← fractionPart rest
  let (exponent, rest) ← exponentPart rest
  some (⟨negative, whole, fraction, exponent⟩, rest)

/-- The value of a number's text: whole if it fits 64 bits and is not a negative zero, else the
nearest double, and nothing if it lies beyond every double.

Readers of JSON that trade precision for speed take long decimals, or decimals with a large
exponent, for a double beside the nearest one. This reader rounds correctly instead: what is said of
a number is said of the double that its text names, and texts of up to 15 digits with a small
exponent mean the same to both. -/
def NumberParts.value (p : NumberParts) : Draft :=
  let digits := p.whole ++ p.fraction.getD []
  let n := (Text.numeral? digits).getD 0
  let fits := if p.negative then 0 < n && n ≤ Int64.minValue.toInt.natAbs else n < UInt64.size
  if p.fraction.isNone && p.exponent.isNone && fits then
    .num (.whole (if p.negative then -(n : Int) else n))
  else
    let exponent := p.exponent.getD 0 - ((p.fraction.getD []).length : Int)
    let size := Decimal.toFloat ⟨n, exponent⟩ digits.length
    if size.isFinite then .num (.real (if p.negative then -size else size)) else .unreadable

/-- Reads a number. -/
def number (cs : List Char) : Step Draft :=
  match numberParts cs with
  | some (p, rest) => ⟨p.value, some rest⟩
  | none => broken

/-! ## Strings -/

/-- The 16-bit unit that four hexadecimal digits write. -/
def unit? : List Char → Option (Nat × List Char)
  | a :: b :: c :: d :: rest => do
    let a ← Text.hexValue? a
    let b ← Text.hexValue? b
    let c ← Text.hexValue? c
    let d ← Text.hexValue? d
    some (((a * 16 + b) * 16 + c) * 16 + d, rest)
  | _ => none

/-- The character that a letter after a backslash stands for. -/
def escaped? : Char → Option Char
  | '"' => some '"'
  | '\\' => some '\\'
  | '/' => some '/'
  | 'b' => some '\x08'
  | 'f' => some '\x0c'
  | 'n' => some '\n'
  | 'r' => some '\r'
  | 't' => some '\t'
  | _ => none

/-- Is the unit the first half of a surrogate pair? -/
def isLeading (u : Nat) : Bool := 0xD800 ≤ u && u < 0xDC00

/-- Is the unit the second half of a surrogate pair? -/
def isTrailing (u : Nat) : Bool := 0xDC00 ≤ u && u < 0xE000

/-- The second half of a surrogate pair, if it is written next. -/
def trailing? : List Char → Option (Nat × List Char)
  | '\\' :: 'u' :: cs => (unit? cs).filter fun p => isTrailing p.1
  | _ => none

/-- One character of a string as it is written: nothing for half of a surrogate pair. -/
def stringChar? : List Char → Option (Option Char × List Char)
  | '\\' :: 'u' :: cs => do
    let (u, rest) ← unit? cs
    if isLeading u then
      match trailing? rest with
      | some (t, rest) =>
        some (some (Char.ofNat (0x10000 + (u - 0xD800) * 0x400 + (t - 0xDC00))), rest)
      | none => some (none, rest)
    else if isTrailing u then some (none, rest)
    else some (some (Char.ofNat u), rest)
  | '\\' :: c :: cs => (escaped? c).map fun e => (some e, cs)
  | c :: cs => if c.toNat < 0x20 ∨ c = '\\' then none else some (some c, cs)
  | [] => none

/-- Reads the characters of a string up to the closing quote. The characters read so far are
held last first, or missing if one of them has no value. -/
def stringFrom : Nat → Option (List Char) → List Char → Option (Option (List Char) × List Char)
  | 0, _, _ => none
  | _ + 1, before, '"' :: rest => some (before.map List.reverse, rest)
  | fuel + 1, before, cs =>
    match stringChar? cs with
    | none => none
    | some (c, rest) => stringFrom fuel (before.bind fun b => c.map (· :: b)) rest

/-- Reads a string after its opening quote. -/
def string? (cs : List Char) : Option (Option String × List Char) :=
  (stringFrom (cs.length + 1) (some []) cs).map fun p => (p.1.map String.ofList, p.2)

/-- Reads a string value after its opening quote. -/
def string (cs : List Char) : Step Draft :=
  match string? cs with
  | some (some s, rest) => ⟨.str s, some rest⟩
  | some (none, rest) => ⟨.unreadable, some rest⟩
  | none => broken

/-! ## Values -/

/-- How deep brackets may be nested. -/
def maxDepth : Nat := 127

/-- A value in brackets, which has a value only if it is not nested too deep. -/
def bracketed (depth : Nat) (d : Draft) (rest : Option (List Char)) : Step Draft :=
  if rest.isSome && depth > maxDepth then ⟨.unreadable, rest⟩ else ⟨d, rest⟩

mutual

/-- Reads the value in front, inside `depth` brackets. -/
def value : Nat → Nat → List Char → Step Draft
  | 0, _, _ => broken
  | fuel + 1, depth, cs =>
    match skipBlanks cs with
    | '[' :: cs =>
      let s := items fuel (depth + 1) true cs
      bracketed (depth + 1) (.arr s.result) s.rest
    | '\x7b' :: cs =>
      let s := members fuel (depth + 1) true cs
      bracketed (depth + 1) (.obj s.result) s.rest
    | '"' :: cs => string cs
    | 'n' :: cs => word ['u', 'l', 'l'] .null cs
    | 't' :: cs => word ['r', 'u', 'e'] (.bool true) cs
    | 'f' :: cs => word ['a', 'l', 's', 'e'] (.bool false) cs
    | cs => number cs

/-- Reads the items of a list up to its closing bracket; `first` says that no item was read yet. -/
def items : Nat → Nat → Bool → List Char → Step (List Draft)
  | 0, _, _, _ => ⟨[.broken], none⟩
  | fuel + 1, depth, first, cs =>
    match skipBlanks cs, first with
    | ']' :: rest, _ => ⟨[], some rest⟩
    | ',' :: rest, false => item fuel depth (skipBlanks rest)
    | rest, true => item fuel depth rest
    | _, false => ⟨[.broken], none⟩

/-- Reads an item and those after it. -/
def item : Nat → Nat → List Char → Step (List Draft)
  | 0, _, _ => ⟨[.broken], none⟩
  | fuel + 1, depth, cs =>
    let v := value fuel depth cs
    match v.rest with
    | none => ⟨[v.result], none⟩
    | some rest =>
      let s := items fuel depth false rest
      ⟨v.result :: s.result, s.rest⟩

/-- Reads the members of an object up to its closing brace. -/
def members : Nat → Nat → Bool → List Char → Step (List (Option String × Draft))
  | 0, _, _, _ => ⟨[(none, .broken)], none⟩
  | fuel + 1, depth, first, cs =>
    match skipBlanks cs, first with
    | '\x7d' :: rest, _ => ⟨[], some rest⟩
    | ',' :: rest, false => member fuel depth (skipBlanks rest)
    | rest, true => member fuel depth rest
    | _, false => ⟨[(none, .broken)], none⟩

/-- Reads a member and those after it. -/
def member : Nat → Nat → List Char → Step (List (Option String × Draft))
  | 0, _, _ => ⟨[(none, .broken)], none⟩
  | fuel + 1, depth, cs =>
    match cs with
    | '"' :: cs =>
      match string? cs with
      | some (name, rest) =>
        match skipBlanks rest with
        | ':' :: rest =>
          let v := value fuel depth rest
          match v.rest with
          | none => ⟨[(name, v.result)], none⟩
          | some rest =>
            let s := members fuel depth false rest
            ⟨(name, v.result) :: s.result, s.rest⟩
        | _ => ⟨[(name, .broken)], none⟩
      | none => ⟨[(none, .broken)], none⟩
    | _ => ⟨[(none, .broken)], none⟩

end

end MarkerAtlas.Json.Reader

namespace MarkerAtlas

/-- A text read as one value; `complete` says that nothing but blanks follows it. -/
structure Json.Document where
  draft : Draft
  complete : Bool

/-- Reads a text as one value. -/
def Json.Document.read (text : String) : Json.Document :=
  let cs := text.toList
  let s := Json.Reader.value (3 * cs.length + 3) 0 cs
  ⟨s.result, match s.rest with | some rest => (Json.Reader.skipBlanks rest).isEmpty | none => false⟩

/-- The JSON value that a text writes. -/
def Json.parse? (text : String) : Option Json :=
  let doc := Json.Document.read text
  match doc.complete, doc.draft.value with
  | true, .ok v => some v
  | _, _ => none

end MarkerAtlas
