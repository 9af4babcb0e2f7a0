/-!
# Media types

A request says in which format its body is written: a type and a subtype, then parameters. JSON is
`application/json`, or a subtype of `application` with the suffix `+json`, in letters of any case.
-/

namespace MarkerAtlas

/-- The name of a format, in small letters. -/
structure MediaType where
  type : List Char
  subtype : List Char
  /-- What stands after the last plus sign; the subtype is what stands before it. -/
  suffix : Option (List Char)
  deriving DecidableEq

namespace MediaType

/-- May the character stand in a name? -/
def isNameChar (c : Char) : Bool :=
  ('a' ≤ c && c ≤ 'z') || ('A' ≤ c && c ≤ 'Z') || ('0' ≤ c && c ≤ '9')
    || "!#$%&'*+-.^_`|~".toList.contains c

/-- May the character stand in a quoted value? Those that ASCII prints may. -/
def isQuotedChar (c : Char) : Bool := 0x20 ≤ c.toNat && c.toNat < 0x7F

/-- Splits off the characters of a name. -/
def spanName (cs : List Char) : List Char × List Char := cs.span isNameChar

/-- The text after the quote that closes a value; an empty value cannot be quoted. -/
def afterQuoted (cs : List Char) : Option (List Char) :=
  match cs with
  | [] => none
  | first :: rest =>
    if !isQuotedChar first then none
    else
      let after := rest.dropWhile fun c => c ≠ '"' && isQuotedChar c
      match after with
      | '"' :: after => some after
      | _ => none

/-- The text after one parameter, the semicolon after it included. -/
def afterParameter (cs : List Char) : Option (List Char) :=
  let (name, rest) := spanName cs
  if name.isEmpty then none
  else
    match rest with
    | '=' :: '"' :: value =>
      (afterQuoted value).bind fun rest =>
        match rest.dropWhile (· = ' ') with
        | [] => some []
        | ';' :: rest => some rest
        | _ => none
    | '=' :: value =>
      let (text, rest) := spanName value
      match rest with
      | [] => some []
      | ';' :: rest => if text.isEmpty then none else some rest
      | _ => none
    | _ => none

/-- Are these the parameters of a format? Each takes at least one character, so that as many
are tried as there are characters. -/
def areParameters : (fuel : Nat) → List Char → Bool
  | 0, cs => cs.isEmpty
  | fuel + 1, cs =>
    match cs.dropWhile (· = ' ') with
    | [] => true
    | cs =>
      match afterParameter cs with
      | none => false
      | some rest => areParameters fuel rest

/-- A subtype, and its suffix if it has one: the last plus sign divides them, but not if it is the
first character. -/
def splitSuffix (cs : List Char) : List Char × Option (List Char) :=
  let suffix := (cs.reverse.takeWhile (· ≠ '+')).reverse
  let plus := cs.length - suffix.length
  if plus ≤ 1 then (cs, none) else (cs.take (plus - 1), some suffix)

/-- The format that a text names. -/
def ofText? (s : String) : Option MediaType :=
  let (type, rest) := spanName s.toList
  match rest with
  | '/' :: rest =>
    let (subtype, rest) := spanName rest
    let parameters :=
      match rest with
      | [] => true
      | ';' :: ps => areParameters (ps.length + 1) ps
      | _ => false
    if type.isEmpty || subtype.isEmpty || !parameters then none
    else
      let (subtype, suffix) := splitSuffix (subtype.map Char.toLower)
      some ⟨type.map Char.toLower, subtype, suffix⟩
  | _ => none

/-- Is it JSON? -/
def isJson (m : MediaType) : Bool :=
  m.type = "application".toList
    && (m.subtype = "json".toList || m.suffix = some "json".toList)

end MediaType

end MarkerAtlas
