import MarkerAtlas.Text.Integer

/-!
# Addresses of peers

The service answers the machine it runs on and the machines of a private network, which have the
addresses from 100.64.0.0 to 100.127.255.255.
-/

namespace MarkerAtlas

/-- The address of a peer: four bytes, or eight 16-bit groups. -/
inductive Address where
  | v4 (a b c d : UInt8)
  | v6 (groups : List UInt16)
  deriving DecidableEq

namespace Address

/-- Is it an address of the machine itself? -/
def isLoopback : Address → Bool
  | v4 a _ _ _ => a = 127
  | v6 groups => groups = [0, 0, 0, 0, 0, 0, 0, 1]

/-- Is it an address of the private network? -/
def isPrivateNetwork : Address → Bool
  | v4 a b _ _ => a = 100 ∧ 64 ≤ b ∧ b ≤ 127
  | v6 _ => false

/-- May a peer with this address use the service? -/
def isAllowed (a : Address) : Bool := a.isLoopback || a.isPrivateNetwork

/-! ## Addresses in text -/

/-- The pieces of a text between the places where a character stands. -/
def splitAt (separator : Char) : List Char → List (List Char)
  | [] => [[]]
  | c :: cs =>
    if c = separator then [] :: splitAt separator cs
    else
      match splitAt separator cs with
      | [] => [[c]]
      | p :: ps => (c :: p) :: ps

/-- The byte that up to three digits write, without a zero in front. -/
def byte? (cs : List Char) : Option UInt8 :=
  if cs.length > 3 || (cs.length > 1 && cs.head? == some '0') then none
  else ((Text.numeral? cs).filter (· < 256)).map UInt8.ofNat

/-- The address that four bytes with points between them write. -/
def v4? (cs : List Char) : Option Address :=
  match (splitAt '.' cs).map byte? with
  | [some a, some b, some c, some d] => some (v4 a b c d)
  | _ => none

/-- The group that up to four hexadecimal digits write. -/
def group? (cs : List Char) : Option UInt16 :=
  if cs.isEmpty || cs.length > 4 then none else (Text.numeralToBase? 16 0 cs).map UInt16.ofNat

/-- The groups that a run without a gap writes; the last two may be written as four bytes. -/
def groups? : List (List Char) → Option (List UInt16)
  | [] => some []
  | [p] =>
    match group? p, v4? p with
    | some g, _ => some [g]
    | none, some (v4 a b c d) =>
      some [UInt16.ofNat (a.toNat * 256 + b.toNat), UInt16.ofNat (c.toNat * 256 + d.toNat)]
    | none, _ => none
  | p :: ps => (group? p).bind fun g => (groups? ps).map (g :: ·)

/-- The groups that a side of a gap writes; a side may be empty. -/
def side? (cs : List Char) : Option (List UInt16) :=
  if cs.isEmpty then some [] else groups? (splitAt ':' cs)

/-- The text before and after the first two colons that stand together. -/
def splitGap : List Char → Option (List Char × List Char)
  | ':' :: ':' :: cs => some ([], cs)
  | c :: cs => (splitGap cs).map fun p => (c :: p.1, p.2)
  | [] => none

/-- The address that groups with colons between them write; two colons stand for as many zero
groups as are missing. -/
def v6? (cs : List Char) : Option Address :=
  match splitGap cs with
  | none => ((groups? (splitAt ':' cs)).filter (·.length = 8)).map v6
  | some (front, back) =>
    match side? front, side? back with
    | some f, some b =>
      let known := f.length + b.length
      if known ≤ 7 ∧ !front.contains '.' then some (v6 (f ++ List.replicate (8 - known) 0 ++ b))
      else none
    | _, _ => none

/-- The address that a text writes. -/
def ofText? (s : String) : Option Address := (v4? s.toList).orElse fun _ => v6? s.toList

end Address

end MarkerAtlas
