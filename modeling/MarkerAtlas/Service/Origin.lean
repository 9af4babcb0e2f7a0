/-!
# Origins

A page in a browser may read what the service answers only if the page comes from the machine
itself. Its origin then is `http` or `https` at `localhost` or `127.0.0.1`, alone or with a colon
and more after it.
-/

namespace MarkerAtlas.Origin

/-- The schemes of local origins. -/
def schemes : List (List Char) := ["http://".toList, "https://".toList]

/-- The hosts of local origins. -/
def hosts : List (List Char) := ["localhost".toList, "127.0.0.1".toList]

/-- The rest of a text after a given start. -/
def afterStart? : (start text : List Char) → Option (List Char)
  | [], cs => some cs
  | _ :: _, [] => none
  | s :: ss, c :: cs => if s = c then afterStart? ss cs else none

/-- May this stand after the host? -/
def endsHost : List Char → Bool
  | [] => true
  | c :: _ => c = ':'

/-- Is it the origin of a page at this host? -/
def isAtHost (host origin : List Char) : Bool :=
  schemes.any fun scheme =>
    ((afterStart? scheme origin).bind (afterStart? host)).any endsHost

/-- May the character stand in a header that is read as text? -/
def isHeaderChar (c : Char) : Bool := c = '\t' || (0x20 ≤ c.toNat && c.toNat < 0x7F)

/-- Is it the origin of a page of the machine itself? -/
def isLocal (origin : String) : Bool :=
  origin.toList.all isHeaderChar && hosts.any fun host => isAtHost host origin.toList

end MarkerAtlas.Origin
