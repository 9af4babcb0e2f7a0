import MarkerAtlas.Yaml.Token

/-!
# Nodes of YAML

The one document of a text as a tree of scalars, sequences and mappings. An alias stays in the
tree as the number of the anchor it refers to, since an anchor may stand above its own aliases.
The number of an anchor is how many names there were before it; a name that is given again takes
a new number, which the next new name takes as well, and a number refers to the last node that
begins with it.
`Document.ofText?` gives nothing for a text that breaks the rules of YAML, refers to an anchor
that is not there, or holds more than one document.
-/

namespace MarkerAtlas.Yaml

/-- A node of a document. -/
inductive Node where
  | scalar (text : String) (style : Style) (tag : Option String)
  | sequence (items : List Node)
  | mapping (entries : List (Node × Node))
  | alias (anchor : Nat)

/-- What stands where a node was left out. -/
def Node.empty : Node := .scalar "" .plain none

/-- A document: its root, and the nodes that have an anchor. -/
structure Document where
  root : Node
  anchors : List (Nat × Node)

/-- The node that an alias refers to; any other node is itself. -/
def Document.resolve (d : Document) : Node → Option Node
  | .alias anchor => (d.anchors.find? (·.1 == anchor)).map (·.2)
  | node => some node

/-- What is still to be read of a document, and what is known of it. -/
structure Reading where
  tokens : List Token
  /-- The prefixes that the handles of tags stand for. -/
  handles : List (List Char × List Char)
  /-- The names of anchors, each once, and the numbers they have. -/
  names : List (List Char × Nat)
  /-- The number of every node with an anchor that has begun, the last one first. -/
  begun : List Nat
  /-- The nodes with an anchor that have ended: how many had begun before, and the node. -/
  ended : List (Nat × Node)

namespace Reading

/-- Moves past the next token. -/
def advance (r : Reading) : Reading := { r with tokens := r.tokens.drop 1 }

/-- Is this the next token? -/
def isAt (r : Reading) (t : Token) : Bool := r.tokens.head? == some t

/-- Is the next token one of these, or is there none? -/
def endsAt (r : Reading) (ts : List Token) : Bool := r.tokens.head?.all ts.contains

/-- Begins a node that may have an anchor; the answer is the place of the node among those that
have one. -/
def beginNode (r : Reading) : Option (List Char) → Option Nat × Reading
  | none => (none, r)
  | some name =>
    let number := r.names.length
    (some r.begun.length,
      { r with
        names := (name, number) :: r.names.filter (·.1 ≠ name)
        begun := number :: r.begun })

/-- Ends the node of a place. -/
def endNode (r : Reading) (place : Option Nat) (n : Node) : Reading :=
  match place with
  | none => r
  | some i => { r with ended := (i, n) :: r.ended }

/-- The nodes with an anchor by their numbers, those that began last first. -/
def anchors (r : Reading) : List (Nat × Node) :=
  let places := (List.range r.begun.length).reverse
  (r.begun.zip places).filterMap fun (number, place) =>
    (r.ended.find? (·.1 == place)).map fun n => (number, n.2)

end Reading

/-- What stands in front of a node. -/
structure Properties where
  anchor : Option (List Char)
  tag : Option (List Char × List Char)

/-- Reads the anchor and the tag in front of a node, in either order, each at most once. -/
def readProperties (r : Reading) : Properties × Reading :=
  match r.tokens with
  | .anchor a :: .tag h s :: ts => (⟨some a, some (h, s)⟩, { r with tokens := ts })
  | .tag h s :: .anchor a :: ts => (⟨some a, some (h, s)⟩, { r with tokens := ts })
  | .anchor a :: ts => (⟨some a, none⟩, { r with tokens := ts })
  | .tag h s :: ts => (⟨none, some (h, s)⟩, { r with tokens := ts })
  | _ => (⟨none, none⟩, r)

/-- The full tag; it fails for a handle that stands for nothing. -/
def fullTag (handles : List (List Char × List Char)) :
    Option (List Char × List Char) → Option (Option String)
  | none => some none
  | some ([], suffix) => some (some (String.ofList suffix))
  | some (handle, suffix) =>
    (handles.find? (·.1 == handle)).map fun h => some (String.ofList (h.2 ++ suffix))

/-- The tag as a scalar keeps it: a single exclamation mark is no tag. -/
def scalarTag (tag : Option String) : Option String := tag.filter (· ≠ "!")

mutual

/-- Reads a node. `block` allows collections told by indentation, `flush` also a sequence that
is no deeper than the key it belongs to. -/
def readNode (block flush : Bool) : Nat → Reading → Option (Node × Reading)
  | 0, _ => none
  | fuel + 1, r =>
    match r.tokens with
    | .alias name :: _ => do
      let anchor ← r.names.find? (·.1 == name)
      some (.alias anchor.2, r.advance)
    | _ => do
      let (properties, r) := readProperties r
      let tag ← fullTag r.handles properties.tag
      let (place, r) := r.beginNode properties.anchor
      let (node, r) ← readContent block flush (place.isSome || tag.isSome) tag fuel r
      some (node, r.endNode place node)

/-- Reads what a node holds. A node with an anchor or a tag may be left out. -/
def readContent (block flush marked : Bool) (tag : Option String) :
    Nat → Reading → Option (Node × Reading)
  | 0, _ => none
  | fuel + 1, r =>
    match r.tokens with
    | .scalar text style :: _ =>
      some (.scalar (String.ofList text) style (scalarTag tag), r.advance)
    | .flowSequence :: _ => (readFlowItems true fuel r.advance).map fun p => (.sequence p.1, p.2)
    | .flowMapping :: _ => (readFlowEntries true fuel r.advance).map fun p => (.mapping p.1, p.2)
    | _ =>
      if flush && r.isAt .blockEntry then
        (readFlushItems fuel r).map fun p => (.sequence p.1, p.2)
      else if block && r.isAt .blockSequence then
        (readBlockItems fuel r.advance).map fun p => (.sequence p.1, p.2)
      else if block && r.isAt .blockMapping then
        (readBlockEntries fuel r.advance).map fun p => (.mapping p.1, p.2)
      else if marked then some (.scalar "" .plain (scalarTag tag), r)
      else none

/-- Reads a node, or nothing before one of the tokens `stops`. -/
def readUnless (stops : List Token) (block flush : Bool) : Nat → Reading → Option (Node × Reading)
  | 0, _ => none
  | fuel + 1, r => if r.endsAt stops then some (.empty, r) else readNode block flush fuel r

/-- Reads the items of a sequence told by indentation. -/
def readBlockItems : Nat → Reading → Option (List Node × Reading)
  | 0, _ => none
  | fuel + 1, r =>
    match r.tokens with
    | .blockEntry :: _ => do
      let (item, r) ← readUnless [.blockEntry, .blockEnd] true false fuel r.advance
      let (items, r) ← readBlockItems fuel r
      some (item :: items, r)
    | .blockEnd :: _ => some ([], r.advance)
    | _ => none

/-- Reads the items of a sequence that is no deeper than its key. -/
def readFlushItems : Nat → Reading → Option (List Node × Reading)
  | 0, _ => none
  | fuel + 1, r =>
    match r.tokens with
    | .blockEntry :: _ => do
      let (item, r) ← readUnless [.blockEntry, .key, .value, .blockEnd] true false fuel r.advance
      let (items, r) ← readFlushItems fuel r
      some (item :: items, r)
    | _ => some ([], r)

/-- Reads the entries of a mapping told by indentation. -/
def readBlockEntries : Nat → Reading → Option (List (Node × Node) × Reading)
  | 0, _ => none
  | fuel + 1, r =>
    match r.tokens with
    | .key :: _ => do
      let (key, r) ← readUnless [.key, .value, .blockEnd] true true fuel r.advance
      let (value, r) ←
        if r.isAt .value then readUnless [.key, .value, .blockEnd] true true fuel r.advance
        else some (.empty, r)
      let (entries, r) ← readBlockEntries fuel r
      some ((key, value) :: entries, r)
    | .blockEnd :: _ => some ([], r.advance)
    | _ => none

/-- Reads the items of a sequence in brackets; `first` says that none was read yet. A key among
them opens a mapping of one entry. -/
def readFlowItems (first : Bool) : Nat → Reading → Option (List Node × Reading)
  | 0, _ => none
  | fuel + 1, r =>
    if r.isAt .flowSequenceEnd then some ([], r.advance)
    else if !first && !r.isAt .flowEntry then none
    else
      let r := if first then r else r.advance
      if r.isAt .flowSequenceEnd then some ([], r.advance)
      else do
        let (item, r) ←
          if r.isAt .key then readPair fuel r.advance else readNode false false fuel r
        let (items, r) ← readFlowItems false fuel r
        some (item :: items, r)

/-- Reads an entry that stands among the items of a sequence in brackets. -/
def readPair : Nat → Reading → Option (Node × Reading)
  | 0, _ => none
  | fuel + 1, r => do
    let (key, r) ←
      if r.endsAt [.value, .flowEntry, .flowSequenceEnd] then some (.empty, r.advance)
      else readNode false false fuel r
    let (value, r) ←
      if r.isAt .value then readUnless [.flowEntry, .flowSequenceEnd] false false fuel r.advance
      else some (.empty, r)
    some (.mapping [(key, value)], r)

/-- Reads the entries of a mapping in braces; `first` says that none was read yet. A key without
a colon has no value. -/
def readFlowEntries (first : Bool) : Nat → Reading → Option (List (Node × Node) × Reading)
  | 0, _ => none
  | fuel + 1, r =>
    if r.isAt .flowMappingEnd then some ([], r.advance)
    else if !first && !r.isAt .flowEntry then none
    else
      let r := if first then r else r.advance
      if r.isAt .flowMappingEnd then some ([], r.advance)
      else do
        let (key, value, r) ←
          if r.isAt .key then
            let (key, r) ←
              readUnless [.value, .flowEntry, .flowMappingEnd] false false fuel r.advance
            let (value, r) ←
              if r.isAt .value then
                readUnless [.flowEntry, .flowMappingEnd] false false fuel r.advance
              else some (.empty, r)
            some (key, value, r)
          else
            let (key, r) ← readNode false false fuel r
            some (key, .empty, r)
        let (entries, r) ← readFlowEntries false fuel r
        some ((key, value) :: entries, r)

end

namespace Document

/-- The directives in front of a document: at most one version, and each handle once. -/
def directives : List Token → Option (List (List Char × List Char) × List Token)
  | .version :: ts =>
    if ts.takeWhile (· ≠ .documentStart) |>.contains .version then none else directives ts
  | .tagHandle handle uri :: ts => do
    let (handles, ts) ← directives ts
    if handles.any (·.1 == handle) then none
    some ((handle, uri) :: handles, ts)
  | ts => some ([], ts)

/-- The handles that stand for something in every document. -/
def commonHandles : List (List Char × List Char) :=
  [(['!'], ['!']), (['!', '!'], "tag:yaml.org,2002:".toList)]

/-- Reads the root of a document that starts here; a document may be empty. -/
def readRoot (handles : List (List Char × List Char)) (tokens : List Token) :
    Option (Node × Reading) :=
  readUnless [.version, .documentStart, .documentEnd] true false (4 * tokens.length + 8)
    ⟨tokens, handles ++ commonHandles, [], [], []⟩

/-- The document of a list of tokens. A text without tokens holds an empty document; the first
document starts with its content, or with directives and the marker of its start. -/
def ofTokens? (tokens : List Token) : Option Document := do
  let (node, r) ←
    match tokens with
    | [] => readRoot [] []
    | .documentEnd :: _ => none
    | _ => do
      let (handles, rest) ← directives tokens
      match rest with
      | .documentStart :: rest => readRoot handles rest
      | _ => if rest.length < tokens.length then none else readRoot [] tokens
  if r.tokens.all (· == .documentEnd) then some ⟨node, r.anchors⟩ else none

/-- The one document of a text. -/
def ofText? (s : String) : Option Document := (Token.ofText? s).bind ofTokens?

end Document

end MarkerAtlas.Yaml
