import Mathlib.Data.List.Basic
import Mathlib.Data.List.Infix
import MarkerAtlas.Yaml.Node

/-!
# The aliases of a document

An alias is left in the tree of a document as the number of its anchor, and is looked up when the
document is read as something. Nothing can go wrong then: in every document that was read, each
alias has a node that it stands for, and this node is not again an alias. So it does not matter that
an anchor may stand above its own aliases.

## Invariant

* Names have the numbers of nodes that have begun, and aliases take their numbers from names.
* What begins while something is read has ended when it was read. At the end of the document, all
  that has begun has ended, and a number that was begun is one that refers to a node.
-/

namespace MarkerAtlas.Yaml

/-! ## Nodes -/

namespace Node

/-- The keys and the values of entries. -/
def ofEntries (entries : List (Node × Node)) : List Node := entries.flatMap fun e => [e.1, e.2]

/-- All aliases in the node refer to one of these numbers. -/
inductive RefersTo (numbers : List Nat) : Node → Prop where
  | scalar (text : String) (style : Style) (tag : Option String) :
    RefersTo numbers (.scalar text style tag)
  | sequence {items : List Node} (h : ∀ n ∈ items, n.RefersTo numbers) :
    RefersTo numbers (.sequence items)
  | mapping {entries : List (Node × Node)} (h : ∀ n ∈ ofEntries entries, n.RefersTo numbers) :
    RefersTo numbers (.mapping entries)
  | reference {anchor : Nat} (h : anchor ∈ numbers) : RefersTo numbers (.alias anchor)

theorem RefersTo.mono {numbers numbers' : List Nat} {n : Node} (h : n.RefersTo numbers)
    (hsubset : numbers ⊆ numbers') : n.RefersTo numbers' := by
  induction h with
  | scalar text style tag => exact .scalar text style tag
  | sequence _ ih => exact .sequence ih
  | mapping _ ih => exact .mapping ih
  | reference hanchor => exact .reference (hsubset hanchor)

end Node

/-! ## Readings -/

namespace Reading

/-- Names and nodes that have ended speak only of what has begun. -/
structure Sound (r : Reading) : Prop where
  names : ∀ p ∈ r.names, p.2 ∈ r.begun
  ended : ∀ p ∈ r.ended, p.2.RefersTo r.begun ∧ ∀ anchor, p.2 ≠ .alias anchor

/-- What is left when some nodes were read: nothing that has begun or ended is forgotten, and what
has begun since has ended. -/
structure Reads (r r' : Reading) (nodes : List Node) : Prop where
  sound : r'.Sound
  begun : r.begun <:+ r'.begun
  ended : r.ended ⊆ r'.ended
  closed : ∀ i, r.begun.length ≤ i → i < r'.begun.length → ∃ p ∈ r'.ended, p.1 = i
  refer : ∀ n ∈ nodes, n.RefersTo r'.begun

variable {r r' r'' : Reading} {nodes nodes' : List Node}

/-! ### Tokens that are passed -/

/-- Tokens alone say nothing of anchors. -/
theorem Sound.pass (h : r.Sound) (tokens : List Token) :
    r.Reads { r with tokens := tokens } [] where
  sound := ⟨h.names, h.ended⟩
  begun := List.suffix_refl _
  ended := List.Subset.refl _
  closed := fun _ hle hlt => absurd hlt (Nat.not_lt.mpr hle)
  refer := List.forall_mem_nil _

theorem Sound.stay (h : r.Sound) : r.Reads r [] := h.pass r.tokens

theorem Sound.advance (h : r.Sound) : r.Reads r.advance [] := h.pass _

/-- A comma is passed in front of every item but the first. -/
theorem Sound.passComma (h : r.Sound) (first : Bool) :
    r.Reads (if first = true then r else r.advance) [] := by
  split
  · exact h.stay
  · exact h.advance

theorem Sound.passProperties (h : r.Sound) : r.Reads (readProperties r).2 [] := by
  unfold readProperties
  split <;> exact h.pass _

/-! ### Nodes that are read -/

theorem Reads.change (h : r.Reads r' nodes) (hnodes : ∀ n ∈ nodes', n.RefersTo r'.begun) :
    r.Reads r' nodes' :=
  ⟨h.sound, h.begun, h.ended, h.closed, hnodes⟩

theorem Reads.scalar (h : r.Reads r' nodes) (text : String) (style : Style) (tag : Option String) :
    r.Reads r' [.scalar text style tag] :=
  h.change (List.forall_mem_singleton.mpr (.scalar text style tag))

theorem Reads.sequence {items : List Node} (h : r.Reads r' items) :
    r.Reads r' [.sequence items] :=
  h.change (List.forall_mem_singleton.mpr (.sequence h.refer))

theorem Reads.mapping {entries : List (Node × Node)} (h : r.Reads r' (Node.ofEntries entries)) :
    r.Reads r' [.mapping entries] :=
  h.change (List.forall_mem_singleton.mpr (.mapping h.refer))

/-- One thing is read behind the other. -/
theorem Reads.append (h : r.Reads r' nodes) (h' : r'.Reads r'' nodes') :
    r.Reads r'' (nodes ++ nodes') where
  sound := h'.sound
  begun := h.begun.trans h'.begun
  ended := List.Subset.trans h.ended h'.ended
  closed := by
    intro i hle hlt
    -- It has begun with the first nodes and ended with them, or both with the second ones.
    rcases Nat.lt_or_ge i r'.begun.length with hfirst | hsecond
    · obtain ⟨p, hp, hi⟩ := h.closed i hle hfirst
      exact ⟨p, h'.ended hp, hi⟩
    · exact h'.closed i hsecond hlt
  refer := by
    intro n hn
    rcases List.mem_append.mp hn with hn | hn
    · exact (h.refer n hn).mono h'.begun.subset
    · exact h'.refer n hn

/-! ### Anchors -/

theorem Sound.beginNode (h : r.Sound) (name : Option (List Char)) :
    (r.beginNode name).2.Sound := by
  cases name with
  | none => exact h
  | some name =>
    refine ⟨fun p hp => ?_, fun p hp => ?_⟩
    · rcases List.mem_cons.mp hp with rfl | hp
      · exact List.mem_cons_self
      · exact List.mem_cons_of_mem _ (h.names p (List.mem_filter.mp hp).1)
    · obtain ⟨hrefers, halias⟩ := h.ended p hp
      exact ⟨hrefers.mono (List.subset_cons_self _ _), halias⟩

/-- A node that has an anchor ends what it has begun. -/
theorem Reads.endNode {name : Option (List Char)} {n : Node}
    (h : (r.beginNode name).2.Reads r' [n]) (hn : ∀ anchor, n ≠ .alias anchor) :
    r.Reads (r'.endNode (r.beginNode name).1 n) [n] := by
  cases name with
  | none => exact h
  | some name =>
    have hbegun : r.begun <:+ r'.begun := (List.suffix_cons _ _).trans h.begun
    refine ⟨⟨h.sound.names, fun p hp => ?_⟩, hbegun, ?_, fun i hle hlt => ?_, h.refer⟩
    · rcases List.mem_cons.mp hp with rfl | hp
      · exact ⟨h.refer n List.mem_cons_self, hn⟩
      · exact h.sound.ended p hp
    · exact List.Subset.trans h.ended (List.subset_cons_self _ _)
    · -- It is this node itself, or one that has begun inside it.
      rcases Nat.eq_or_lt_of_le hle with rfl | hlt'
      · exact ⟨_, List.mem_cons_self, rfl⟩
      · obtain ⟨p, hp, hi⟩ := h.closed i hlt' hlt
        exact ⟨p, List.mem_cons_of_mem _ hp, hi⟩

end Reading

/-! ## Readers -/

/-- A reader of something with these nodes in it ends what it has begun. -/
def Closing {β : Type} (nodes : β → List Node) (read : Reading → Option (β × Reading)) : Prop :=
  ∀ ⦃r b r'⦄, r.Sound → read r = some (b, r') → r.Reads r' (nodes b)

theorem closing_of_eq_none {β : Type} {nodes : β → List Node}
    {read : Reading → Option (β × Reading)} (h : ∀ r, read r = none) : Closing nodes read := by
  intro r b r' hr hread
  rw [h] at hread
  cases hread

/-- So do all readers with this many steps. -/
structure Closes (fuel : Nat) : Prop where
  node : ∀ block flush, Closing (fun n => [n]) (readNode block flush fuel)
  content : ∀ block flush marked tag,
    Closing (fun n => [n]) (readContent block flush marked tag fuel)
  stopping : ∀ stops block flush, Closing (fun n => [n]) (readUnless stops block flush fuel)
  blockItems : Closing id (readBlockItems fuel)
  flushItems : Closing id (readFlushItems fuel)
  blockEntries : Closing Node.ofEntries (readBlockEntries fuel)
  flowItems : ∀ first, Closing id (readFlowItems first fuel)
  pair : Closing (fun n => [n]) (readPair fuel)
  flowEntries : ∀ first, Closing Node.ofEntries (readFlowEntries first fuel)

/-- An alias has no anchor and no tag, so that what stands behind these is none. -/
theorem readContent_ne_alias {block flush marked : Bool} {tag : Option String} {fuel : Nat}
    {r r' : Reading} {n : Node} (h : readContent block flush marked tag fuel r = some (n, r'))
    (anchor : Nat) : n ≠ .alias anchor := by
  rintro rfl
  cases fuel with
  | zero =>
    rw [readContent] at h
    cases h
  | succ fuel =>
    rw [readContent] at h
    split at h
    · cases h
    · obtain ⟨_, -, h⟩ := Option.map_eq_some_iff.mp h
      cases h
    · obtain ⟨_, -, h⟩ := Option.map_eq_some_iff.mp h
      cases h
    · split at h
      · obtain ⟨_, -, h⟩ := Option.map_eq_some_iff.mp h
        cases h
      · split at h
        · obtain ⟨_, -, h⟩ := Option.map_eq_some_iff.mp h
          cases h
        · split at h
          · obtain ⟨_, -, h⟩ := Option.map_eq_some_iff.mp h
            cases h
          · split at h <;> cases h

/-- Either of two ways goes on in the same way. -/
theorem bind_ite {α β : Type} {c : Prop} [Decidable c] {a b : Option α} {f : α → Option β} :
    (if c then a >>= f else b >>= f) = (if c then a else b) >>= f := by
  split <;> rfl

namespace Closes

variable {fuel : Nat}

theorem nodeHere (h : Closes fuel) (block flush : Bool) :
    Closing (fun n => [n]) (readNode block flush (fuel + 1)) := by
  intro r n r' hr hread
  rw [readNode] at hread
  split at hread
  · -- The name of an alias has the number of a node that has begun.
    obtain ⟨⟨name, number⟩, hfound, hread⟩ := Option.bind_eq_some_iff.mp hread
    cases hread
    have hbegun := hr.names _ (List.mem_of_find?_eq_some hfound)
    exact hr.advance.change (List.forall_mem_singleton.mpr (.reference hbegun))
  · obtain ⟨tag, -, hread⟩ := Option.bind_eq_some_iff.mp hread
    obtain ⟨⟨node, r₂⟩, hcontent, hread⟩ := Option.bind_eq_some_iff.mp hread
    cases hread
    have hpassed := hr.passProperties
    have hnode := h.content _ _ _ _ (hpassed.sound.beginNode _) hcontent
    exact hpassed.append (hnode.endNode (readContent_ne_alias hcontent))

theorem contentHere (h : Closes fuel) (block flush marked : Bool) (tag : Option String) :
    Closing (fun n => [n]) (readContent block flush marked tag (fuel + 1)) := by
  intro r n r' hr hread
  rw [readContent] at hread
  split at hread
  · cases hread
    exact hr.advance.scalar _ _ _
  · obtain ⟨⟨items, r₁⟩, hitems, hread⟩ := Option.map_eq_some_iff.mp hread
    cases hread
    exact (hr.advance.append (h.flowItems true hr.advance.sound hitems)).sequence
  · obtain ⟨⟨entries, r₁⟩, hentries, hread⟩ := Option.map_eq_some_iff.mp hread
    cases hread
    exact (hr.advance.append (h.flowEntries true hr.advance.sound hentries)).mapping
  · split at hread
    · obtain ⟨⟨items, r₁⟩, hitems, hread⟩ := Option.map_eq_some_iff.mp hread
      cases hread
      exact (h.flushItems hr hitems).sequence
    · split at hread
      · obtain ⟨⟨items, r₁⟩, hitems, hread⟩ := Option.map_eq_some_iff.mp hread
        cases hread
        exact (hr.advance.append (h.blockItems hr.advance.sound hitems)).sequence
      · split at hread
        · obtain ⟨⟨entries, r₁⟩, hentries, hread⟩ := Option.map_eq_some_iff.mp hread
          cases hread
          exact (hr.advance.append (h.blockEntries hr.advance.sound hentries)).mapping
        · split at hread
          · cases hread
            exact hr.stay.scalar _ _ _
          · cases hread

theorem stoppingHere (h : Closes fuel) (stops : List Token) (block flush : Bool) :
    Closing (fun n => [n]) (readUnless stops block flush (fuel + 1)) := by
  intro r n r' hr hread
  rw [readUnless] at hread
  split at hread
  · cases hread
    exact hr.stay.scalar _ _ _
  · exact h.node block flush hr hread

/-- A value may be left out. -/
theorem value (h : Closes fuel) {stops : List Token} {block flush : Bool} {r r' : Reading}
    {n : Node} (hr : r.Sound)
    (hread : (if r.isAt .value then readUnless stops block flush fuel r.advance
      else some (.empty, r)) = some (n, r')) : r.Reads r' [n] := by
  split at hread
  · exact hr.advance.append (h.stopping _ _ _ hr.advance.sound hread)
  · cases hread
    exact hr.stay.scalar _ _ _

theorem blockItemsHere (h : Closes fuel) : Closing id (readBlockItems (fuel + 1)) := by
  intro r items r' hr hread
  rw [readBlockItems] at hread
  split at hread
  · obtain ⟨⟨item, r₁⟩, hitem, hread⟩ := Option.bind_eq_some_iff.mp hread
    obtain ⟨⟨rest, r₂⟩, hrest, hread⟩ := Option.bind_eq_some_iff.mp hread
    cases hread
    have hfirst := hr.advance.append (h.stopping _ _ _ hr.advance.sound hitem)
    exact hfirst.append (h.blockItems hfirst.sound hrest)
  · cases hread
    exact hr.advance
  · cases hread

theorem flushItemsHere (h : Closes fuel) : Closing id (readFlushItems (fuel + 1)) := by
  intro r items r' hr hread
  rw [readFlushItems] at hread
  split at hread
  · obtain ⟨⟨item, r₁⟩, hitem, hread⟩ := Option.bind_eq_some_iff.mp hread
    obtain ⟨⟨rest, r₂⟩, hrest, hread⟩ := Option.bind_eq_some_iff.mp hread
    cases hread
    have hfirst := hr.advance.append (h.stopping _ _ _ hr.advance.sound hitem)
    exact hfirst.append (h.flushItems hfirst.sound hrest)
  · cases hread
    exact hr.stay

theorem blockEntriesHere (h : Closes fuel) :
    Closing Node.ofEntries (readBlockEntries (fuel + 1)) := by
  intro r entries r' hr hread
  rw [readBlockEntries] at hread
  split at hread
  · obtain ⟨⟨key, r₁⟩, hkey, hread⟩ := Option.bind_eq_some_iff.mp hread
    dsimp only at hread
    rw [bind_ite] at hread
    obtain ⟨⟨value, r₂⟩, hvalue, hread⟩ := Option.bind_eq_some_iff.mp hread
    obtain ⟨⟨rest, r₃⟩, hrest, hread⟩ := Option.bind_eq_some_iff.mp hread
    cases hread
    have hkey := hr.advance.append (h.stopping _ _ _ hr.advance.sound hkey)
    have hentry := hkey.append (h.value hkey.sound hvalue)
    exact hentry.append (h.blockEntries hentry.sound hrest)
  · cases hread
    exact hr.advance
  · cases hread

theorem flowItemsHere (h : Closes fuel) (first : Bool) :
    Closing id (readFlowItems first (fuel + 1)) := by
  intro r items r' hr hread
  rw [readFlowItems] at hread
  split at hread
  · cases hread
    exact hr.advance
  · split at hread
    · cases hread
    · have hcomma := hr.passComma first
      generalize (if first = true then r else r.advance) = r₀ at hread hcomma
      refine hcomma.append ?_
      have hr := hcomma.sound
      dsimp only at hread
      split at hread
      · cases hread
        exact hr.advance
      · rw [bind_ite] at hread
        obtain ⟨⟨item, r₁⟩, hitem, hread⟩ := Option.bind_eq_some_iff.mp hread
        obtain ⟨⟨rest, r₂⟩, hrest, hread⟩ := Option.bind_eq_some_iff.mp hread
        cases hread
        have hfirst : r₀.Reads r₁ [item] := by
          split at hitem
          · exact hr.advance.append (h.pair hr.advance.sound hitem)
          · exact h.node _ _ hr hitem
        exact hfirst.append (h.flowItems false hfirst.sound hrest)

theorem pairHere (h : Closes fuel) : Closing (fun n => [n]) (readPair (fuel + 1)) := by
  intro r n r' hr hread
  rw [readPair] at hread
  dsimp only at hread
  rw [bind_ite] at hread
  obtain ⟨⟨key, r₁⟩, hkey, hread⟩ := Option.bind_eq_some_iff.mp hread
  dsimp only at hread
  rw [bind_ite] at hread
  obtain ⟨⟨value, r₂⟩, hvalue, hread⟩ := Option.bind_eq_some_iff.mp hread
  cases hread
  have hkey : r.Reads r₁ [key] := by
    split at hkey
    · cases hkey
      exact hr.advance.scalar _ _ _
    · exact h.node _ _ hr hkey
  exact (hkey.append (h.value hkey.sound hvalue)).mapping

theorem flowEntriesHere (h : Closes fuel) (first : Bool) :
    Closing Node.ofEntries (readFlowEntries first (fuel + 1)) := by
  intro r entries r' hr hread
  rw [readFlowEntries] at hread
  split at hread
  · cases hread
    exact hr.advance
  · split at hread
    · cases hread
    · have hcomma := hr.passComma first
      generalize (if first = true then r else r.advance) = r₀ at hread hcomma
      refine hcomma.append ?_
      have hr := hcomma.sound
      dsimp only at hread
      split at hread
      · cases hread
        exact hr.advance
      · -- A key with its value, or a key alone; the other entries follow.
        have hrest : ∀ {key value : Node} {r₁ : Reading}, r₀.Reads r₁ [key, value] →
            ((readFlowEntries false fuel r₁).bind fun p => some ((key, value) :: p.1, p.2)) =
              some (entries, r') → r₀.Reads r' (Node.ofEntries entries) := by
          intro key value r₁ hentry hread
          obtain ⟨⟨rest, r₂⟩, hrest, hread⟩ := Option.bind_eq_some_iff.mp hread
          cases hread
          exact hentry.append (h.flowEntries false hentry.sound hrest)
        split at hread
        · obtain ⟨⟨key, r₁⟩, hkey, hread⟩ := Option.bind_eq_some_iff.mp hread
          dsimp only at hread
          rw [bind_ite] at hread
          obtain ⟨⟨value, r₂⟩, hvalue, hread⟩ := Option.bind_eq_some_iff.mp hread
          have hkey := hr.advance.append (h.stopping _ _ _ hr.advance.sound hkey)
          exact hrest (hkey.append (h.value hkey.sound hvalue)) hread
        · obtain ⟨⟨key, r₁⟩, hkey, hread⟩ := Option.bind_eq_some_iff.mp hread
          have hkey := h.node _ _ hr hkey
          exact hrest (hkey.append (hkey.sound.stay.scalar _ _ _)) hread

end Closes

theorem closes (fuel : Nat) : Closes fuel := by
  -- The readers call one another with a step less, so all of them are dealt with at once.
  induction fuel with
  | zero =>
    -- Without a step nothing is read.
    exact {
      node := fun _ _ => closing_of_eq_none fun r => by rw [readNode]
      content := fun _ _ _ _ => closing_of_eq_none fun r => by rw [readContent]
      stopping := fun _ _ _ => closing_of_eq_none fun r => by rw [readUnless]
      blockItems := closing_of_eq_none fun r => by rw [readBlockItems]
      flushItems := closing_of_eq_none fun r => by rw [readFlushItems]
      blockEntries := closing_of_eq_none fun r => by rw [readBlockEntries]
      flowItems := fun _ => closing_of_eq_none fun r => by rw [readFlowItems]
      pair := closing_of_eq_none fun r => by rw [readPair]
      flowEntries := fun _ => closing_of_eq_none fun r => by rw [readFlowEntries] }
  | succ fuel ih =>
    exact ⟨ih.nodeHere, ih.contentHere, ih.stoppingHere, ih.blockItemsHere, ih.flushItemsHere,
      ih.blockEntriesHere, ih.flowItemsHere, ih.pairHere, ih.flowEntriesHere⟩

/-! ## Documents -/

namespace Reading

variable {r : Reading}

/-- When all that has begun has ended, the numbers that refer to nodes are those that were begun. -/
theorem map_fst_anchors (h : ∀ i < r.begun.length, ∃ p ∈ r.ended, p.1 = i) :
    r.anchors.map (·.1) = r.begun := by
  have hplaces : ∀ q ∈ r.begun.zip (List.range r.begun.length).reverse,
      ((r.ended.find? (·.1 == q.2)).map fun n => (q.1, n.2)).map (·.1) = some q.1 := by
    intro q hq
    have hplace := List.mem_range.mp (List.mem_reverse.mp (List.of_mem_zip hq).2)
    obtain ⟨p, hp, hi⟩ := h q.2 hplace
    have hsome : (r.ended.find? (·.1 == q.2)).isSome = true :=
      List.find?_isSome.mpr ⟨p, hp, beq_iff_eq.mpr hi⟩
    obtain ⟨found, hfound⟩ := Option.isSome_iff_exists.mp hsome
    rw [hfound]
    rfl
  have hlength : r.begun.length ≤ (List.range r.begun.length).reverse.length := by simp
  unfold anchors
  dsimp only
  rw [List.map_filterMap, List.filterMap_congr hplaces, List.filterMap_eq_map',
    List.map_fst_zip hlength]

theorem mem_anchors {p : Nat × Node} (h : p ∈ r.anchors) : ∃ i, (i, p.2) ∈ r.ended := by
  obtain ⟨⟨number, place⟩, -, hp⟩ := List.mem_filterMap.mp h
  obtain ⟨⟨i, n⟩, hfound, rfl⟩ := Option.map_eq_some_iff.mp hp
  exact ⟨i, List.mem_of_find?_eq_some hfound⟩

end Reading

namespace Document

variable {d : Document}

/-- The numbers that refer to nodes. -/
def numbers (d : Document) : List Nat := d.anchors.map (·.1)

/-- Every alias is one of a node, which is not again an alias. -/
structure Closed (d : Document) : Prop where
  root : d.root.RefersTo d.numbers
  anchors : ∀ p ∈ d.anchors, p.2.RefersTo d.numbers ∧ ∀ anchor, p.2 ≠ .alias anchor

theorem Closed.resolve (h : d.Closed) {n : Node} (hn : n.RefersTo d.numbers) :
    ∃ m, d.resolve n = some m ∧ m.RefersTo d.numbers ∧ ∀ anchor, m ≠ .alias anchor := by
  cases hn with
  | scalar text style tag => exact ⟨_, rfl, .scalar text style tag, nofun⟩
  | sequence hitems => exact ⟨_, rfl, .sequence hitems, nofun⟩
  | mapping hentries => exact ⟨_, rfl, .mapping hentries, nofun⟩
  | @reference anchor hanchor =>
    obtain ⟨p, hp, hnumber⟩ := List.mem_map.mp hanchor
    have hsome : (d.anchors.find? (·.1 == anchor)).isSome = true :=
      List.find?_isSome.mpr ⟨p, hp, by simpa using hnumber⟩
    obtain ⟨q, hq⟩ := Option.isSome_iff_exists.mp hsome
    exact ⟨q.2, by simp only [Document.resolve, hq, Option.map_some],
      h.anchors q (List.mem_of_find?_eq_some hq)⟩

theorem closed_of_readRoot {handles : List (List Char × List Char)} {tokens : List Token}
    {n : Node} {r : Reading} (h : readRoot handles tokens = some (n, r)) :
    (⟨n, r.anchors⟩ : Document).Closed := by
  have hstart : (⟨tokens, handles ++ commonHandles, [], [], []⟩ : Reading).Sound :=
    ⟨List.forall_mem_nil _, List.forall_mem_nil _⟩
  have hread := (closes _).stopping _ _ _ hstart h
  have hnumbers : (⟨n, r.anchors⟩ : Document).numbers = r.begun :=
    Reading.map_fst_anchors fun i hi => hread.closed i (Nat.zero_le i) hi
  refine ⟨?_, fun p hp => ?_⟩
  · rw [hnumbers]
    exact hread.refer n List.mem_cons_self
  · obtain ⟨i, hi⟩ := Reading.mem_anchors hp
    rw [hnumbers]
    exact hread.sound.ended (i, p.2) hi

/-- **No alias of a document that was read is without a node.** -/
theorem closed_of_ofText? {text : String} (h : ofText? text = some d) : d.Closed := by
  obtain ⟨tokens, -, h⟩ := Option.bind_eq_some_iff.mp h
  have hroot : ∀ {handles : List (List Char × List Char)} {tokens : List Token},
      ((readRoot handles tokens).bind fun p =>
        if p.2.tokens.all (· == .documentEnd) then some ⟨p.1, p.2.anchors⟩ else none) = some d →
      d.Closed := by
    intro handles tokens h
    obtain ⟨⟨n, r⟩, hread, h⟩ := Option.bind_eq_some_iff.mp h
    split at h
    · cases h
      exact closed_of_readRoot hread
    · cases h
  -- However the document begins, it is read from its root on.
  unfold ofTokens? at h
  dsimp only at h
  split at h
  · exact hroot h
  · cases h
  · obtain ⟨⟨handles, rest⟩, -, h⟩ := Option.bind_eq_some_iff.mp h
    dsimp only at h
    split at h
    · exact hroot h
    · split at h
      · cases h
      · exact hroot h

-- A sequence that holds itself.
example : (ofText? "&a [*a]").map numbers = some [0] := by decide +kernel

end Document

end MarkerAtlas.Yaml
