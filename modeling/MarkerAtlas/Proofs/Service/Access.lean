import Mathlib.Algebra.Group.Nat.Defs
import Mathlib.Data.List.TakeDrop
import Mathlib.Data.List.TakeWhile
import MarkerAtlas.Service.Message
import MarkerAtlas.Service.MediaType

/-!
# Who may ask, and how a browser asks

The peers that are served are those in three blocks of addresses. A page in a browser can send a
request to any server without asking in advance, but then the browser lets it choose no other
format for the body than plain text or a form: none of these is read as JSON here, however the
header is spelled.
-/

namespace MarkerAtlas

/-! ## Blocks of addresses -/

namespace Address

/-- Four bytes as one number. -/
def number (a b c d : UInt8) : Nat := ((a.toNat * 256 + b.toNat) * 256 + c.toNat) * 256 + d.toNat

/-- The address has four bytes, and the first `bits` of their bits are those of the base. -/
def InBlock (address : Address) (base bits : Nat) : Prop :=
  ∃ a b c d, address = v4 a b c d ∧ number a b c d / 2 ^ (32 - bits) = base / 2 ^ (32 - bits)

/-- The address is a loopback address, which are `127.0.0.0/8` and `::1`, or in `100.64.0.0/10`. -/
def IsLocal (address : Address) : Prop :=
  address.InBlock (number 127 0 0 0) 8 ∨ address = v6 [0, 0, 0, 0, 0, 0, 0, 1] ∨
    address.InBlock (number 100 64 0 0) 10

theorem inBlock_v4 {a b c d : UInt8} {base bits : Nat} :
    (v4 a b c d).InBlock base bits ↔ number a b c d / 2 ^ (32 - bits) = base / 2 ^ (32 - bits) := by
  constructor
  · rintro ⟨a', b', c', d', heq, hnumber⟩
    cases heq
    exact hnumber
  · intro hnumber
    exact ⟨a, b, c, d, rfl, hnumber⟩

/-- The peers that are served are the local ones. -/
theorem isAllowed_iff (address : Address) : address.isAllowed = true ↔ address.IsLocal := by
  cases address with
  | v6 groups => simp [isAllowed, isLoopback, isPrivateNetwork, IsLocal, InBlock]
  | v4 a b c d =>
    have hb : b.toNat < 256 := b.toNat_lt
    have hc : c.toNat < 256 := c.toNat_lt
    have hd : d.toNat < 256 := d.toNat_lt
    have hloopback : (v4 a b c d).InBlock (number 127 0 0 0) 8 ↔ a.toNat = 127 := by
      rw [inBlock_v4]
      simp only [number, UInt8.reduceToNat]
      omega
    have hprivate : (v4 a b c d).InBlock (number 100 64 0 0) 10 ↔
        a.toNat = 100 ∧ 64 ≤ b.toNat ∧ b.toNat ≤ 127 := by
      rw [inBlock_v4]
      simp only [number, UInt8.reduceToNat]
      omega
    rw [IsLocal, hloopback, hprivate]
    simp only [isAllowed, isLoopback, isPrivateNetwork, Bool.or_eq_true, decide_eq_true_eq,
      UInt8.le_iff_toNat_le, ← UInt8.toNat_inj, UInt8.reduceToNat, reduceCtorEq, false_or]

end Address

/-! ## Formats that need no asking in advance -/

namespace MediaType

/-- A blank that may stand around the parts of a header. -/
def isHeaderBlank (c : Char) : Bool := c = ' ' || c = '\t' || c = '\n' || c = '\r'

/-- The type and the subtype of a format as a browser reads them, in small letters: what stands
before the first slash, and what stands from there to a semicolon, without blanks at the ends. -/
def essence (s : String) : List Char × List Char :=
  let text := s.toList.dropWhile isHeaderBlank
  let subtype := ((text.dropWhile (· ≠ '/')).drop 1).takeWhile (· ≠ ';')
  let trimmed := (subtype.reverse.dropWhile isHeaderBlank).reverse
  ((text.takeWhile (· ≠ '/')).map Char.toLower, trimmed.map Char.toLower)

/-- A format that a page may send to any server without asking in advance: text, or a form in
either of its formats. -/
def IsSimple (s : String) : Prop :=
  (essence s).1 = "text".toList ∨
    essence s = ("multipart".toList, "form-data".toList) ∨
    essence s = ("application".toList, "x-www-form-urlencoded".toList)

/-- What the text of a format is made of, if it is one. -/
theorem ofText?_some {s : String} {m : MediaType} (h : ofText? s = some m) :
    ∃ type subtype rest, s.toList = type ++ '/' :: (subtype ++ rest) ∧ type ≠ [] ∧
      (∀ c ∈ type, isNameChar c = true) ∧ (∀ c ∈ subtype, isNameChar c = true) ∧
      (∀ c, rest.head? = some c → c = ';') ∧ m.type = type.map Char.toLower ∧
      splitSuffix (subtype.map Char.toLower) = (m.subtype, m.suffix) := by
  simp only [ofText?, spanName, List.span_eq_takeWhile_dropWhile] at h
  split at h
  · next rest hslash =>
    rw [Option.ite_none_left_eq_some] at h
    obtain ⟨hparts, hm⟩ := h
    simp only [Bool.or_eq_true, not_or] at hparts
    obtain ⟨⟨htype, -⟩, hparameters⟩ := hparts
    cases hm
    refine ⟨s.toList.takeWhile isNameChar, rest.takeWhile isNameChar, rest.dropWhile isNameChar,
      ?_, by simpa using htype, fun c => List.mem_takeWhile_imp, fun c => List.mem_takeWhile_imp,
      ?_, rfl, rfl⟩
    · rw [List.takeWhile_append_dropWhile, ← hslash, List.takeWhile_append_dropWhile]
    · -- What follows the subtype is nothing, or begins as parameters do.
      intro c hc
      cases hrest : rest.dropWhile isNameChar with
      | nil =>
        rw [hrest] at hc
        cases hc
      | cons d ds =>
        rw [hrest] at hc hparameters
        obtain rfl : d = c := Option.some.inj hc
        by_cases hsemicolon : d = ';'
        · exact hsemicolon
        · simp [hsemicolon] at hparameters
  · cases h

theorem not_isHeaderBlank_of_isNameChar {c : Char} (h : isNameChar c = true) :
    isHeaderBlank c = false := by
  cases hblank : isHeaderBlank c with
  | false => rfl
  | true =>
    have hcases : c = ' ' ∨ c = '\t' ∨ c = '\n' ∨ c = '\r' := by
      simpa [isHeaderBlank, or_assoc] using hblank
    rcases hcases with rfl | rfl | rfl | rfl
    · exact absurd h (by decide)
    · exact absurd h (by decide)
    · exact absurd h (by decide)
    · exact absurd h (by decide)

theorem dropWhile_isHeaderBlank_of_names {cs : List Char} (h : ∀ c ∈ cs, isNameChar c = true)
    (hne : cs ≠ []) (rest : List Char) :
    (cs ++ rest).dropWhile isHeaderBlank = cs ++ rest := by
  cases cs with
  | nil => exact absurd rfl hne
  | cons c cs =>
    have hc := not_isHeaderBlank_of_isNameChar (h c List.mem_cons_self)
    rw [List.cons_append, List.dropWhile_cons, hc, if_neg Bool.false_ne_true]

/-- A browser reads the type and the subtype as they are read here. -/
theorem essence_of_ofText? {s : String} {m : MediaType} (h : ofText? s = some m) :
    (essence s).1 = m.type ∧ splitSuffix (essence s).2 = (m.subtype, m.suffix) := by
  obtain ⟨type, subtype, rest, htext, hne, htype, hsubtype, hrest, hmtype, hmsub⟩ := ofText?_some h
  have hstart : s.toList.dropWhile isHeaderBlank = type ++ '/' :: (subtype ++ rest) := by
    rw [htext, dropWhile_isHeaderBlank_of_names htype hne]
  -- Neither a slash nor a semicolon stands in a name.
  have hslash : ∀ c ∈ type, decide (c ≠ '/') = true := by
    intro c hc
    apply decide_eq_true
    rintro rfl
    exact absurd (htype _ hc) (by decide)
  have hsemicolon : ∀ c ∈ subtype, decide (c ≠ ';') = true := by
    intro c hc
    apply decide_eq_true
    rintro rfl
    exact absurd (hsubtype _ hc) (by decide)
  have hbefore : (type ++ '/' :: (subtype ++ rest)).takeWhile (· ≠ '/') = type := by
    rw [List.takeWhile_append_of_pos hslash]
    simp
  have hafter : (type ++ '/' :: (subtype ++ rest)).dropWhile (· ≠ '/') =
      '/' :: (subtype ++ rest) := by
    rw [List.dropWhile_append_of_pos hslash]
    simp
  have hsub : (subtype ++ rest).takeWhile (· ≠ ';') = subtype := by
    rw [List.takeWhile_append_of_pos hsemicolon]
    cases rest with
    | nil => simp
    | cons c cs => simp [hrest c rfl]
  have hend : (subtype.reverse.dropWhile isHeaderBlank).reverse = subtype := by
    cases hreverse : subtype.reverse with
    | nil => rw [List.reverse_eq_nil_iff.mp hreverse]; rfl
    | cons c cs =>
      have hmem : c ∈ subtype := List.mem_reverse.mp (hreverse ▸ List.mem_cons_self)
      have hc := not_isHeaderBlank_of_isNameChar (hsubtype c hmem)
      rw [List.dropWhile_cons, hc, if_neg Bool.false_ne_true, ← hreverse, List.reverse_reverse]
  constructor
  · rw [essence, hstart, hbefore, hmtype]
  · simp only [essence, hstart, hafter, List.drop_one, List.tail_cons, hsub, hend, hmsub]

/-- No format that needs no asking in advance is read as JSON. -/
theorem not_isJson_of_isSimple {s : String} (hs : IsSimple s) {m : MediaType}
    (hm : ofText? s = some m) : m.isJson = false := by
  obtain ⟨htype, hsub⟩ := essence_of_ofText? hm
  have hjson : ∀ type, m.type = type → type ≠ "application".toList → m.isJson = false := by
    intro type hmtype hne
    simp only [isJson, hmtype, hne, decide_false, Bool.false_and]
  rcases hs with htext | hform | hform
  · exact hjson _ (htype.symm.trans htext) (by decide)
  · rw [hform] at htype
    exact hjson _ htype.symm (by decide)
  · -- The other format of forms has a subtype of its own, and no suffix.
    rw [hform] at hsub
    have hsplit : splitSuffix "x-www-form-urlencoded".toList =
        ("x-www-form-urlencoded".toList, none) := by decide +kernel
    obtain ⟨hsubtype, hsuffix⟩ := Prod.mk.inj (hsplit.symm.trans hsub)
    simp [isJson, ← hsubtype, ← hsuffix]

end MediaType

/-- A request that a page in a browser can send to any server without asking in advance: it names
no format for the body, or one of those for which this is so. -/
def Request.NeedsNoAdvance (r : Request) : Prop :=
  ∀ s, r.contentType = some s → MediaType.IsSimple s

end MarkerAtlas
