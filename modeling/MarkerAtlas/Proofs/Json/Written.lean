import MarkerAtlas.Marker.Codec
import MarkerAtlas.Proofs.Json.Record
import MarkerAtlas.Proofs.Json.Value

/-!
# What a record writes

The members that are written for a value are laid out field by field: one member for a field, or
none for one that may be left out. A record reads the value back from such members.
-/

namespace MarkerAtlas

theorem Json.memberDrafts_eq_map (ms : List (String × Json)) :
    Json.memberDrafts ms = ms.map fun m => (some m.1, m.2.draft) := by
  induction ms with
  | nil => rfl
  | cons m ms ih => rw [Json.memberDrafts, ih, List.map_cons]

theorem Json.forall_mem_memberDrafts {ms : List (String × Json)}
    {P : Option String × Draft → Prop} :
    (∀ m ∈ memberDrafts ms, P m) ↔ ∀ m ∈ ms, P (some m.1, m.2.draft) := by
  rw [memberDrafts_eq_map, List.forall_mem_map]

theorem Json.forall_mem_memberIfSome {α : Type} {name : String} {f : α → Json} {o : Option α}
    {P : String × Json → Prop} : (∀ m ∈ memberIfSome name f o, P m) ↔ ∀ a ∈ o, P (name, f a) := by
  cases o <;> simp [memberIfSome]

namespace Record

variable {α β : Type}

theorem lookup_memberDrafts (ms : List (String × Json)) (name : String) :
    lookup (Json.memberDrafts ms) name = (ms.find? (·.1 == name)).map (·.2.draft) := by
  simp [lookup, Json.memberDrafts_eq_map, List.find?_map, Function.comp_def]

theorem lookup_append {ms ns : List (String × Json)} {name : String} :
    lookup (Json.memberDrafts (ms ++ ns)) name =
      (lookup (Json.memberDrafts ms) name).or (lookup (Json.memberDrafts ns) name) := by
  rw [lookup_memberDrafts, lookup_memberDrafts, lookup_memberDrafts, List.find?_append,
    Option.map_or]

theorem lookup_eq_none {ms : List (String × Json)} {name : String} (h : name ∉ ms.map (·.1)) :
    lookup (Json.memberDrafts ms) name = none := by
  rw [lookup_memberDrafts, Option.map_eq_none_iff]
  refine List.find?_eq_none.mpr fun m hm hname => h ?_
  rw [← beq_iff_eq.mp hname]
  exact List.mem_map_of_mem hm

/-- The members write the value for the record: they have the names of fields, each at most once,
and from them the value is built. -/
structure Writes (r : Record α) (ms : List (String × Json)) (a : α) : Prop where
  known : ∀ name ∈ ms.map (·.1), name ∈ r.names
  once : (ms.map (·.1)).Nodup
  build : ∀ get : String → Option Draft,
    (∀ name ∈ r.names, get name = lookup (Json.memberDrafts ms) name) → r.build get = .ok a

namespace Writes

theorem pure (a : α) : (Pure.pure a : Record α).Writes [] a :=
  ⟨nofun, List.nodup_nil, fun _ _ => rfl⟩

variable {f : Record (α → β)} {x : Record α} {ms ns : List (String × Json)} {g : α → β} {a : α}

theorem seq (hf : f.Writes ms g) (hx : x.Writes ns a) (hnames : ∀ name ∈ x.names, name ∉ f.names) :
    (f <*> x).Writes (ms ++ ns) (g a) := by
  have hms : ∀ name ∈ x.names, name ∉ ms.map (·.1) :=
    fun name hname hmem => hnames name hname (hf.known name hmem)
  have hns : ∀ name ∈ f.names, name ∉ ns.map (·.1) :=
    fun name hname hmem => hnames name (hx.known name hmem) hname
  refine ⟨?_, ?_, ?_⟩
  · intro name hname
    rw [List.map_append, List.mem_append] at hname
    rw [names_seq, List.mem_append]
    exact hname.imp (hf.known name) (hx.known name)
  · rw [List.map_append]
    exact hf.once.append hx.once fun name hmem hmem' => hms name (hx.known name hmem') hmem
  · intro get hget
    rw [names_seq] at hget
    -- Either side looks up its own names only, and the members of the other side have none of them.
    refine build_seq_eq_ok.mpr ⟨g, a, hf.build get fun name hname => ?_,
      hx.build get fun name hname => ?_, rfl⟩
    · rw [hget name (List.mem_append_left _ hname), lookup_append, lookup_eq_none (hns name hname),
        Option.or_none]
    · rw [hget name (List.mem_append_right _ hname), lookup_append, lookup_eq_none (hms name hname),
        Option.none_or]

variable {name : String} {dec : Decoder α} {j : Json}

/-- One member for the one field of a record. -/
theorem single {r : Record α} (hnames : r.names = [name])
    (hbuild : ∀ get : String → Option Draft, get name = some j.draft → r.build get = .ok a) :
    r.Writes [(name, j)] a := by
  refine ⟨?_, List.nodup_singleton name, fun get hget => hbuild get ?_⟩
  · rw [hnames]
    exact fun _ h => h
  · rw [hget name (hnames ▸ List.mem_singleton_self name), lookup_memberDrafts]
    simp

variable (name)

theorem required (h : dec j.draft = .ok a) : (Record.required name dec).Writes [(name, j)] a :=
  single rfl fun get hget => by simp only [Record.required, hget, h]

theorem withDefault {default : α} (h : dec j.draft = .ok a) :
    (Record.withDefault name dec default).Writes [(name, j)] a :=
  single rfl fun get hget => by simp only [Record.withDefault, hget, h]

theorem leftOut {default : α} : (Record.withDefault name dec default).Writes [] default := by
  refine ⟨nofun, List.nodup_nil, fun get hget => ?_⟩
  simp only [Record.withDefault, hget name List.mem_cons_self]
  rfl

end Writes

/-- **A record reads back what was written for it.** -/
theorem Writes.decode {r : Record α} [r.Lawful] {ms : List (String × Json)} {a : α}
    {excess : DecodeError} (h : r.Writes ms a) :
    r.decodeWith excess (Json.obj ms).draft = .ok a := by
  have hnames : (Json.memberDrafts ms).filterMap (·.1) = ms.map (·.1) := by
    simp [Json.memberDrafts_eq_map, List.filterMap_map]
  -- No name is written twice, so that each member is found under its own.
  have hnd : (knownNames r.fields (Json.memberDrafts ms)).Nodup := by
    rw [knownNames, hnames]
    exact h.once.filter _
  have hbuild := h.build (lookup (Json.memberDrafts ms)) fun _ _ => rfl
  rw [Json.draft]
  refine decodeWith_obj_eq_ok.mpr ⟨fun m hm => ?_, hnd, hbuild⟩
  obtain ⟨⟨name, j⟩, hmem, rfl⟩ := List.mem_map.mp (Json.memberDrafts_eq_map ms ▸ hm)
  have hsome := isSome_fieldOf? (h.known name (List.mem_map_of_mem hmem))
  obtain ⟨f, hf⟩ := Option.isSome_iff_exists.mp hsome
  obtain ⟨hmemf, rfl⟩ := fieldOf?_eq_some hf
  refine (fits_known hf).mpr (Lawful.check_of_build hbuild f hmemf _ ?_)
  rw [lookup_eq_some hnd hsome]
  exact hm

end Record

/-! ## Values of fields -/

namespace Decoder

theorem text_draft (s : String) : text (Json.str s).draft = .ok s := by rw [Json.draft, text]

theorem bool_draft (b : Bool) : bool (Json.bool b).draft = .ok b := by rw [Json.draft, bool]

theorem float_draft (x : Float) : float (Json.float x).draft = .ok x := by
  rw [Json.float, Json.draft, float, JsonNumber.toFloat]

theorem integer_draft {least greatest n : Int} (h : least ≤ n ∧ n ≤ greatest) :
    integer least greatest (Json.int n).draft = .ok n := by
  rw [Json.int, Json.draft, integer, if_pos h]

theorem int64_draft (n : Int64) : int64 (Json.int n.toInt).draft = .ok n := by
  rw [int64, integer_draft ⟨Int64.minValue_le_toInt n, Int64.toInt_le n⟩, Except.map]
  rw [Int64.ofInt_toInt]

theorem uint32_draft (n : UInt32) : uint32 (Json.nat n.toNat).draft = .ok n := by
  have hn : n.toNat < UInt32.size := n.toNat_lt
  have hread : integer 0 (UInt32.size - 1 : Nat) (Json.nat n.toNat).draft = .ok (n.toNat : Int) :=
    integer_draft ⟨by omega, by omega⟩
  rw [uint32, hread, Except.map, Int.toNat_natCast, UInt32.ofNat_toNat]

theorem uint8_draft (n : UInt8) : uint8 (Json.nat n.toNat).draft = .ok n := by
  have hn : n.toNat < 256 := n.toNat_lt
  have hread : integer 0 255 (Json.nat n.toNat).draft = .ok (n.toNat : Int) :=
    integer_draft ⟨by omega, by omega⟩
  rw [uint8, hread, Except.map, Int.toNat_natCast, UInt8.ofNat_toNat]

/-- What is written for a value or for its absence is read back by a decoder that does not itself
take null. -/
theorem optional_draft {α : Type} {dec : Decoder α} {enc : α → Json}
    (hnull : ∀ a, dec .null ≠ .ok a) (h : ∀ a, dec (enc a).draft = .ok a) (o : Option α) :
    optional dec (Json.ofOption enc o).draft = .ok o := by
  cases o with
  | none => rfl
  | some a =>
    show optional dec (enc a).draft = _
    unfold optional
    split
    · -- What is written for a value is not null, as the decoder would not take that.
      rename_i heq
      exact absurd (heq ▸ h a) (hnull a)
    · rw [h]
      rfl

end Decoder

theorem MarkerKind.decode_draft (k : MarkerKind) : decode (Json.str k.name).draft = .ok k := by
  cases k <;> rfl

theorem Faction.decode_draft (f : Faction) : decode (Json.str f.name).draft = .ok f := by
  cases f <;> rfl

theorem Scope.decode_draft (s : Scope) : decode (Json.str s.name).draft = .ok s := by
  cases s <;> rfl

section
variable {α : Type} (name : String) {dec : Decoder α} {enc : α → Json}

theorem Record.Writes.optional (hnull : ∀ a, dec .null ≠ .ok a)
    (h : ∀ a, dec (enc a).draft = .ok a) (o : Option α) :
    (Record.optional name dec).Writes [(name, Json.ofOption enc o)] o :=
  withDefault name (Decoder.optional_draft hnull h o)

theorem Record.Writes.memberIfSome (hnull : ∀ a, dec .null ≠ .ok a)
    (h : ∀ a, dec (enc a).draft = .ok a) (o : Option α) :
    (Record.optional name dec).Writes (Json.memberIfSome name enc o) o := by
  cases o with
  | none => exact leftOut name
  | some a => exact optional name hnull h (some a)

end

/-! ## Tagged records -/

/-- A tagged record is read back if its members are written after the tag. -/
theorem Tagged.decode_written {α : Type} {tag name : String} {kinds : List (String × Record α)}
    {r : Record α} [r.Lawful] {ms : List (String × Json)} {a : α}
    (hkind : Decoder.named kinds name = .ok r) (htag : tag ∉ r.names) (hms : r.Writes ms a)
    (hsorted : ∀ m ∈ ms, m.2.Sorted) :
    Tagged.decode tag kinds (Json.obj ((tag, .str name) :: ms)).draft = .ok a := by
  have hne : ∀ m ∈ Json.memberDrafts ms, m.1 ≠ some tag := by
    refine Json.forall_mem_memberDrafts.mpr fun m hm hname => htag ?_
    rw [← Option.some.inj hname]
    exact hms.known m.1 (List.mem_map_of_mem hm)
  -- The tag is the one member that is set apart, since no member of the record has its name.
  have hothers : Tagged.others tag ((some tag, Draft.str name) :: Json.memberDrafts ms) =
      Json.memberDrafts ms := by
    rw [Tagged.others, List.filter_cons_of_neg (by simp), List.filter_eq_self]
    exact fun m hm => decide_eq_true (hne m hm)
  have htags : Tagged.tags tag ((some tag, Draft.str name) :: Json.memberDrafts ms) =
      [(some tag, .str name)] := by
    rw [Tagged.tags, List.filter_cons_of_pos (by simp), List.filter_eq_nil_iff.mpr]
    exact fun m hm h => hne m hm (of_decide_eq_true h)
  rw [Json.draft, Json.memberDrafts, Json.draft]
  refine Tagged.decode_obj_eq_ok.mpr ⟨r, ⟨?_, ?_, _, _, htags, rfl, hkind⟩, ?_⟩
  · exact List.forall_mem_cons.mpr ⟨Option.some_ne_none tag,
      Json.forall_mem_memberDrafts.mpr fun m _ => Option.some_ne_none m.1⟩
  · rw [hothers]
    exact Json.forall_mem_memberDrafts.mpr fun m hm => ⟨m.2, (hsorted m hm).value_draft⟩
  · rw [hothers]
    exact hms.decode

end MarkerAtlas
