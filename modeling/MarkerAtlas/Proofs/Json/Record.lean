import MarkerAtlas.Json.Decoder
import Mathlib.Data.List.Nodup
import Mathlib.Data.List.Perm.Basic

/-!
# What a record takes

A record is read from the members that have the names of its fields. The order of the members is
of no account: those of unknown names are passed over, and each of the others may occur only once.
-/

namespace MarkerAtlas

theorem Decoder.otherwise_ne_ok {α : Type} (d : Draft) (a : α) :
    Decoder.otherwise d ≠ .ok a := by
  unfold Decoder.otherwise
  split <;> nofun

namespace Record

variable {α β : Type}

/-! ## Lawful records -/

/-- The names of a record's fields. -/
def names (r : Record α) : List String := r.fields.map (·.name)

/-- A record that is built from its own fields, and from nothing that their checks refuse. -/
class Lawful (r : Record α) : Prop where
  build_congr : ∀ {get get' : String → Option Draft},
    (∀ name ∈ r.names, get name = get' name) → r.build get = r.build get'
  check_of_build : ∀ {get : String → Option Draft} {a : α}, r.build get = .ok a →
    ∀ f ∈ r.fields, ∀ d, get f.name = some d → f.check d = .ok ()

theorem names_seq (f : Record (α → β)) (x : Record α) : (f <*> x).names = f.names ++ x.names :=
  List.map_append

theorem build_seq (f : Record (α → β)) (x : Record α) (get : String → Option Draft) :
    (f <*> x).build get = (f.build get).bind fun g => (x.build get).map g := by
  show (Record.seq f x).build get = _
  simp only [Record.seq]
  cases f.build get <;> rfl

theorem build_seq_eq_ok {f : Record (α → β)} {x : Record α} {get : String → Option Draft} {b : β} :
    (f <*> x).build get = .ok b ↔ ∃ g a, f.build get = .ok g ∧ x.build get = .ok a ∧ g a = b := by
  rw [build_seq]
  cases f.build get with
  | error e => simp [Except.bind]
  | ok g => cases x.build get <;> simp [Except.bind, Except.map]

instance lawful_pure (a : α) : Lawful (pure a : Record α) where
  build_congr _ := rfl
  check_of_build _ _ hf := nomatch hf

instance lawful_seq (f : Record (α → β)) (x : Record α) [hf : f.Lawful] [hx : x.Lawful] :
    Lawful (f <*> x) where
  build_congr {get get'} h := by
    rw [names_seq] at h
    have hfbuild : f.build get = f.build get' :=
      hf.build_congr fun name hname => h name (List.mem_append_left _ hname)
    have hxbuild : x.build get = x.build get' :=
      hx.build_congr fun name hname => h name (List.mem_append_right _ hname)
    rw [build_seq, build_seq, hfbuild, hxbuild]
  check_of_build {get b} h field hfield d hd := by
    obtain ⟨g, a, hg, ha, -⟩ := build_seq_eq_ok.mp h
    rcases List.mem_append.mp (show field ∈ f.fields ++ x.fields from hfield) with hmem | hmem
    · exact hf.check_of_build hg field hmem d hd
    · exact hx.check_of_build ha field hmem d hd

instance lawful_map (g : α → β) (x : Record α) [x.Lawful] : Lawful (g <$> x) :=
  lawful_seq (pure g) x

section
variable (name : String) (f : Decoder α)

instance lawful_required : Lawful (required name f) where
  build_congr h := by
    simp only [required, h name List.mem_cons_self]
  check_of_build {get a} h field hfield d hd := by
    obtain rfl := List.mem_singleton.mp hfield
    have hd : get name = some d := hd
    have ha : f d = .ok a := by simpa only [required, hd] using h
    show (f d).map _ = .ok ()
    rw [ha]
    rfl

instance lawful_withDefault (default : α) : Lawful (withDefault name f default) where
  build_congr h := by
    simp only [withDefault, h name List.mem_cons_self]
  check_of_build {get a} h field hfield d hd := by
    obtain rfl := List.mem_singleton.mp hfield
    have hd : get name = some d := hd
    have ha : f d = .ok a := by simpa only [withDefault, hd] using h
    show (f d).map _ = .ok ()
    rw [ha]
    rfl

instance lawful_optional : Lawful (Record.optional name f) :=
  lawful_withDefault name (Decoder.optional f) none

end

/-! ## Members -/

/-- The field that a member of this name belongs to. -/
def fieldOf? (fields : List RecordField) (name : String) : Option RecordField :=
  fields.find? (·.name == name)

theorem fieldOf?_eq_some {fields : List RecordField} {name : String} {f : RecordField}
    (h : fieldOf? fields name = some f) : f ∈ fields ∧ f.name = name := by
  rw [fieldOf?] at h
  exact ⟨List.mem_of_find?_eq_some h, by simpa using List.find?_some h⟩

/-- The member has a name, and what it holds is taken by its field; if there is no field of its
name it only has to be JSON. -/
def Fits (fields : List RecordField) (m : Option String × Draft) : Prop :=
  ∃ name, m.1 = some name ∧
    match fieldOf? fields name with
    | none => m.2.whole = true
    | some f => f.check m.2 = .ok ()

/-- The names of the members that belong to a field. -/
def knownNames (fields : List RecordField) (ms : List (Option String × Draft)) : List String :=
  (ms.filterMap (·.1)).filter fun name => (fieldOf? fields name).isSome

section
variable {fields : List RecordField} {name : String} {d : Draft}
  {ms : List (Option String × Draft)}

theorem not_fits_unnamed : ¬ Fits fields (none, d) := by
  rintro ⟨name, hname, -⟩
  cases hname

theorem fits_unknown (h : fieldOf? fields name = none) :
    Fits fields (some name, d) ↔ d.whole = true := by
  constructor
  · rintro ⟨_, ⟨⟩, hfits⟩
    rwa [h] at hfits
  · intro hwhole
    exact ⟨name, rfl, by rwa [h]⟩

theorem fits_known {f : RecordField} (h : fieldOf? fields name = some f) :
    Fits fields (some name, d) ↔ f.check d = .ok () := by
  constructor
  · rintro ⟨_, ⟨⟩, hfits⟩
    rwa [h] at hfits
  · intro hcheck
    exact ⟨name, rfl, by rwa [h]⟩

theorem knownNames_cons_unknown (h : fieldOf? fields name = none) :
    knownNames fields ((some name, d) :: ms) = knownNames fields ms := by
  simp [knownNames, h]

theorem knownNames_cons_known {f : RecordField} (h : fieldOf? fields name = some f) :
    knownNames fields ((some name, d) :: ms) = name :: knownNames fields ms := by
  simp [knownNames, h]

theorem checkMembers_eq_ok {seen : List String} :
    checkMembers fields seen ms = .ok () ↔
      (∀ m ∈ ms, Fits fields m) ∧ (knownNames fields ms).Nodup ∧
        ∀ name ∈ knownNames fields ms, name ∉ seen := by
  -- By induction on the members, with the names that have been seen before each of them.
  induction ms generalizing seen with
  | nil => simp [checkMembers, knownNames]
  | cons m ms ih =>
    obtain ⟨_ | name, d⟩ := m
    · simp [checkMembers, not_fits_unnamed]
    · cases hfield : fieldOf? fields name with
      | none =>
        rw [fieldOf?] at hfield
        rw [List.forall_mem_cons, fits_unknown hfield, knownNames_cons_unknown hfield, checkMembers,
          hfield]
        by_cases hwhole : d.whole = true <;> simp [hwhole, ih]
      | some f =>
        rw [List.forall_mem_cons, fits_known hfield, knownNames_cons_known hfield, checkMembers]
        rw [fieldOf?] at hfield
        rw [hfield]
        by_cases hseen : name ∈ seen
        · simp [hseen]
        · cases hcheck : f.check d with
          | error e => simp [hseen, hcheck]
          | ok u =>
            -- What was not seen before is seen from now on.
            simp only [if_neg hseen, hcheck]
            rw [ih, List.nodup_cons, List.forall_mem_cons]
            constructor
            · rintro ⟨hfits, hnd, hfresh⟩
              refine ⟨⟨trivial, hfits⟩, ⟨fun hmem => ?_, hnd⟩, hseen, fun n hn hmem => ?_⟩
              · exact hfresh name hmem List.mem_cons_self
              · exact hfresh n hn (List.mem_cons_of_mem name hmem)
            · rintro ⟨⟨-, hfits⟩, ⟨hname, hnd⟩, -, hfresh⟩
              refine ⟨hfits, hnd, fun n hn hmem => ?_⟩
              rcases List.mem_cons.mp hmem with rfl | hmem
              · exact hname hn
              · exact hfresh n hn hmem

/-- The value of a member that occurs only once is found wherever the member stands. -/
theorem lookup_eq_some (hnd : (knownNames fields ms).Nodup)
    (hname : (fieldOf? fields name).isSome = true) :
    lookup ms name = some d ↔ (some name, d) ∈ ms := by
  obtain ⟨f, hf⟩ := Option.isSome_iff_exists.mp hname
  induction ms with
  | nil => simp [lookup]
  | cons m ms ih =>
    obtain ⟨name', d'⟩ := m
    -- Of several members with a name the last one counts, so that it has to be the only one.
    by_cases hsame : name' = some name
    · subst hsame
      rw [knownNames_cons_known hf, List.nodup_cons] at hnd
      -- No second member of this name follows.
      have hlast : (some name, d) ∉ ms := by
        intro hmem
        refine hnd.1 (List.mem_filter.mpr ⟨List.mem_filterMap.mpr ⟨_, hmem, rfl⟩, hname⟩)
      simp [lookup, hlast, eq_comm]
    · have hnd' : (knownNames fields ms).Nodup := by
        refine hnd.sublist ?_
        exact ((List.sublist_cons_self _ ms).filterMap _).filter _
      rw [List.mem_cons, ← ih hnd', lookup, List.find?_cons_of_neg (by simpa using hsame)]
      simp [lookup, Ne.symm hsame]

end

variable {r : Record α} {ms ms' : List (Option String × Draft)} {a : α} {excess : DecodeError}

/-- Whatever is read as a record is built from something. -/
theorem exists_build {d : Draft} (h : r.decodeWith excess d = .ok a) :
    ∃ get, r.build get = .ok a := by
  unfold decodeWith at h
  -- An object, a list that is read in the order of the fields, or something else.
  split at h
  · split at h
    · cases h
    · exact ⟨_, h⟩
  · split at h
    · cases h
    · split at h
      · cases h
      · rename_i hbuild
        split at h
        · cases h
        · exact ⟨_, hbuild.trans h⟩
  · exact absurd h (Decoder.otherwise_ne_ok _ a)

theorem isSome_fieldOf? {name : String} (h : name ∈ r.names) :
    (fieldOf? r.fields name).isSome = true := by
  obtain ⟨f, hf, rfl⟩ := List.mem_map.mp h
  exact List.find?_isSome.mpr ⟨f, hf, beq_self_eq_true _⟩

/-- What a record is read from: members that fit, each field at most once. -/
theorem decodeWith_obj_eq_ok :
    r.decodeWith excess (.obj ms) = .ok a ↔
      (∀ m ∈ ms, Fits r.fields m) ∧ (knownNames r.fields ms).Nodup ∧
        r.build (lookup ms) = .ok a := by
  have hcheck : checkMembers r.fields [] ms = .ok () ↔
      (∀ m ∈ ms, Fits r.fields m) ∧ (knownNames r.fields ms).Nodup := by
    rw [checkMembers_eq_ok]
    simp
  rw [decodeWith, ← and_assoc, ← hcheck]
  cases checkMembers r.fields [] ms <;> simp

/-- **The order of the members is of no account.** -/
theorem decodeWith_perm [r.Lawful] (h : ms.Perm ms') :
    r.decodeWith excess (.obj ms) = .ok a ↔ r.decodeWith excess (.obj ms') = .ok a := by
  -- Being a permutation is symmetric, so that one direction is enough.
  suffices himp : ∀ {ms ms' : List (Option String × Draft)}, ms.Perm ms' →
      r.decodeWith excess (.obj ms) = .ok a → r.decodeWith excess (.obj ms') = .ok a from
    ⟨himp h, himp h.symm⟩
  intro ms ms' h hms
  obtain ⟨hfits, hnd, hbuild⟩ := decodeWith_obj_eq_ok.mp hms
  have hnd' : (knownNames r.fields ms').Nodup := ((h.filterMap _).filter _).nodup_iff.mp hnd
  refine decodeWith_obj_eq_ok.mpr ⟨fun m hm => hfits m (h.mem_iff.mpr hm), hnd', ?_⟩
  -- The record looks every name up, and finds the same under each.
  rw [← hbuild]
  refine Lawful.build_congr fun name hname => Option.ext fun d => ?_
  have hsome := isSome_fieldOf? hname
  rw [lookup_eq_some hnd hsome, lookup_eq_some hnd' hsome, h.mem_iff]

end Record

/-! ## Tagged records -/

namespace Tagged

variable {α : Type} {tag : String} {choices : List (String × α)}

/-- The members that are called as the tag is. -/
def tags (tag : String) (ms : List (Option String × Draft)) : List (Option String × Draft) :=
  ms.filter (·.1 = some tag)

/-- The members that are called otherwise. -/
def others (tag : String) (ms : List (Option String × Draft)) : List (Option String × Draft) :=
  ms.filter (·.1 ≠ some tag)

/-- The members form a tagged object: all of them have a name and, the tag apart, a value, and the
tag occurs once and names a choice. -/
structure Chooses (tag : String) (choices : List (String × α)) (ms : List (Option String × Draft))
    (a : α) : Prop where
  named : ∀ m ∈ ms, m.1 ≠ none
  readable : ∀ m ∈ others tag ms, ∃ j, m.2.value = .ok j
  chosen : ∃ d s, tags tag ms = [(some tag, d)] ∧ Decoder.text d = .ok s ∧
    Decoder.named choices s = .ok a

theorem chooses_perm {ms ms' : List (Option String × Draft)} {a : α} (h : ms.Perm ms')
    (hms : Chooses tag choices ms a) : Chooses tag choices ms' a := by
  refine ⟨fun m hm => hms.named m (h.mem_iff.mpr hm),
    fun m hm => hms.readable m ((h.filter _).mem_iff.mpr hm), ?_⟩
  obtain ⟨d, s, htags, hs⟩ := hms.chosen
  have hperm : [(some tag, d)].Perm (tags tag ms') := htags ▸ h.filter _
  exact ⟨d, s, List.singleton_perm.mp hperm |>.symm, hs⟩

/-- Splitting goes on with what it has found. -/
theorem go_eq_ok {found : Option α} {before rest ms : List (Option String × Draft)} {a : α} :
    split.go tag choices found before ms = .ok (some a, rest) ↔
      (∀ m ∈ ms, m.1 ≠ none) ∧ (∀ m ∈ others tag ms, ∃ j, m.2.value = .ok j) ∧
        rest = before.reverse ++ others tag ms ∧
        ((found = some a ∧ tags tag ms = []) ∨
          found = none ∧ ∃ d s, tags tag ms = [(some tag, d)] ∧ Decoder.text d = .ok s ∧
            Decoder.named choices s = .ok a) := by
  -- By induction on the members, with the choice that was found among those before.
  induction ms generalizing found before with
  | nil => simp [split.go, tags, others, and_comm, eq_comm]
  | cons m ms ih =>
    obtain ⟨_ | name, d⟩ := m
    · simp [split.go]
    · by_cases hname : name = tag
      · subst hname
        have htags : tags name ((some name, d) :: ms) = (some name, d) :: tags name ms := by
          simp [tags]
        have hothers : others name ((some name, d) :: ms) = others name ms := by
          simp [others]
        rw [htags, hothers, split.go.eq_def]
        simp only [if_pos]
        -- A second tag is refused, the first one has to name a choice.
        cases found with
        | some b => simp
        | none =>
          cases htext : Decoder.text d with
          | error e => simp [htext]
          | ok s =>
            cases hs : Decoder.named choices s with
            | error e => simp [htext, hs]
            | ok b => simp [htext, hs, ih, and_comm]
      · have htags : tags tag ((some name, d) :: ms) = tags tag ms := by
          simp [tags, hname]
        have hothers : others tag ((some name, d) :: ms) = (some name, d) :: others tag ms := by
          simp [others, hname]
        rw [htags, hothers, split.go.eq_def]
        simp only [if_neg hname]
        cases hvalue : d.value with
        | error e => simp [hvalue]
        | ok j => simp [hvalue, ih]

theorem split_eq_ok {rest ms : List (Option String × Draft)} {a : α} :
    split tag choices ms = .ok (some a, rest) ↔
      Chooses tag choices ms a ∧ rest = others tag ms := by
  rw [split, go_eq_ok]
  constructor
  · rintro ⟨hnamed, hreadable, rfl, ⟨⟨⟩, -⟩ | ⟨-, hchosen⟩⟩
    exact ⟨⟨hnamed, hreadable, hchosen⟩, rfl⟩
  · rintro ⟨⟨hnamed, hreadable, hchosen⟩, rfl⟩
    exact ⟨hnamed, hreadable, rfl, .inr ⟨rfl, hchosen⟩⟩

variable {kinds : List (String × Record α)} {ms ms' : List (Option String × Draft)} {a : α}

theorem decode_obj_eq_ok :
    decode tag kinds (.obj ms) = .ok a ↔
      ∃ r, Chooses tag kinds ms r ∧ r.decodeWith .mismatch (.obj (others tag ms)) = .ok a := by
  constructor
  · intro h
    rw [decode] at h
    split at h
    · cases h
    · cases h
    · rename_i r rest hsplit
      obtain ⟨hchooses, rfl⟩ := split_eq_ok.mp hsplit
      exact ⟨r, hchooses, h⟩
  · rintro ⟨r, hchooses, h⟩
    rw [decode, split_eq_ok.mpr ⟨hchooses, rfl⟩]
    exact h

theorem mem_of_named {s : String} {r : Record α} (h : Decoder.named kinds s = .ok r) :
    ∃ k ∈ kinds, k.2 = r := by
  rw [Decoder.named] at h
  split at h
  · rename_i k hk
    exact ⟨k, List.mem_of_find?_eq_some hk, Except.ok.inj h⟩
  · cases h

/-- **The tag may stand anywhere among the members,** and their order is of no account. -/
theorem decode_perm (hkinds : ∀ k ∈ kinds, k.2.Lawful) (h : ms.Perm ms') :
    decode tag kinds (.obj ms) = .ok a ↔ decode tag kinds (.obj ms') = .ok a := by
  suffices himp : ∀ {ms ms' : List (Option String × Draft)}, ms.Perm ms' →
      decode tag kinds (.obj ms) = .ok a → decode tag kinds (.obj ms') = .ok a from
    ⟨himp h, himp h.symm⟩
  intro ms ms' h hms
  obtain ⟨r, hchooses, hr⟩ := decode_obj_eq_ok.mp hms
  obtain ⟨d, s, -, -, hs⟩ := hchooses.chosen
  obtain ⟨k, hk, rfl⟩ := mem_of_named hs
  have := hkinds k hk
  exact decode_obj_eq_ok.mpr ⟨k.2, chooses_perm h hchooses,
    (Record.decodeWith_perm (h.filter _)).mp hr⟩

end Tagged

end MarkerAtlas
