import Mathlib.Data.String.Basic
import MarkerAtlas.Json.Draft
import MarkerAtlas.Json.Writer

/-!
# JSON values as they are kept and as they are written

A value that is kept has the members of its objects sorted by name, each name once, as the reader
leaves them. A value that is written has null in place of every number that is not finite.
-/

namespace MarkerAtlas

section
variable {α : Type} {name : String} {value : α} {ms : List (String × α)}

theorem mem_insertMember {m : String × α} (h : m ∈ insertMember name value ms) :
    m = (name, value) ∨ m ∈ ms := by
  fun_induction insertMember name value ms with
  | case1 => exact .inl (List.mem_singleton.mp h)
  | case2 n v rest hlt => exact List.mem_cons.mp h
  | case3 v rest hlt =>
    exact (List.mem_cons.mp h).imp_right (List.mem_cons_of_mem _)
  | case4 n v rest hlt hne ih =>
    rcases List.mem_cons.mp h with rfl | hmem
    · exact .inr List.mem_cons_self
    · exact (ih hmem).imp_right (List.mem_cons_of_mem _)

theorem mem_foldl_insertMember {m : String × α} {before : List (String × α)}
    (h : m ∈ ms.foldl (fun ms m => insertMember m.1 m.2 ms) before) : m ∈ before ∨ m ∈ ms := by
  induction ms generalizing before with
  | nil => exact .inl h
  | cons first ms ih =>
    rcases ih h with hbefore | hms
    · rcases mem_insertMember hbefore with rfl | hbefore
      · exact .inr List.mem_cons_self
      · exact .inl hbefore
    · exact .inr (List.mem_cons_of_mem first hms)

theorem pairwise_insertMember (h : ms.Pairwise (·.1 < ·.1)) :
    (insertMember name value ms).Pairwise (·.1 < ·.1) := by
  -- One case for each place where the member may go: at the end, in front, over one of its name, or
  -- further on.
  fun_induction insertMember name value ms with
  | case1 => exact List.pairwise_singleton _ _
  | case2 n v rest hlt =>
    refine List.pairwise_cons.mpr ⟨fun m hm => ?_, h⟩
    rcases List.mem_cons.mp hm with rfl | hm
    · exact hlt
    · exact lt_trans hlt ((List.pairwise_cons.mp h).1 m hm)
  | case3 v rest hlt =>
    obtain ⟨hhead, htail⟩ := List.pairwise_cons.mp h
    exact List.pairwise_cons.mpr ⟨hhead, htail⟩
  | case4 n v rest hlt hne ih =>
    obtain ⟨hhead, htail⟩ := List.pairwise_cons.mp h
    refine List.pairwise_cons.mpr ⟨fun m hm => ?_, ih htail⟩
    rcases mem_insertMember hm with rfl | hm
    · exact lt_of_le_of_ne (not_lt.mp hlt) (Ne.symm hne)
    · exact hhead m hm

/-- A member whose name comes after all others is put at the end. -/
theorem insertMember_eq_append (h : ∀ m ∈ ms, m.1 < name) :
    insertMember name value ms = ms ++ [(name, value)] := by
  induction ms with
  | nil => rfl
  | cons m ms ih =>
    obtain ⟨hm, hms⟩ := List.forall_mem_cons.mp h
    rw [insertMember, if_neg (not_lt.mpr hm.le), if_neg hm.ne', ih hms, List.cons_append]

end

namespace Json

/-! ## Sorted values -/

/-- The members of every object in the value are sorted by name, each name once. -/
inductive Sorted : Json → Prop where
  | null : Sorted .null
  | bool (b : Bool) : Sorted (.bool b)
  | num (n : JsonNumber) : Sorted (.num n)
  | str (s : String) : Sorted (.str s)
  | arr {items : List Json} (hitems : ∀ j ∈ items, Sorted j) : Sorted (.arr items)
  | obj {members : List (String × Json)} (hnames : members.Pairwise (·.1 < ·.1))
    (hmembers : ∀ m ∈ members, Sorted m.2) : Sorted (.obj members)

@[simp] theorem sorted_nat (n : Nat) : (nat n).Sorted := .num _

@[simp] theorem sorted_float (x : Float) : (float x).Sorted := .num _

/-- The members of an object are among those that it is made of. -/
theorem mem_of_mem_object {m : String × Json} {ms members : List (String × Json)}
    (h : object ms = .obj members) (hm : m ∈ members) : m ∈ ms := by
  obtain rfl := Json.obj.inj h
  exact (mem_foldl_insertMember hm).resolve_left List.not_mem_nil

theorem sorted_object {ms : List (String × Json)} (h : ∀ m ∈ ms, m.2.Sorted) :
    (object ms).Sorted := by
  -- What was inserted already is sorted, and stays so with each member that is inserted.
  have hkept : ∀ before : List (String × Json), before.Pairwise (·.1 < ·.1) →
      (ms.foldl (fun ms m => insertMember m.1 m.2 ms) before).Pairwise (·.1 < ·.1) := by
    clear h
    induction ms with
    | nil => exact fun _ hbefore => hbefore
    | cons m ms ih => exact fun _ hbefore => ih _ (pairwise_insertMember hbefore)
  exact .obj (hkept [] List.Pairwise.nil) fun m hm => h m (mem_of_mem_object rfl hm)

/-- Members that are sorted already are left as they are. -/
theorem object_eq_obj {ms : List (String × Json)} (h : ms.Pairwise (·.1 < ·.1)) :
    object ms = .obj ms := by
  -- Each member comes after those that were inserted before it, so it is put at the end.
  have hfold : ∀ before : List (String × Json), (∀ m ∈ before, ∀ m' ∈ ms, m.1 < m'.1) →
      ms.foldl (fun ms m => insertMember m.1 m.2 ms) before = before ++ ms := by
    induction ms with
    | nil => exact fun before _ => (List.append_nil before).symm
    | cons m ms ih =>
      intro before hbefore
      obtain ⟨hm, hms⟩ := List.pairwise_cons.mp h
      rw [List.foldl_cons, insertMember_eq_append fun b hb => hbefore b hb m List.mem_cons_self,
        ih hms, List.append_assoc, List.singleton_append]
      intro b hb m' hm'
      rcases List.mem_append.mp hb with hb | hb
      · exact hbefore b hb m' (List.mem_cons_of_mem m hm')
      · rw [List.mem_singleton.mp hb]
        exact hm m' hm'
  rw [object, hfold [] nofun, List.nil_append]

/-! ### Drafts of values -/

theorem values_drafts {items : List Json} (h : ∀ j ∈ items, j.draft.value = .ok j) :
    Draft.values (drafts items) = .ok items := by
  induction items with
  | nil => rfl
  | cons j items ih =>
    obtain ⟨hj, hitems⟩ := List.forall_mem_cons.mp h
    rw [drafts, Draft.values, hj, ih hitems]
    rfl

theorem memberValues_memberDrafts {ms : List (String × Json)}
    (h : ∀ m ∈ ms, m.2.draft.value = .ok m.2) :
    Draft.memberValues (memberDrafts ms) = .ok ms := by
  induction ms with
  | nil => rfl
  | cons m ms ih =>
    obtain ⟨hm, hms⟩ := List.forall_mem_cons.mp h
    rw [memberDrafts, Draft.memberValues, hm, ih hms]
    rfl

/-- The value of a sorted value's draft is the value itself. -/
theorem Sorted.value_draft {j : Json} (h : j.Sorted) : j.draft.value = .ok j := by
  induction h with
  | null => rfl
  | bool b => rfl
  | num n => rfl
  | str s => rfl
  | arr hitems ih =>
    rw [draft, Draft.value, values_drafts ih]
    rfl
  | obj hnames hmembers ih =>
    rw [draft, Draft.value, memberValues_memberDrafts ih, Except.map, object_eq_obj hnames]

theorem map_eq_ok {α β ε : Type} {f : α → β} {x : Except ε α} {b : β} :
    x.map f = .ok b ↔ ∃ a, x = .ok a ∧ f a = b := by
  cases x <;> simp [Except.map]

theorem values_cons_eq_ok {d : Draft} {ds : List Draft} {js : List Json} :
    Draft.values (d :: ds) = .ok js ↔
      ∃ v vs, d.value = .ok v ∧ Draft.values ds = .ok vs ∧ v :: vs = js := by
  rw [Draft.values]
  cases d.value <;> simp [map_eq_ok]

theorem memberValues_cons_eq_ok {name : String} {d : Draft} {ms : List (Option String × Draft)}
    {members : List (String × Json)} :
    Draft.memberValues ((some name, d) :: ms) = .ok members ↔
      ∃ v vs, d.value = .ok v ∧ Draft.memberValues ms = .ok vs ∧ (name, v) :: vs = members := by
  rw [Draft.memberValues]
  cases d.value <;> simp [map_eq_ok]

mutual

/-- Whatever is read from a text is sorted. -/
theorem sorted_of_value : ∀ {d : Draft} {j : Json}, d.value = .ok j → j.Sorted
  | .null, _, h => Except.ok.inj h ▸ .null
  | .bool b, _, h => Except.ok.inj h ▸ .bool b
  | .num n, _, h => Except.ok.inj h ▸ .num n
  | .str s, _, h => Except.ok.inj h ▸ .str s
  | .arr ds, _, h => by
    rw [Draft.value] at h
    obtain ⟨items, hitems, rfl⟩ := map_eq_ok.mp h
    exact .arr (sorted_of_values hitems)
  | .obj ms, _, h => by
    rw [Draft.value] at h
    obtain ⟨members, hmembers, rfl⟩ := map_eq_ok.mp h
    exact sorted_object (sorted_of_memberValues hmembers)
  | .unreadable, _, h => nomatch h
  | .broken, _, h => nomatch h

theorem sorted_of_values : ∀ {ds : List Draft} {items : List Json},
    Draft.values ds = .ok items → ∀ j ∈ items, j.Sorted
  | [], _, h => by
    rw [← Except.ok.inj h]
    exact nofun
  | d :: ds, _, h => by
    obtain ⟨j, js, hj, hjs, rfl⟩ := values_cons_eq_ok.mp h
    exact List.forall_mem_cons.mpr ⟨sorted_of_value hj, sorted_of_values hjs⟩

theorem sorted_of_memberValues : ∀ {ms : List (Option String × Draft)}
    {members : List (String × Json)},
    Draft.memberValues ms = .ok members → ∀ m ∈ members, m.2.Sorted
  | [], _, h => by
    rw [← Except.ok.inj h]
    exact nofun
  | (none, _) :: _, _, h => nomatch h
  | (some name, d) :: ms, _, h => by
    obtain ⟨j, js, hj, hjs, rfl⟩ := memberValues_cons_eq_ok.mp h
    exact List.forall_mem_cons.mpr ⟨sorted_of_value hj, sorted_of_memberValues hjs⟩

end

/-! ## Written values -/

mutual

/-- The value that is written: null stands for a number that is not finite. -/
def written : Json → Json
  | .num (.real x) => if x.isFinite then .num (.real x) else .null
  | .arr items => .arr (writtenItems items)
  | .obj members => .obj (writtenMembers members)
  | j => j

/-- The items of a list as they are written. -/
def writtenItems : List Json → List Json
  | [] => []
  | j :: js => j.written :: writtenItems js

/-- The members of an object as they are written. -/
def writtenMembers : List (String × Json) → List (String × Json)
  | [] => []
  | (name, j) :: ms => (name, j.written) :: writtenMembers ms

end

mutual

/-- A value has the text of the value that is written for it. -/
theorem textOf_written : ∀ j : Json, textOf j.written = textOf j
  | .null => rfl
  | .bool _ => rfl
  | .num (.whole _) => rfl
  | .num (.real x) => by
    rw [written]
    split
    · rfl
    · rename_i hx
      rw [textOf, textOf, numberText, if_neg hx]
  | .str _ => rfl
  | .arr items => by rw [written, textOf, textsOf_written items, textOf]
  | .obj members => by rw [written, textOf, memberTexts_written members, textOf]

theorem textsOf_written : ∀ items : List Json, textsOf (writtenItems items) = textsOf items
  | [] => rfl
  | j :: js => by rw [writtenItems, textsOf, textOf_written j, textsOf_written js, textsOf]

theorem memberTexts_written : ∀ members : List (String × Json),
    memberTexts (writtenMembers members) = memberTexts members
  | [] => rfl
  | (name, j) :: ms => by
    rw [writtenMembers, memberTexts, textOf_written j, memberTexts_written ms, memberTexts]

end

/-- Every number in the value is finite. -/
inductive Finite : Json → Prop where
  | null : Finite .null
  | bool (b : Bool) : Finite (.bool b)
  | whole (n : Int) : Finite (.num (.whole n))
  | real {x : Float} (hx : x.isFinite = true) : Finite (.num (.real x))
  | str (s : String) : Finite (.str s)
  | arr {items : List Json} (hitems : ∀ j ∈ items, Finite j) : Finite (.arr items)
  | obj {members : List (String × Json)} (hmembers : ∀ m ∈ members, Finite m.2) :
    Finite (.obj members)

attribute [simp] Finite.null Finite.bool Finite.str

section
variable {α : Type} {f : α → Json} {o : Option α} {members : List (String × Json)}

@[simp] theorem finite_nat (n : Nat) : (nat n).Finite := .whole _

@[simp] theorem finite_int (n : Int) : (int n).Finite := .whole _

@[simp] theorem finite_float {x : Float} : (float x).Finite ↔ x.isFinite = true :=
  ⟨fun | .real hx => hx, .real⟩

@[simp] theorem finite_obj : (obj members).Finite ↔ ∀ m ∈ members, m.2.Finite :=
  ⟨fun | .obj h => h, .obj⟩

@[simp] theorem finite_ofOption : (ofOption f o).Finite ↔ ∀ a ∈ o, (f a).Finite := by
  cases o <;> simp [ofOption]

end

theorem writtenItems_eq_self {items : List Json} (h : ∀ j ∈ items, j.written = j) :
    writtenItems items = items := by
  induction items with
  | nil => rfl
  | cons j items ih =>
    obtain ⟨hj, hitems⟩ := List.forall_mem_cons.mp h
    rw [writtenItems, hj, ih hitems]

theorem writtenMembers_eq_self {ms : List (String × Json)} (h : ∀ m ∈ ms, m.2.written = m.2) :
    writtenMembers ms = ms := by
  induction ms with
  | nil => rfl
  | cons m ms ih =>
    obtain ⟨hm, hms⟩ := List.forall_mem_cons.mp h
    rw [writtenMembers, hm, ih hms]

/-- Finite values are written as they are. -/
theorem Finite.written_eq {j : Json} (h : j.Finite) : j.written = j := by
  induction h with
  | null => rfl
  | bool b => rfl
  | whole n => rfl
  | real hx => rw [written, if_pos hx]
  | str s => rfl
  | arr hitems ih => rw [written, writtenItems_eq_self ih]
  | obj hmembers ih => rw [written, writtenMembers_eq_self ih]

end Json

end MarkerAtlas
