import MarkerAtlas.Proofs.Json.Reader
import Mathlib.Data.List.Perm.Basic

/-!
# The text of an object

The members of an object are separated by commas. A text is that of a member if it is read as one
between braces of its own. The texts of objects are exactly those in which such texts stand between
braces, and each of them is read as the same member whatever stands around it.
-/

namespace MarkerAtlas.Json

open Reader

/-- There is nothing in the text but blanks. -/
def IsBlank (s : String) : Prop := skipBlanks s.toList = []

/-- The text is that of one member, be it one that has no value. -/
def IsMember (text : String) (m : Option String × Draft) : Prop :=
  Document.read ("\x7b" ++ text ++ "\x7d") = ⟨.obj [m], true⟩

/-- The text of an object, with its member texts and the text around the braces. -/
def objectText (before : String) (members : List String) (after : String) : String :=
  before ++ ("\x7b" ++ ",".intercalate members ++ "\x7d") ++ after

namespace Reader

/-! ## Lists of members -/

theorem members_append {b : List Char} (hb : skipBlanks b = []) (n depth : Nat) (first : Bool)
    (cs : List Char) : members n depth first (b ++ cs) = members n depth first cs := by
  cases n with
  | zero => rw [members, members]
  | succ n => rw [members_succ, members_succ, listed, listed, skipBlanks_append hb]

theorem members_close {n depth : Nat} (first : Bool) (r : List Char) :
    members (n + 1) depth first ('\x7d' :: r) = ⟨[], some r⟩ := by
  rw [members_succ]
  rfl

theorem members_comma {n depth : Nat} (cs : List Char) :
    members (n + 1) depth false (',' :: cs) = member n depth (skipBlanks cs) := by
  rw [members_succ]
  rfl

/-- Where a member can be read there is no closing brace. -/
theorem members_first {n depth : Nat} {cs r : List Char} {ms : List (Option String × Draft)}
    (h : member n depth (skipBlanks cs) = ⟨ms, some r⟩) :
    members (n + 1) depth true cs = ⟨ms, some r⟩ := by
  cases n with
  | zero =>
    rw [member] at h
    cases h
  | succ n =>
    obtain ⟨v, name, rest, hcs, -, -⟩ := member_eq_thenRest h
    rw [members_succ, listed, hcs]
    rw [hcs] at h
    exact h

theorem member_ne_nil {n depth : Nat} {cs r : List Char} : member n depth cs ≠ ⟨[], some r⟩ := by
  intro h
  cases n with
  | zero =>
    rw [member] at h
    cases h
  | succ n =>
    obtain ⟨-, name, rest, -, hrest, -⟩ := member_eq_thenRest h
    obtain ⟨_, _, _, -, -, hnil⟩ := thenRest_eq_some hrest
    cases hnil

/-! ## Member texts -/

/-- The text is read as the member whatever follows it, as long as no number goes on there. -/
def Spells (t : List Char) (m : Option String × Draft) : Prop :=
  ∀ n rest, 3 * t.length ≤ n → EndsNumber rest →
    member (n + 1) 1 (skipBlanks (t ++ rest)) =
      ⟨m :: (members n 1 false rest).result, (members n 1 false rest).rest⟩

/-- A member that was read is spelled in front of the comma or the brace behind it. -/
theorem spells_of_member {n : Nat} {cs r : List Char} {ms : List (Option String × Draft)}
    (h : member n 1 (skipBlanks cs) = ⟨ms, some r⟩) :
    ∃ t s m ms', Spells t m ∧ cs = t ++ s ∧ ms = m :: ms' ∧
      ((ms' = [] ∧ s = '\x7d' :: r) ∨
        ∃ k s', s = ',' :: s' ∧ member k 1 (skipBlanks s') = ⟨ms', some r⟩) := by
  cases n with
  | zero =>
    rw [member] at h
    cases h
  | succ n =>
    -- First its name, then its value, then what follows.
    obtain ⟨v, name, rest, hcs, hthen, hagain⟩ := member_eq_thenRest h
    rw [List.cons_append] at hcs
    obtain ⟨b, rfl, hb, hquote⟩ := skipBlanks_eq_cons hcs
    obtain ⟨d, s, ms', hv, hs, rfl⟩ := thenRest_eq_some hthen
    obtain ⟨u, -, rfl, hu⟩ := (takeAgain n).value 1 _ _ _ hv
    -- Behind the value stand blanks and then the comma or the brace.
    have hspells : ∀ b', skipBlanks b' = [] → Spells (b ++ '"' :: (v ++ (u ++ b'))) (name, d) := by
      intro b' hb' k rest hk hrest
      have hstart : skipBlanks (b ++ '"' :: (v ++ (u ++ b')) ++ rest) =
          '"' :: v ++ (u ++ (b' ++ rest)) := by
        rw [List.append_assoc, skipBlanks_append hb, List.cons_append, hquote]
        simp only [List.append_assoc, List.cons_append]
      have hlength : 3 * u.length ≤ k := by
        simp only [List.length_append, List.length_cons] at hk
        omega
      rw [hstart, hagain, thenRest_of_value (hu k _ hlength (endsNumber_append hb' hrest)),
        members_append hb']
    cases n with
    | zero =>
      rw [members] at hs
      cases hs
    | succ n =>
      rw [members_succ] at hs
      -- The brace ends the list; a comma goes on to the next member, and nothing else may stand
      -- here.
      rcases listed_cases hs with ⟨rfl, b', hb', rfl⟩ | ⟨hfirst, -⟩ | ⟨-, b', s', hb', rfl, hmember⟩
      · refine ⟨_, _, _, _, hspells b' hb', ?_, rfl, .inl ⟨rfl, rfl⟩⟩
        simp only [List.append_assoc, List.cons_append]
      · cases hfirst
      · refine ⟨_, _, _, _, hspells b' hb', ?_, rfl, .inr ⟨n, s', rfl, hmember⟩⟩
        simp only [List.append_assoc, List.cons_append]

theorem closing_not_mem_blank {b : List Char} (hb : skipBlanks b = []) : '\x7d' ∉ b := by
  intro hmem
  obtain ⟨s, t, rfl⟩ := List.mem_iff_append.mp hmem
  induction s with
  | nil => cases hb
  | cons c s ih =>
    rw [List.cons_append, skipBlanks] at hb
    split at hb
    · exact ih hb (List.mem_append_right s List.mem_cons_self)
    · cases hb

theorem endsNumber_brace (r : List Char) : EndsNumber ('\x7d' :: r) := by
  rintro _ ⟨⟩
  decide

theorem endsNumber_comma (r : List Char) : EndsNumber (',' :: r) := by
  rintro _ ⟨⟩
  decide

theorem valueHere_brace (n : Nat) (cs : List Char) :
    valueHere n 0 ('\x7b' :: cs) =
      ⟨.obj (members n 1 true cs).result, (members n 1 true cs).rest⟩ := by
  show bracketed 1 _ _ = _
  rw [bracketed, if_neg]
  simp [maxDepth]

end Reader

/-! ## Documents -/

theorem Document.read_eq (text : String) :
    Document.read text =
      ⟨(valueHere (3 * text.toList.length + 2) 0 (skipBlanks text.toList)).result,
        match (valueHere (3 * text.toList.length + 2) 0 (skipBlanks text.toList)).rest with
        | some rest => (skipBlanks rest).isEmpty
        | none => false⟩ := by
  rw [← value_succ]
  rfl

theorem Document.read_eq_true_iff {text : String} {d : Draft} :
    Document.read text = ⟨d, true⟩ ↔
      ∃ r, skipBlanks r = [] ∧
        valueHere (3 * text.toList.length + 2) 0 (skipBlanks text.toList) = ⟨d, some r⟩ := by
  rw [Document.read_eq]
  generalize valueHere _ 0 _ = s
  obtain ⟨d', _ | r⟩ := s
  · simp
  · simp [and_comm]

theorem Document.read_brace {text : String} {b cs : List Char} (hb : skipBlanks b = [])
    (htext : text.toList = b ++ '\x7b' :: cs) {ms : List (Option String × Draft)} :
    Document.read text = ⟨.obj ms, true⟩ ↔
      ∃ r, skipBlanks r = [] ∧
        members (3 * text.toList.length + 2) 1 true cs = ⟨ms, some r⟩ := by
  have hskip : skipBlanks text.toList = '\x7b' :: cs := by
    rw [htext, skipBlanks_append hb]
    rfl
  rw [Document.read_eq_true_iff, hskip, valueHere_brace]
  refine exists_congr fun r => and_congr_right fun _ => ?_
  obtain ⟨ms', r'⟩ := members (3 * text.toList.length + 2) 1 true cs
  simp

theorem isMember_iff {text : String} {m : Option String × Draft} :
    IsMember text m ↔ Spells text.toList m := by
  have htext : ("\x7b" ++ text ++ "\x7d").toList = [] ++ '\x7b' :: (text.toList ++ ['\x7d']) := by
    simp
  have hlength : ("\x7b" ++ text ++ "\x7d").toList.length = text.toList.length + 2 := by
    rw [htext]
    simp
  rw [IsMember, Document.read_brace rfl htext, hlength]
  constructor
  · rintro ⟨r, hr, hread⟩
    rw [members_succ] at hread
    -- The object has one member, so that it neither is empty nor goes on with a comma.
    rcases listed_cases hread with ⟨hnil, -⟩ | ⟨-, hmember⟩ | ⟨hfirst, -⟩
    · cases hnil
    · obtain ⟨t, s, m', ms', hspells, hcs, hms, hrest⟩ := spells_of_member hmember
      obtain ⟨rfl, rfl⟩ := List.cons.inj hms
      rcases hrest with ⟨-, rfl⟩ | ⟨k, s', -, hnil⟩
      · -- Only blanks are left, and the closing brace at the end is none.
        rcases List.eq_nil_or_concat r with rfl | ⟨r, c, rfl⟩
        · rwa [List.append_cancel_right hcs]
        · rw [List.concat_eq_append] at hcs hr
          rw [← List.cons_append, ← List.append_assoc] at hcs
          obtain ⟨-, hc⟩ := List.append_inj' hcs rfl
          refine absurd ?_ (closing_not_mem_blank hr)
          rw [← hc]
          exact List.mem_append_right r List.mem_cons_self
      · exact absurd hnil member_ne_nil
    · cases hfirst
  · intro hspells
    refine ⟨[], rfl, members_first ?_⟩
    show member (3 * (text.toList.length + 2) + 1) 1 _ = _
    rw [hspells _ _ (by omega) (endsNumber_brace []), Nat.mul_add, members_close]

/-- The members of an object are read one after the other. -/
theorem member_intercalate {text : String} {m : Option String × Draft} {texts : List String}
    {ms : List (Option String × Draft)} (h : List.Forall₂ IsMember (text :: texts) (m :: ms))
    {n : Nat} (hn : 3 * (",".intercalate (text :: texts)).toList.length + 1 ≤ n)
    (after : List Char) :
    member (n + 1) 1 (skipBlanks ((",".intercalate (text :: texts)).toList ++ '\x7d' :: after)) =
      ⟨m :: ms, some after⟩ := by
  -- By induction on the members that follow: the last one ends at the brace, each of the others at
  -- a comma.
  induction texts generalizing text m ms n with
  | nil =>
    obtain ⟨hm, hms⟩ := List.forall₂_cons.mp h
    obtain rfl : ms = [] := List.forall₂_nil_left_iff.mp hms
    rw [String.intercalate_singleton] at hn ⊢
    obtain ⟨k, rfl⟩ : ∃ k, n = k + 1 := ⟨n - 1, by omega⟩
    rw [isMember_iff.mp hm _ _ (by omega) (endsNumber_brace after), members_close]
  | cons text' texts ih =>
    obtain ⟨hm, hms⟩ := List.forall₂_cons.mp h
    obtain ⟨m', ms, hm', hms', rfl⟩ := List.forall₂_cons_left_iff.mp hms
    have hjoined : (",".intercalate (text :: text' :: texts)).toList =
        text.toList ++ ',' :: (",".intercalate (text' :: texts)).toList := by
      rw [String.intercalate_cons_cons]
      simp
    rw [hjoined] at hn ⊢
    rw [List.length_append, List.length_cons] at hn
    obtain ⟨k, rfl⟩ : ∃ k, n = k + 2 := ⟨n - 2, by omega⟩
    rw [List.append_assoc, List.cons_append,
      isMember_iff.mp hm _ _ (by omega) (endsNumber_comma _), members_comma, ih hms (by omega)]

/-- Members that were read one after the other have texts of their own. -/
theorem exists_intercalate {n : Nat} {cs r : List Char} {ms : List (Option String × Draft)}
    (h : member n 1 (skipBlanks cs) = ⟨ms, some r⟩) :
    ∃ texts, List.Forall₂ IsMember texts ms ∧
      cs = (",".intercalate texts).toList ++ '\x7d' :: r := by
  -- By induction on the members that were read.
  induction ms generalizing n cs with
  | nil => exact absurd h member_ne_nil
  | cons m ms ih =>
    obtain ⟨t, s, m', ms', hspells, rfl, hms, hrest⟩ := spells_of_member h
    obtain ⟨rfl, rfl⟩ := List.cons.inj hms
    have hm : IsMember (String.ofList t) m := isMember_iff.mpr (by rwa [String.toList_ofList])
    rcases hrest with ⟨rfl, rfl⟩ | ⟨k, s', rfl, hmember⟩
    · refine ⟨[String.ofList t], .cons hm .nil, ?_⟩
      rw [String.intercalate_singleton, String.toList_ofList]
    · obtain ⟨texts, htexts, rfl⟩ := ih hmember
      refine ⟨String.ofList t :: texts, .cons hm htexts, ?_⟩
      have hne : texts ≠ [] := by
        rintro rfl
        obtain rfl : ms = [] := List.forall₂_nil_left_iff.mp htexts
        exact member_ne_nil hmember
      rw [String.intercalate_cons_of_ne_nil hne]
      simp

theorem read_objectText {before after : String} (hbefore : IsBlank before) (hafter : IsBlank after)
    {texts : List String} {ms : List (Option String × Draft)} (h : List.Forall₂ IsMember texts ms) :
    Document.read (objectText before texts after) = ⟨.obj ms, true⟩ := by
  have htext : (objectText before texts after).toList =
      before.toList ++ '\x7b' :: ((",".intercalate texts).toList ++ '\x7d' :: after.toList) := by
    simp [objectText]
  have hlength : 3 * (",".intercalate texts).toList.length + 1 ≤
      3 * (objectText before texts after).toList.length := by
    rw [htext]
    simp only [List.length_append, List.length_cons]
    omega
  refine (Document.read_brace hbefore htext).mpr ⟨after.toList, hafter, ?_⟩
  cases h with
  | nil =>
    rw [String.intercalate_nil]
    exact members_close true _
  | @cons text m texts ms hm hms =>
    -- There are three steps for each character of the text, more than enough for the members.
    generalize 3 * (objectText before (text :: texts) after).toList.length = k at hlength ⊢
    exact members_first (member_intercalate (.cons hm hms) hlength after.toList)

theorem number_ne_obj (p : NumberParts) (ms : List (Option String × Draft)) :
    p.value ≠ .obj ms := by
  unfold NumberParts.value
  dsimp only
  repeat' split
  all_goals nofun

theorem valueHere_eq_obj {n : Nat} {cs r : List Char} {ms : List (Option String × Draft)}
    (h : valueHere n 0 cs = ⟨.obj ms, some r⟩) :
    ∃ cs', cs = '\x7b' :: cs' ∧ members n 1 true cs' = ⟨ms, some r⟩ := by
  -- Only an opening brace begins an object; what else a value can begin with gives another kind of
  -- draft.
  unfold valueHere at h
  split at h
  · unfold bracketed at h
    split at h <;> cases h
  · rename_i cs'
    refine ⟨cs', rfl, ?_⟩
    rw [show bracketed 1 _ _ = _ from valueHere_brace n cs'] at h
    obtain ⟨hms, hr⟩ := Step.mk.inj h
    rw [← hr, ← Draft.obj.inj hms]
  · unfold string at h
    split at h <;> cases h
  · unfold word at h
    split at h <;> cases h
  · unfold word at h
    split at h <;> cases h
  · unfold word at h
    split at h <;> cases h
  · unfold number at h
    split at h
    · exact absurd (Step.mk.inj h).1 (number_ne_obj _ ms)
    · cases h

/-- **The texts of objects.** A text is read as an object with members just if the texts of the
members stand in it between braces, with commas between them and blanks around the braces. -/
theorem read_eq_obj_iff {text : String} {ms : List (Option String × Draft)} (hne : ms ≠ []) :
    Document.read text = ⟨.obj ms, true⟩ ↔
      ∃ before texts after, IsBlank before ∧ IsBlank after ∧ List.Forall₂ IsMember texts ms ∧
        text = objectText before texts after := by
  constructor
  · intro h
    obtain ⟨r, hr, hvalue⟩ := Document.read_eq_true_iff.mp h
    obtain ⟨cs, hcs, hmembers⟩ := valueHere_eq_obj hvalue
    obtain ⟨b, htext, hb, -⟩ := skipBlanks_eq_cons hcs
    rw [members_succ] at hmembers
    rcases listed_cases hmembers with ⟨hnil, -⟩ | ⟨-, hmember⟩ | ⟨hfirst, -⟩
    · exact absurd hnil hne
    · obtain ⟨texts, htexts, rfl⟩ := exists_intercalate hmember
      refine ⟨String.ofList b, texts, String.ofList r, ?_, ?_, htexts, ?_⟩
      · rwa [IsBlank, String.toList_ofList]
      · rwa [IsBlank, String.toList_ofList]
      · refine String.toList_inj.mp ?_
        rw [htext]
        simp [objectText]
    · cases hfirst
  · rintro ⟨before, texts, after, hbefore, hafter, htexts, rfl⟩
    exact read_objectText hbefore hafter htexts

theorem exists_members {texts : List String} (h : ∀ text ∈ texts, ∃ m, IsMember text m) :
    ∃ ms, List.Forall₂ IsMember texts ms := by
  induction texts with
  | nil => exact ⟨[], .nil⟩
  | cons text texts ih =>
    obtain ⟨m, hm⟩ := h text List.mem_cons_self
    obtain ⟨ms, hms⟩ := ih fun t ht => h t (List.mem_cons_of_mem text ht)
    exact ⟨m :: ms, .cons hm hms⟩

/-- Member texts in another order are those of the same members in another order. -/
theorem exists_perm_members {texts texts' : List String} {ms : List (Option String × Draft)}
    (hperm : texts.Perm texts') (h : List.Forall₂ IsMember texts ms) :
    ∃ ms', ms.Perm ms' ∧ List.Forall₂ IsMember texts' ms' := by
  obtain ⟨ms', h', hms⟩ := List.perm_comp_forall₂ hperm.symm h
  exact ⟨ms', hms.symm, h'⟩

end MarkerAtlas.Json
