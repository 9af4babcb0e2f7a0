import MarkerAtlas.Proofs.Json.Token

/-!
# What was read is read again

The reader looks at what follows a value only to see where a number ends. So it takes the same
characters for the same value whatever stands behind them, as long as no number goes on there.
Three steps for each character are enough for it, so the supply of steps is of no account.
-/

namespace MarkerAtlas.Json.Reader

/-- Whenever the first reader has taken something, the second one takes the same: before any text
that `ends` allows, if it has three steps for each character and `extra` ones more. -/
def TakesAgain {β : Type} (ends : List Char → Prop) (extra : Nat) (read : List Char → Step β)
    (again : Nat → List Char → Step β) : Prop :=
  ∀ cs d rest, read cs = ⟨d, some rest⟩ →
    ∃ u, u ≠ [] ∧ cs = u ++ rest ∧ ∀ n rest', 3 * u.length + extra ≤ n → ends rest' →
      again n (u ++ rest') = ⟨d, some rest'⟩

/-- Nothing is asked of the text. -/
def Anything (_ : List Char) : Prop := True

namespace TakesAgain

variable {β : Type} {ends : List Char → Prop} {extra : Nat} {read : List Char → Step β}
  {again : Nat → List Char → Step β}

theorem afterBlanks (h : TakesAgain ends extra read again) :
    TakesAgain ends extra (fun cs => read (skipBlanks cs)) fun n cs => again n (skipBlanks cs) := by
  intro cs d rest hread
  obtain ⟨u, hu, hcs, hagain⟩ := h _ d rest hread
  -- What was read begins with a character that is no blank, so that the same blanks are skipped
  -- again.
  obtain ⟨c, u, rfl⟩ := List.exists_cons_of_ne_nil hu
  rw [List.cons_append] at hcs
  obtain ⟨b, rfl, hb, hc⟩ := skipBlanks_eq_cons hcs
  refine ⟨b ++ c :: u, List.append_ne_nil_of_right_ne_nil b hu, ?_, fun n rest' hn hrest' => ?_⟩
  · rw [List.append_assoc, List.cons_append]
  · rw [List.length_append] at hn
    show again n (skipBlanks (b ++ c :: u ++ rest')) = _
    rw [List.append_assoc, skipBlanks_append hb, List.cons_append, hc]
    exact hagain n rest' (by omega) hrest'

/-- No reader takes something without a step. -/
theorem of_succ {f : Nat → List Char → Step β}
    (h : TakesAgain ends extra read fun n => f (n - 1))
    (hf : ∀ n cs, again (n + 1) cs = f n cs) : TakesAgain ends extra read again := by
  intro cs d rest hread
  obtain ⟨u, hu, rfl, hagain⟩ := h _ _ _ hread
  refine ⟨u, hu, rfl, fun n rest' hn hrest' => ?_⟩
  have hlength : 0 < u.length := List.length_pos_iff.mpr hu
  obtain ⟨n, rfl⟩ : ∃ k, n = k + 1 := ⟨n - 1, by omega⟩
  rw [hf]
  exact hagain (n + 1) rest' hn hrest'

end TakesAgain

/-! ## Lists -/

section
variable {β : Type} (close : Char) (bad : List β) (next : List Char → Step (List β)) (first : Bool)

/-- Reads what stands between brackets, without blanks in front: the closing bracket, or what comes
next in the list, with a comma in front of it if it is not the first. -/
def listedHere : List Char → Step (List β)
  | [] => if first then next [] else ⟨bad, none⟩
  | c :: rest =>
    if c = close then ⟨[], some rest⟩
    else if first then next (c :: rest)
    else if c = ',' then next (skipBlanks rest)
    else ⟨bad, none⟩

theorem listedHere_cons (c : Char) (rest : List Char) :
    listedHere close bad next first (c :: rest) =
      if c = close then ⟨[], some rest⟩
      else if first then next (c :: rest)
      else if c = ',' then next (skipBlanks rest)
      else ⟨bad, none⟩ := rfl

/-- Reads what stands between brackets. -/
def listed (cs : List Char) : Step (List β) := listedHere close bad next first (skipBlanks cs)

end

theorem items_succ (n depth : Nat) (first : Bool) (cs : List Char) :
    items (n + 1) depth first cs = listed ']' [.broken] (item n depth) first cs := by
  unfold items listed listedHere
  split
  · rename_i heq
    rw [heq]
    rfl
  · rename_i heq
    rw [heq]
    rfl
  · -- Neither of the patterns that are tried first fits, and these are the tests that fail here.
    rename_i hclose
    split
    · rename_i heq
      rw [heq]
      rfl
    · rename_i heq
      rw [heq, if_neg fun hc => hclose _ (hc ▸ heq)]
      rfl
  · rename_i hclose hcomma
    split
    · rfl
    · rename_i heq
      rw [if_neg fun hc => hclose _ (hc ▸ heq), if_neg (by decide),
        if_neg fun hc => hcomma _ (hc ▸ heq)]

theorem members_succ (n depth : Nat) (first : Bool) (cs : List Char) :
    members (n + 1) depth first cs = listed '\x7d' [(none, .broken)] (member n depth) first cs := by
  unfold members listed listedHere
  split
  · rename_i heq
    rw [heq]
    rfl
  · rename_i heq
    rw [heq]
    rfl
  · rename_i hclose
    split
    · rename_i heq
      rw [heq]
      rfl
    · rename_i heq
      rw [heq, if_neg fun hc => hclose _ (hc ▸ heq)]
      rfl
  · rename_i hclose hcomma
    split
    · rfl
    · rename_i heq
      rw [if_neg fun hc => hclose _ (hc ▸ heq), if_neg (by decide),
        if_neg fun hc => hcomma _ (hc ▸ heq)]

section
variable {β : Type} {close : Char} {bad : List β} {next : List Char → Step (List β)}
  {again : Nat → List Char → Step (List β)}

theorem listed_takesAgain (h : TakesAgain Anything 1 next again) (first : Bool) :
    TakesAgain Anything 2 (listed close bad next first) fun n =>
      listed close bad (again (n - 1)) first := by
  suffices hhere : TakesAgain Anything 2 (listedHere close bad next first) fun n =>
      listedHere close bad (again (n - 1)) first from hhere.afterBlanks
  intro cs ds rest hread
  -- At the end of the text nothing can be read; otherwise the first character decides.
  cases cs with
  | nil =>
    cases first with
    | false => cases hread
    | true =>
      obtain ⟨u, hu, hcs, -⟩ := h _ _ _ hread
      exact absurd (List.append_eq_nil_iff.mp hcs.symm).1 hu
  | cons c cs =>
    rw [listedHere_cons] at hread
    by_cases hclose : c = close
    · rw [if_pos hclose] at hread
      obtain ⟨rfl, hrest⟩ := Step.mk.inj hread
      obtain rfl := Option.some.inj hrest
      exact ⟨[c], List.cons_ne_nil _ _, rfl, fun n rest' _ _ => if_pos hclose⟩
    · rw [if_neg hclose] at hread
      cases first with
      | true =>
        obtain ⟨u, hu, hcs, hagain⟩ := h _ _ _ hread
        obtain ⟨c', u, rfl⟩ := List.exists_cons_of_ne_nil hu
        rw [List.cons_append] at hcs
        obtain ⟨rfl, rfl⟩ := List.cons.inj hcs
        refine ⟨c :: u, hu, rfl, fun n rest' hn hrest' => ?_⟩
        -- The text that is taken again begins with the same character, which does not close.
        show listedHere close bad (again (n - 1)) true (c :: (u ++ rest')) = _
        rw [listedHere_cons, if_neg hclose]
        exact hagain (n - 1) rest' (by omega) hrest'
      | false =>
        by_cases hcomma : c = ','
        · rw [if_neg (by decide), if_pos hcomma] at hread
          obtain ⟨u, hu, rfl, hagain⟩ := h.afterBlanks _ _ _ hread
          refine ⟨c :: u, List.cons_ne_nil _ _, rfl, fun n rest' hn hrest' => ?_⟩
          rw [List.length_cons] at hn
          show listedHere close bad (again (n - 1)) false (c :: (u ++ rest')) = _
          rw [listedHere_cons, if_neg hclose, if_neg (by decide), if_pos hcomma]
          exact hagain (n - 1) rest' (by omega) hrest'
        · rw [if_neg (by decide), if_neg hcomma] at hread
          cases hread

/-- What stands between brackets is nothing, begins at once, or begins behind a comma. -/
theorem listed_cases {first : Bool} {cs r : List Char} {ds : List β}
    (h : listed close bad next first cs = ⟨ds, some r⟩) :
    (ds = [] ∧ ∃ b, skipBlanks b = [] ∧ cs = b ++ close :: r) ∨
      (first = true ∧ next (skipBlanks cs) = ⟨ds, some r⟩) ∨
      (first = false ∧ ∃ b rest, skipBlanks b = [] ∧ cs = b ++ ',' :: rest ∧
        next (skipBlanks rest) = ⟨ds, some r⟩) := by
  unfold listed listedHere at h
  split at h
  · -- Past the end of the text, only a list that has just begun goes on.
    rename_i hnil
    by_cases hfirst : first = true
    · rw [if_pos hfirst] at h
      exact .inr (.inl ⟨hfirst, hnil ▸ h⟩)
    · rw [if_neg hfirst] at h
      cases h
  · rename_i c rest hcons
    obtain ⟨b, hcs, hb, -⟩ := skipBlanks_eq_cons hcons
    by_cases hclose : c = close
    · rw [if_pos hclose] at h
      obtain ⟨rfl, hr⟩ := Step.mk.inj h
      obtain rfl := Option.some.inj hr
      exact .inl ⟨rfl, b, hb, hclose ▸ hcs⟩
    · by_cases hfirst : first = true
      · rw [if_neg hclose, if_pos hfirst] at h
        exact .inr (.inl ⟨hfirst, hcons ▸ h⟩)
      · by_cases hcomma : c = ','
        · rw [if_neg hclose, if_neg hfirst, if_pos hcomma] at h
          exact .inr (.inr ⟨Bool.eq_false_iff.mpr hfirst, b, rest, hb, hcomma ▸ hcs, h⟩)
        · rw [if_neg hclose, if_neg hfirst, if_neg hcomma] at h
          cases h

/-- After an item or a member comes a comma or the closing bracket, so that no number goes on. -/
theorem endsNumber_of_listed (hclose : EndsNumber [close]) {cs r : List Char} {ds : List β}
    (h : listed close bad next false cs = ⟨ds, some r⟩) : EndsNumber cs := by
  rcases listed_cases h with ⟨-, b, hb, rfl⟩ | ⟨hfirst, -⟩ | ⟨-, b, rest, hb, rfl, -⟩
  · exact endsNumber_append hb hclose
  · cases hfirst
  · refine endsNumber_append hb ?_
    rintro _ ⟨⟩
    decide

end

theorem endsNumber_of_items {n depth : Nat} {cs rest : List Char} {ds : List Draft}
    (h : items n depth false cs = ⟨ds, some rest⟩) : EndsNumber cs := by
  cases n with
  | zero =>
    rw [items] at h
    cases h
  | succ n =>
    rw [items_succ] at h
    exact endsNumber_of_listed (by rintro _ ⟨⟩; decide) h

theorem endsNumber_of_members {n depth : Nat} {cs rest : List Char}
    {ms : List (Option String × Draft)} (h : members n depth false cs = ⟨ms, some rest⟩) :
    EndsNumber cs := by
  cases n with
  | zero =>
    rw [members] at h
    cases h
  | succ n =>
    rw [members_succ] at h
    exact endsNumber_of_listed (by rintro _ ⟨⟩; decide) h

/-! ## Items and members -/

/-- Reads a value and what follows it in its list. -/
def thenRest {β : Type} (f : Draft → β) (value : List Char → Step Draft)
    (rest : List Char → Step (List β)) (cs : List Char) : Step (List β) :=
  match (value cs).rest with
  | none => ⟨[f (value cs).result], none⟩
  | some r => ⟨f (value cs).result :: (rest r).result, (rest r).rest⟩

section
variable {β : Type} {f : Draft → β} {value : List Char → Step Draft}
  {rest : List Char → Step (List β)}

theorem thenRest_of_value {cs r : List Char} {d : Draft} (h : value cs = ⟨d, some r⟩) :
    thenRest f value rest cs = ⟨f d :: (rest r).result, (rest r).rest⟩ := by
  rw [thenRest, h]

theorem thenRest_eq_some {cs r : List Char} {ds : List β}
    (h : thenRest f value rest cs = ⟨ds, some r⟩) :
    ∃ d s ds', value cs = ⟨d, some s⟩ ∧ rest s = ⟨ds', some r⟩ ∧ ds = f d :: ds' := by
  cases hv : value cs with
  | mk d s =>
    cases s with
    | none =>
      rw [thenRest, hv] at h
      cases h
    | some s =>
      rw [thenRest_of_value hv] at h
      obtain ⟨rfl, hr⟩ := Step.mk.inj h
      exact ⟨d, s, (rest s).result, rfl, by rw [← hr], rfl⟩

theorem thenRest_takesAgain {value' : Nat → List Char → Step Draft}
    {rest' : Nat → List Char → Step (List β)} (hvalue : TakesAgain EndsNumber 0 value value')
    (hrest : TakesAgain Anything 2 rest rest')
    (hends : ∀ {cs ds r}, rest cs = ⟨ds, some r⟩ → EndsNumber cs) :
    TakesAgain Anything 1 (thenRest f value rest) fun n =>
      thenRest f (value' (n - 1)) (rest' (n - 1)) := by
  intro cs ds r hread
  obtain ⟨d, s, ds, hv, hs, rfl⟩ := thenRest_eq_some hread
  obtain ⟨u, hu, rfl, hu'⟩ := hvalue _ _ _ hv
  obtain ⟨w, hw, rfl, hw'⟩ := hrest _ _ _ hs
  -- First the value is taken again, then the rest.
  refine ⟨u ++ w, List.append_ne_nil_of_left_ne_nil hu w, (List.append_assoc u w r).symm,
    fun n r' hn hr' => ?_⟩
  -- The list goes on with the comma or the bracket that it went on with before.
  have hnumber : EndsNumber (w ++ r') := by
    have hend := hends hs
    obtain ⟨c, w, rfl⟩ := List.exists_cons_of_ne_nil hw
    exact hend
  have hlength : 0 < u.length := List.length_pos_iff.mpr hu
  rw [List.length_append] at hn
  show thenRest f (value' (n - 1)) (rest' (n - 1)) (u ++ w ++ r') = _
  rw [List.append_assoc, thenRest_of_value (hu' (n - 1) _ (by omega) hnumber),
    hw' (n - 1) r' (by omega) hr']

end

theorem item_succ (n depth : Nat) (cs : List Char) :
    item (n + 1) depth cs = thenRest id (value n depth) (items n depth false) cs := by
  rw [item]
  rfl

/-- A member is a name and a colon, and behind them a value and the other members. -/
theorem member_eq_thenRest {n depth : Nat} {cs r : List Char} {ms : List (Option String × Draft)}
    (h : member (n + 1) depth cs = ⟨ms, some r⟩) :
    ∃ v name rest, cs = '"' :: v ++ rest ∧
      thenRest (fun d => (name, d)) (value n depth) (members n depth false) rest = ⟨ms, some r⟩ ∧
      ∀ m rest', member (m + 1) depth ('"' :: v ++ rest') =
        thenRest (fun d => (name, d)) (value m depth) (members m depth false) rest' := by
  unfold member at h
  split at h
  · split at h
    · rename_i name rest hname
      split at h
      · rename_i rest₁ hcolon
        obtain ⟨w, rfl, hw⟩ := string?_again hname
        obtain ⟨b, rfl, hb, hc⟩ := skipBlanks_eq_cons hcolon
        refine ⟨w ++ '"' :: (b ++ [':']), name, rest₁,
          by simp only [List.cons_append, List.append_assoc, List.nil_append], h,
          fun m rest' => ?_⟩
        have hcolon' : skipBlanks (b ++ ':' :: rest') = ':' :: rest' := by
          rw [skipBlanks_append hb, hc]
        simp only [List.cons_append, List.append_assoc, List.nil_append, member, hw, hcolon']
        rfl
      · cases h
    · cases h
  · cases h

theorem member_takesAgain {n depth : Nat}
    (hvalue : TakesAgain EndsNumber 0 (value n depth) fun m => value m depth)
    (hmembers : TakesAgain Anything 2 (members n depth false) fun m => members m depth false) :
    TakesAgain Anything 1 (member (n + 1) depth) fun m => member m depth := by
  intro cs ms r hread
  obtain ⟨v, name, rest, rfl, hrest, hagain⟩ := member_eq_thenRest hread
  obtain ⟨u, -, rfl, hu⟩ :=
    thenRest_takesAgain hvalue hmembers endsNumber_of_members rest ms r hrest
  refine ⟨'"' :: v ++ u, List.cons_ne_nil _ _, (List.append_assoc _ u r).symm,
    fun m r' hm hr' => ?_⟩
  rw [List.length_append] at hm
  obtain ⟨m, rfl⟩ : ∃ k, m = k + 1 := ⟨m - 1, by omega⟩
  show member (m + 1) depth ('"' :: v ++ u ++ r') = _
  rw [List.append_assoc, hagain]
  exact hu (m + 1) r' (by omega) hr'

/-! ## Values -/

/-- Reads a value that begins here, without blanks in front of it. -/
def valueHere (n depth : Nat) : List Char → Step Draft
  | '[' :: cs => bracketed (depth + 1) (.arr (items n (depth + 1) true cs).result)
      (items n (depth + 1) true cs).rest
  | '\x7b' :: cs => bracketed (depth + 1) (.obj (members n (depth + 1) true cs).result)
      (members n (depth + 1) true cs).rest
  | '"' :: cs => string cs
  | 'n' :: cs => word ['u', 'l', 'l'] .null cs
  | 't' :: cs => word ['r', 'u', 'e'] (.bool true) cs
  | 'f' :: cs => word ['a', 'l', 's', 'e'] (.bool false) cs
  | cs => number cs

theorem value_succ (n depth : Nat) (cs : List Char) :
    value (n + 1) depth cs = valueHere n depth (skipBlanks cs) := by
  rw [value]
  rfl

theorem bracketed_takesAgain {β : Type} (f : List β → Draft) {depth : Nat}
    {read : List Char → Step (List β)} {again : Nat → List Char → Step (List β)}
    (h : TakesAgain Anything 2 read again) :
    TakesAgain Anything 2 (fun cs => bracketed depth (f (read cs).result) (read cs).rest)
      fun n cs => bracketed depth (f (again n cs).result) (again n cs).rest := by
  intro cs d r hread
  cases hds : read cs with
  | mk ds s =>
    simp only [hds] at hread
    cases s with
    | none => cases hread
    | some s =>
      obtain ⟨u, hu, rfl, hu'⟩ := h _ _ _ hds
      have hsome : ∀ r', bracketed depth (f ds) (some r') =
          if depth > maxDepth then ⟨.unreadable, some r'⟩ else ⟨f ds, some r'⟩ := by
        intro r'
        simp only [bracketed, Option.isSome_some, Bool.true_and, decide_eq_true_iff]
      rw [hsome] at hread
      refine ⟨u, hu, ?_, fun n r' hn hr' => ?_⟩
      · split at hread <;> rw [Option.some.inj (Step.mk.inj hread).2]
      · simp only [hu' n r' hn hr', hsome]
        split at hread <;> rename_i hdepth
        · rw [if_pos hdepth, (Step.mk.inj hread).1]
        · rw [if_neg hdepth, (Step.mk.inj hread).1]

theorem valueHere_takesAgain {n depth : Nat}
    (hitems : TakesAgain Anything 2 (items n (depth + 1) true) fun m => items m (depth + 1) true)
    (hmembers : TakesAgain Anything 2 (members n (depth + 1) true) fun m =>
      members m (depth + 1) true) :
    TakesAgain EndsNumber 0 (valueHere n depth) fun m => valueHere (m - 1) depth := by
  intro cs d r hread
  unfold valueHere at hread
  split at hread
  · obtain ⟨u, -, rfl, hu⟩ := bracketed_takesAgain .arr hitems _ _ _ hread
    refine ⟨'[' :: u, List.cons_ne_nil _ _, rfl, fun m r' hm _ => ?_⟩
    rw [List.length_cons] at hm
    exact hu (m - 1) r' (by omega) trivial
  · obtain ⟨u, -, rfl, hu⟩ := bracketed_takesAgain .obj hmembers _ _ _ hread
    refine ⟨'\x7b' :: u, List.cons_ne_nil _ _, rfl, fun m r' hm _ => ?_⟩
    rw [List.length_cons] at hm
    exact hu (m - 1) r' (by omega) trivial
  · obtain ⟨w, rfl, hw⟩ := string_again hread
    refine ⟨'"' :: (w ++ ['"']), List.cons_ne_nil _ _,
      by simp only [List.cons_append, List.append_assoc, List.nil_append], fun m r' _ _ => ?_⟩
    simp only [List.cons_append, List.append_assoc, List.nil_append]
    exact hw r'
  · obtain ⟨rfl, hw⟩ := word_again hread
    exact ⟨_ :: _, List.cons_ne_nil _ _, rfl, fun m r' _ _ => hw r'⟩
  · obtain ⟨rfl, hw⟩ := word_again hread
    exact ⟨_ :: _, List.cons_ne_nil _ _, rfl, fun m r' _ _ => hw r'⟩
  · obtain ⟨rfl, hw⟩ := word_again hread
    exact ⟨_ :: _, List.cons_ne_nil _ _, rfl, fun m r' _ _ => hw r'⟩
  · obtain ⟨c, u, rfl, hc, hu⟩ := number_again hread
    refine ⟨c :: u, List.cons_ne_nil _ _, rfl, fun m r' _ hr' => ?_⟩
    -- The first character of a number is none that another value begins with.
    have hhere : ∀ cs, valueHere (m - 1) depth (c :: cs) = number (c :: cs) := by
      intro cs
      unfold valueHere
      split
      all_goals try rfl
      all_goals
        rename_i heq
        cases heq
        exact absurd hc (by decide)
    exact (hhere (u ++ r')).trans (hu r' hr')

/-- What the readers take with a supply of steps they take with every supply that is enough. -/
structure TakeAgain (n : Nat) : Prop where
  value : ∀ depth, TakesAgain EndsNumber 0 (value n depth) fun m => value m depth
  items : ∀ depth first,
    TakesAgain Anything 2 (items n depth first) fun m => items m depth first
  item : ∀ depth, TakesAgain Anything 1 (item n depth) fun m => item m depth
  members : ∀ depth first,
    TakesAgain Anything 2 (members n depth first) fun m => members m depth first
  member : ∀ depth, TakesAgain Anything 1 (member n depth) fun m => member m depth

theorem takeAgain (n : Nat) : TakeAgain n := by
  -- The readers call one another with a step less, so all of them are dealt with at once.
  induction n with
  | zero =>
    refine ⟨fun depth cs d r hread => ?_, fun depth first cs d r hread => ?_,
      fun depth cs d r hread => ?_, fun depth first cs d r hread => ?_,
      fun depth cs d r hread => ?_⟩
    · rw [value] at hread
      cases hread
    · rw [items] at hread
      cases hread
    · rw [item] at hread
      cases hread
    · rw [members] at hread
      cases hread
    · rw [member] at hread
      cases hread
  | succ n ih =>
    refine ⟨fun depth => ?_, fun depth first => ?_, fun depth => ?_, fun depth first => ?_,
      fun depth => ?_⟩
    · rw [funext (value_succ n depth)]
      exact (valueHere_takesAgain (ih.items (depth + 1) true)
        (ih.members (depth + 1) true)).afterBlanks.of_succ fun m => value_succ m depth
    · rw [funext (items_succ n depth first)]
      exact (listed_takesAgain (ih.item depth) first).of_succ fun m => items_succ m depth first
    · rw [funext (item_succ n depth)]
      exact (thenRest_takesAgain (ih.value depth) (ih.items depth false)
        endsNumber_of_items).of_succ fun m => item_succ m depth
    · rw [funext (members_succ n depth first)]
      exact (listed_takesAgain (ih.member depth) first).of_succ fun m => members_succ m depth first
    · exact member_takesAgain (ih.value depth) (ih.members depth false)

end MarkerAtlas.Json.Reader
