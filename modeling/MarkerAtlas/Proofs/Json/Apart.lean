import MarkerAtlas.Proofs.Json.NumberText
import MarkerAtlas.Proofs.Json.StringText

/-!
# Texts that tell values apart

The compact text of a value also says where it ends. Values that are written one after another, with
commas or brackets between them, can therefore be told apart one by one from the front.
-/

namespace MarkerAtlas.Json

open Reader

/-- Different values have different texts, also in front of other texts, and the text says where it
ends. What follows must not go on like a number. -/
def TellsApart {α : Type} (valid : α → Prop) (text : α → List Char) : Prop :=
  ∀ {a b : α} {r s : List Char}, valid a → valid b → EndsNumber r → EndsNumber s →
    text a ++ r = text b ++ s → a = b ∧ r = s

theorem endsNumber_comma (cs : List Char) : EndsNumber (',' :: cs) := by
  rintro c ⟨⟩
  decide

theorem endsNumber_brace (cs : List Char) : EndsNumber ('\x7d' :: cs) := by
  rintro c ⟨⟩
  decide

/-- Strings end with their closing quote. -/
theorem tellsApart_str : TellsApart (fun _ => True) fun s : String => textOf (.str s) := by
  intro a b r s _ _ _ _ h
  have hbody :
      a.toList.flatMap escapeChar ++ '"' :: r = b.toList.flatMap escapeChar ++ '"' :: s := by
    simpa [textOf, stringText] using h
  -- Reading up to the closing quote gives the string, and leaves what follows.
  have hread := congrArg string? hbody
  rw [string?_text, string?_text] at hread
  obtain ⟨hstring, rfl⟩ := Prod.mk.inj (Option.some.inj hread)
  exact ⟨Option.some.inj hstring, rfl⟩

/-- A finite double is the only one whose interval has the decimal that is read. -/
theorem tellsApart_float :
    TellsApart (fun x : Float => x.isFinite = true) fun x => textOf (float x) := by
  intro x y r s hx hy hr hs h
  obtain ⟨p, -, -, -, -, hread, hsign, hholds⟩ := numberParts_real hx
  obtain ⟨q, -, -, -, -, hread', hsign', hholds'⟩ := numberParts_real hy
  have hparts : numberParts (numberText (.real x) ++ r) = numberParts (numberText (.real y) ++ s) :=
    congrArg numberParts h
  -- Both texts are read as the same parts, so that one decimal lies in both intervals.
  rw [hread r hr, hread' s hs] at hparts
  obtain ⟨rfl, rfl⟩ := Prod.mk.inj (Option.some.inj hparts)
  refine ⟨?_, rfl⟩
  apply Decimal.eq_of_ofBits_eq
  · rw [← hsign, hsign']
  · exact (Decimal.proper_ofBits hx).eq_of_holds (Decimal.proper_ofBits hy) hholds hholds'

section
variable {α : Type} {valid : α → Prop} {f : α → Json}

/-- A missing value is told apart from one whose text does not begin like null. -/
theorem TellsApart.ofOption (h : TellsApart valid fun a => textOf (f a))
    (hnull : ∀ a r, valid a → (textOf (f a) ++ r).head? ≠ some 'n') :
    TellsApart (fun o : Option α => ∀ a, o = some a → valid a) fun o => textOf (ofOption f o) := by
  intro o o' r s ho ho' hr hs heq
  cases o with
  | none =>
    cases o' with
    | none => exact ⟨rfl, List.append_cancel_left heq⟩
    | some b =>
      have hhead := hnull b s (ho' b rfl)
      exact absurd (congrArg List.head? heq).symm hhead
  | some a =>
    cases o' with
    | none =>
      have hhead := hnull a r (ho a rfl)
      exact absurd (congrArg List.head? heq) hhead
    | some b =>
      obtain ⟨rfl, rfl⟩ := h (ho a rfl) (ho' b rfl) hr hs heq
      exact ⟨rfl, rfl⟩

/-- What has a name of its own is told apart by its name. -/
theorem TellsApart.named {name : α → String} (hname : Function.Injective name) :
    TellsApart (fun _ => True) fun a => textOf (.str (name a)) := by
  intro a b r s _ _ hr hs h
  obtain ⟨heq, hrest⟩ := tellsApart_str trivial trivial hr hs h
  exact ⟨hname heq, hrest⟩

/-- The value of a member is told apart behind its name. -/
theorem TellsApart.member {text : α → List Char} (h : TellsApart valid text) {name r s : List Char}
    {a b : α} (ha : valid a) (hb : valid b) (hr : EndsNumber r) (hs : EndsNumber s)
    (heq : name ++ ':' :: text a ++ r = name ++ ':' :: text b ++ s) : a = b ∧ r = s := by
  rw [List.append_assoc, List.append_assoc] at heq
  exact h ha hb hr hs (List.cons.inj (List.append_cancel_left heq)).2

end

end MarkerAtlas.Json
