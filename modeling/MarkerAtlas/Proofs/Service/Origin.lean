import MarkerAtlas.Service.Router

/-!
# Local origins

The origin of a page of the machine itself is a scheme, a host and maybe a colon with a port. The
service reads an origin as far as the colon and takes what follows for the port. So the local
origins are admitted, and besides them those that only begin as one: behind the colon, where the
port should be, anything may stand, and with it the name of another host.
-/

namespace MarkerAtlas

namespace Origin

/-- A scheme and a host of the machine itself, and then the rest. -/
def BeginsLocally (origin rest : String) : Prop :=
  ∃ scheme ∈ ["http://", "https://"], ∃ host ∈ ["localhost", "127.0.0.1"],
    origin = scheme ++ host ++ rest

/-- An origin of the machine itself: what follows the host is nothing, or a colon and digits. -/
def IsLocalOrigin (origin : String) : Prop :=
  ∃ rest, BeginsLocally origin rest ∧
    (rest = "" ∨ ∃ port, rest = ":" ++ port ∧ ∀ c ∈ port.toList, Text.isDigit c = true)

/-- A text of a header with something behind the colon that is no port. -/
def HasStrayPort (origin : String) : Prop :=
  (∀ c ∈ origin.toList, isHeaderChar c = true) ∧
    ∃ text, BeginsLocally origin (":" ++ text) ∧ ∃ c ∈ text.toList, Text.isDigit c = false

/-! ## One way to begin -/

theorem afterStart?_eq_some_iff {start text rest : List Char} :
    afterStart? start text = some rest ↔ text = start ++ rest := by
  induction start generalizing text with
  | nil => exact Option.some_inj
  | cons s ss ih =>
    cases text with
    | nil => exact iff_of_false nofun nofun
    | cons c cs =>
      by_cases hc : s = c
      · simp [afterStart?, hc, ih]
      · simp [afterStart?, hc, Ne.symm hc]

variable {origin rest rest' : String}

theorem beginsLocally_iff : BeginsLocally origin rest ↔
    ∃ scheme ∈ schemes, ∃ host ∈ hosts, origin.toList = scheme ++ (host ++ rest.toList) := by
  simp only [BeginsLocally, schemes, hosts, List.mem_cons, List.not_mem_nil, or_false,
    exists_eq_or_imp, exists_eq_left]
  simp only [← String.toList_inj, String.toList_append, List.append_assoc]

/-- Where no text begins as another one does, only one of them can stand at the beginning. -/
theorem eq_of_append_eq {starts : List (List Char)}
    (hfree : ∀ a ∈ starts, ∀ b ∈ starts, a <+: b → a = b) {a b : List Char} (ha : a ∈ starts)
    (hb : b ∈ starts) {x y : List Char} (h : a ++ x = b ++ y) : x = y := by
  have hab : a = b := by
    rcases List.prefix_or_prefix_of_prefix (List.prefix_append a x) (h ▸ List.prefix_append b y)
      with hle | hle
    · exact hfree a ha b hb hle
    · exact (hfree b hb a ha hle).symm
  exact List.append_cancel_left (hab ▸ h)

/-- The schemes exclude one another, and so do the hosts: the first that is found decides. -/
theorem BeginsLocally.unique (h : BeginsLocally origin rest) (h' : BeginsLocally origin rest') :
    rest = rest' := by
  obtain ⟨scheme, hscheme, host, hhost, htext⟩ := beginsLocally_iff.mp h
  obtain ⟨scheme', hscheme', host', hhost', htext'⟩ := beginsLocally_iff.mp h'
  have hbehind := eq_of_append_eq (by decide) hscheme hscheme' (htext.symm.trans htext')
  exact String.toList_inj.mp (eq_of_append_eq (by decide) hhost hhost' hbehind)

/-! ## What is admitted -/

theorem endsHost_iff : endsHost rest.toList = true ↔ rest = "" ∨ ∃ text, rest = ":" ++ text := by
  rw [← String.toList_eq_nil_iff]
  cases hrest : rest.toList with
  | nil => exact iff_of_true rfl (.inl rfl)
  | cons c cs =>
    have htext : (∃ text, rest = ":" ++ text) ↔ c = ':' := by
      constructor
      · rintro ⟨text, rfl⟩
        rw [String.toList_append] at hrest
        exact (List.cons.inj hrest).1.symm
      · rintro rfl
        refine ⟨String.ofList cs, String.toList_inj.mp ?_⟩
        simp [hrest]
    simp [endsHost, htext]

/-- The service reads an origin as far as the colon. -/
theorem isLocal_eq_true_iff : isLocal origin = true ↔
    (∀ c ∈ origin.toList, isHeaderChar c = true) ∧
      ∃ rest, BeginsLocally origin rest ∧ (rest = "" ∨ ∃ text, rest = ":" ++ text) := by
  simp only [isLocal, isAtHost, Bool.and_eq_true, List.all_eq_true, List.any_eq_true,
    Option.any_eq_true, Option.bind_eq_some_iff, afterStart?_eq_some_iff]
  refine and_congr_right fun _ => ⟨?_, ?_⟩
  · rintro ⟨host, hhost, scheme, hscheme, rest, ⟨_, htext, rfl⟩, hend⟩
    refine ⟨String.ofList rest, beginsLocally_iff.mpr ⟨scheme, hscheme, host, hhost, ?_⟩,
      endsHost_iff.mp ?_⟩
    · rwa [String.toList_ofList]
    · rwa [String.toList_ofList]
  · rintro ⟨rest, hbegins, hrest⟩
    obtain ⟨scheme, hscheme, host, hhost, htext⟩ := beginsLocally_iff.mp hbegins
    exact ⟨host, hhost, scheme, hscheme, rest.toList, ⟨_, htext, rfl⟩, endsHost_iff.mpr hrest⟩

theorem isHeaderChar_of_isDigit {c : Char} (h : Text.isDigit c = true) : isHeaderChar c = true := by
  obtain ⟨hlow, hhigh⟩ : 48 ≤ c.toNat ∧ c.toNat ≤ 57 := of_decide_eq_true h
  simp only [isHeaderChar, Bool.or_eq_true, Bool.and_eq_true, decide_eq_true_eq]
  omega

/-- There is nothing in a local origin that a header could not hold. -/
theorem IsLocalOrigin.isHeaderChar (h : IsLocalOrigin origin) :
    ∀ c ∈ origin.toList, isHeaderChar c = true := by
  obtain ⟨rest, hbegins, hrest⟩ := h
  obtain ⟨scheme, hscheme, host, hhost, htext⟩ := beginsLocally_iff.mp hbegins
  -- A question about each character of a text is decided by `all`: asked with a quantifier it
  -- would be put to every character there is.
  have hschemes : ∀ scheme ∈ schemes, scheme.all Origin.isHeaderChar = true := by decide
  have hhosts : ∀ host ∈ hosts, host.all Origin.isHeaderChar = true := by decide
  rw [htext, List.forall_mem_append, List.forall_mem_append]
  refine ⟨List.all_eq_true.mp (hschemes scheme hscheme), List.all_eq_true.mp (hhosts host hhost),
    ?_⟩
  rcases hrest with rfl | ⟨port, rfl, hport⟩
  · exact nofun
  · rw [String.toList_append, List.forall_mem_append]
    exact ⟨List.all_eq_true.mp (by decide), fun c hc => isHeaderChar_of_isDigit (hport c hc)⟩

theorem IsLocalOrigin.not_hasStrayPort (h : IsLocalOrigin origin) : ¬HasStrayPort origin := by
  rintro ⟨-, text, hbegins', c, hc, hdigit⟩
  obtain ⟨rest, hbegins, hrest⟩ := h
  obtain rfl := hbegins.unique hbegins'
  rcases hrest with hnothing | ⟨port, hport, hdigits⟩
  · exact absurd hnothing (by simp [← String.toList_inj])
  · obtain rfl : text = port := by simpa [← String.toList_inj] using hport
    rw [hdigits c hc] at hdigit
    exact absurd hdigit (by decide)

/-- What is admitted is told apart by what stands behind the colon: digits only, or not. -/
theorem isLocal_iff_or : isLocal origin = true ↔ IsLocalOrigin origin ∨ HasStrayPort origin := by
  rw [isLocal_eq_true_iff]
  constructor
  · rintro ⟨hvisible, rest, hbegins, hnothing | ⟨text, rfl⟩⟩
    · exact .inl ⟨rest, hbegins, .inl hnothing⟩
    · by_cases hdigits : ∀ c ∈ text.toList, Text.isDigit c = true
      · exact .inl ⟨_, hbegins, .inr ⟨text, rfl, hdigits⟩⟩
      · have hother : ∃ c ∈ text.toList, Text.isDigit c = false := by simpa using hdigits
        exact .inr ⟨hvisible, text, hbegins, hother⟩
  · rintro (hlocal | ⟨hvisible, text, hbegins, -⟩)
    · have hvisible := hlocal.isHeaderChar
      obtain ⟨rest, hbegins, hrest⟩ := hlocal
      exact ⟨hvisible, rest, hbegins, hrest.imp_right fun ⟨port, hport, _⟩ => ⟨port, hport⟩⟩
    · exact ⟨hvisible, _, hbegins, .inr ⟨text, rfl⟩⟩

end Origin

theorem Server.allowOrigin_handle (s : Server) (now : Int64) (r : Request) :
    (s.handle now r).2.allowOrigin = r.allowedOrigin := by
  unfold Server.handle
  split
  · rfl
  · rfl

/-- **Only local origins are admitted, as long as digits stand behind the colon.** An origin is
admitted exactly if it is local or has a stray port, and it is never both. So the service tells
local origins from others exactly where there is no stray port. What browsers are told agrees: in
every state and for every request, whoever sent it and whatever it asks for, an origin is allowed
exactly if it is that of the request and is admitted. -/
theorem Origin.admitted_iff (origin : String) :
    (isLocal origin = true ↔ IsLocalOrigin origin ∨ HasStrayPort origin) ∧
    ((isLocal origin = true ↔ IsLocalOrigin origin) ↔ ¬HasStrayPort origin) ∧
    ∀ (s : Server) (now : Int64) (r : Request), (s.handle now r).2.allowOrigin = some origin ↔
      r.origin = some origin ∧ isLocal origin = true := by
  refine ⟨isLocal_iff_or, ?_, fun s now r => ?_⟩
  · rw [isLocal_iff_or, or_iff_left_iff_imp]
    exact ⟨fun himp hstray => (himp hstray).not_hasStrayPort hstray, fun hnot hstray =>
      absurd hstray hnot⟩
  · rw [Server.allowOrigin_handle, Request.allowedOrigin, Option.filter_eq_some_iff]

/-- The user and the password of another host read like a host and a port. -/
theorem Origin.user_of_other_host_admitted :
    isLocal "http://localhost:80@example.com" = true ∧
      ¬IsLocalOrigin "http://localhost:80@example.com" := by
  have hstray : HasStrayPort "http://localhost:80@example.com" := by
    refine ⟨List.all_eq_true.mp (by decide), "80@example.com", ?_, '@', by decide, by decide⟩
    exact ⟨"http://", by decide, "localhost", by decide, by decide⟩
  exact ⟨isLocal_iff_or.mpr (.inr hstray), fun hlocal => hlocal.not_hasStrayPort hstray⟩

end MarkerAtlas
