import Scriptorium.Proofs.Web.Access

/-!
# Three ways to present a token

A token of visible ASCII characters is admitted as a bearer token and as a key, exactly as it is
configured.  In a query it is written percent-encoded, and there it is compared as it is written:
it is admitted exactly if the encoding leaves every character of it as it is
(`admitted_three_ways`).

An encoding is given by the characters that it keeps (`percentEncoded`).  It is never shorter than
the text, and longer as soon as one character is escaped, so it cannot be the text by chance.
-/
namespace Scriptorium.Web

open Text

variable {server : ServerSettings} {r : Request} {t : String} {cs : List Char} {c : Char}
  {kept : Char → Bool}

/-! ## 1. Percent-encoding -/

/-- How a byte is escaped. -/
def escaped (b : UInt8) : List Char :=
  ['%', (Nat.digitChar (b.toNat / 16)).toUpper, (Nat.digitChar (b.toNat % 16)).toUpper]

/-- How a character is encoded that is not kept: its bytes, escaped. -/
def escapedChar (c : Char) : List Char := (String.utf8EncodeChar c).flatMap escaped

/-- A text in percent-encoding, in which some characters are kept as they are. -/
def percentEncoded (kept : Char → Bool) (cs : List Char) : List Char :=
  cs.flatMap fun c => if kept c then [c] else escapedChar c

/-- The characters that are kept everywhere in an address. -/
def isUnreserved (c : Char) : Bool :=
  c.isAlphanum || c = '-' || c = '.' || c = '_' || c = '~'

theorem percentEncoded_cons (kept : Char → Bool) (c : Char) (cs : List Char) :
    percentEncoded kept (c :: cs)
      = (if kept c then [c] else escapedChar c) ++ percentEncoded kept cs :=
  List.flatMap_cons

/-- An escaped character takes three characters or more, so escaping never shortens a text. -/
theorem length_escapedChar (c : Char) : 3 ≤ (escapedChar c).length := by
  have hbytes : 1 ≤ (String.utf8EncodeChar c).length := by
    rw [String.length_utf8EncodeChar]
    exact c.utf8Size_pos
  have hlength : ∀ bs : List UInt8, (bs.flatMap escaped).length = 3 * bs.length := by
    intro bs
    induction bs with
    | nil => rfl
    | cons b bs ih =>
      rw [List.flatMap_cons, List.length_append, ih, List.length_cons]
      simp only [escaped, List.length_cons, List.length_nil]
      omega
  rw [escapedChar, hlength]
  omega

/-- An escaped text is at least as long as the text. -/
theorem length_le_percentEncoded (kept : Char → Bool) (cs : List Char) :
    cs.length ≤ (percentEncoded kept cs).length := by
  induction cs with
  | nil => exact Nat.le_refl 0
  | cons c cs ih =>
    rw [percentEncoded_cons, List.length_append, List.length_cons]
    have hc := length_escapedChar c
    split
    · rw [List.length_singleton]
      omega
    · omega

/-- **A text is its own encoding exactly if all its characters are kept.**  A percent sign is never
kept, so no escaped text can be mistaken for one that was not. -/
theorem percentEncoded_eq_self : percentEncoded kept cs = cs ↔ ∀ c ∈ cs, kept c = true := by
  induction cs with
  | nil => simp [percentEncoded]
  | cons c cs ih =>
    rw [percentEncoded_cons, List.forall_mem_cons, ← ih]
    by_cases hc : kept c = true
    · rw [if_pos hc, List.singleton_append, List.cons.injEq]
      simp only [hc, true_and]
    · rw [if_neg hc]
      refine ⟨fun heq => ?_, fun h => absurd h.1 hc⟩
      have hlength := congrArg List.length heq
      rw [List.length_append, List.length_cons] at hlength
      have hescaped := length_escapedChar c
      have hrest := length_le_percentEncoded kept cs
      omega

/-- There is no ampersand in an escaped byte, but a percent sign and two digits. -/
theorem ampersand_not_mem_escaped (b : UInt8) : '&' ∉ escaped b := by
  have hdigit : ∀ n < 16, '&' ≠ (Nat.digitChar n).toUpper := by decide
  have hb : b.toNat < 256 := b.toNat_lt
  have hhigh := hdigit (b.toNat / 16) (by omega)
  have hlow := hdigit (b.toNat % 16) (by omega)
  intro hmem
  simp only [escaped, List.mem_cons, List.not_mem_nil, or_false] at hmem
  rcases hmem with h | h | h
  · exact absurd h (by decide)
  · exact hhigh h
  · exact hlow h

/-- Where ampersands are escaped, none is left; so a text with one is never the same as any that was
escaped. -/
theorem ampersand_not_mem_percentEncoded (h : kept '&' = false) :
    '&' ∉ percentEncoded kept cs := by
  intro hmem
  obtain ⟨c, -, hc⟩ := List.mem_flatMap.mp hmem
  split at hc
  · rename_i hkept
    obtain rfl := List.mem_singleton.mp hc
    rw [h] at hkept
    nomatch hkept
  · obtain ⟨b, -, hb⟩ := List.mem_flatMap.mp hc
    exact ampersand_not_mem_escaped b hb

/-- An encoding that escapes the ampersand can be given to a parameter in a query. -/
theorem firstParameter_percentEncoded (name : String) (hname : '&' ∉ parameterStart name)
    (kept : Char → Bool) (hkept : kept '&' = false) (cs : List Char) :
    FirstParameter (parameterStart name ++ percentEncoded kept cs) name
      (percentEncoded kept cs) := by
  refine ⟨[], [], rfl, ?_, List.forall_mem_nil _⟩
  intro piece hpiece
  obtain rfl := List.mem_singleton.mp hpiece
  intro hmem
  rcases List.mem_append.mp hmem with hmem | hmem
  · exact hname hmem
  · exact ampersand_not_mem_percentEncoded hkept hmem

/-! ## 2. Admission -/

/-- The characters of a text are visible ASCII characters. -/
def IsVisible (t : String) : Prop := ∀ c ∈ t.toList, 0x20 < c.toNat ∧ c.toNat < 0x7F

instance (t : String) : Decidable (IsVisible t) :=
  List.decidableBAll (fun c : Char => 0x20 < c.toNat ∧ c.toNat < 0x7F) t.toList

theorem IsVisible.readable (h : IsVisible t) : Readable (Utf8.encode t) t.toList := by
  refine ⟨by rw [String.ofList_toList], fun c hc => ?_⟩
  obtain ⟨hlow, hhigh⟩ := h c hc
  exact .inr ⟨by omega, hhigh⟩

theorem IsVisible.readable_bearer (h : IsVisible t) :
    Readable (Utf8.encode ("Bearer " ++ t)) ("Bearer ".toList ++ t.toList) := by
  refine ⟨by rw [← String.toList_append, String.ofList_toList], fun c hc => ?_⟩
  rcases List.mem_append.mp hc with hc | hc
  · exact isPlain_of_all (by decide) c hc
  · exact h.readable.2 c hc

/-- Nothing is taken off the ends of a visible text. -/
theorem IsVisible.trims (h : IsVisible t) : Trims t.toList t.toList := by
  have hblank : ∀ c ∈ t.toList, ¬ IsBlank c := by
    intro c hc hblank
    have hlow := (h c hc).1
    rcases hblank with rfl | rfl
    · exact absurd hlow (by decide)
    · exact absurd hlow (by decide)
  refine ⟨[], [], (List.append_nil _).symm, List.forall_mem_nil _, fun c hc => ?_, fun c hc => ?_⟩
  · exact hblank c (List.mem_of_mem_head? hc)
  · exact hblank c (List.mem_of_getLast? hc)

theorem needs_of_token (htoken : server.accessToken = some t) (hne : t ≠ "") :
    Needs server t.toList :=
  ⟨t, htoken, rfl, mt String.toList_eq_nil_iff.mp hne⟩

/-- Without an origin the token that is presented decides. -/
theorem checkClient_of_presents {token : List Char}
    (horigin : ∀ value, ¬ r.FirstValue "origin" value) (hneeds : Needs server t.toList)
    (hpresents : Presents r token) :
    checkClient (some (.ofSettings server)) r
      = if token = t.toList then .ok () else .error .wrongToken := by
  rw [checkClient_eq]
  split
  · rename_i hsame
    subst hsame
    refine .admitted (.inl horigin) fun needed hneeded => ?_
    rwa [hneeded.unique hneeds]
  · rename_i hother
    exact .wrongToken (.inl horigin) hneeds hpresents hother

/-- **A token is admitted as it is configured, and in a query if nothing of it is escaped.**  Of a
token that consists of visible characters, both fields are compared with the token itself.  The
parameter of a query is compared as it stands there, without decoding it, so it is admitted exactly
if the client has no reason to escape any of its characters, and refused as wrong otherwise. -/
theorem admitted_three_ways (htoken : server.accessToken = some t) (hne : t ≠ "")
    (hvisible : IsVisible t) (horigin : ∀ value, ¬ r.FirstValue "origin" value) :
    let answer := checkClient (some (.ofSettings server)) r
    (r.FirstValue "authorization" (Utf8.encode ("Bearer " ++ t)) → answer = .ok ())
      ∧ ((∀ cs, ¬ Bears r cs) → r.FirstValue "x-api-key" (Utf8.encode t) → answer = .ok ())
      ∧ ((∀ cs, ¬ Bears r cs) → (∀ cs, ¬ r.FirstText "x-api-key" cs) →
          ∀ kept query, r.target.query = some query →
            FirstParameter query "token" (percentEncoded kept t.toList) →
            (answer = .ok () ↔ ∀ c ∈ t.toList, kept c = true)
              ∧ (answer = .error .wrongToken ↔ ∃ c ∈ t.toList, kept c = false)) := by
  intro answer
  have hneeds := needs_of_token htoken hne
  have hanswer : ∀ token, Presents r token →
      answer = if token = t.toList then .ok () else .error .wrongToken :=
    fun token => checkClient_of_presents horigin hneeds
  refine ⟨fun hbearer => ?_, fun hno hkey => ?_, fun hno hno' kept query hquery hparameter => ?_⟩
  · have hpresents : Presents r t.toList :=
      .bearer ⟨_, hbearer, hvisible.readable_bearer⟩ hvisible.trims
    rw [hanswer _ hpresents, if_pos rfl]
  · have hpresents : Presents r t.toList :=
      .key hno ⟨_, hkey, hvisible.readable⟩ hvisible.trims
    rw [hanswer _ hpresents, if_pos rfl]
  · rw [hanswer _ (.parameter hno hno' hquery hparameter)]
    by_cases hall : ∀ c ∈ t.toList, kept c = true
    · rw [if_pos (percentEncoded_eq_self.mpr hall)]
      refine ⟨iff_of_true rfl hall, iff_of_false nofun ?_⟩
      rintro ⟨c, hc, hescaped⟩
      rw [hall c hc] at hescaped
      nomatch hescaped
    · rw [if_neg (mt percentEncoded_eq_self.mp hall)]
      refine ⟨iff_of_false nofun hall, iff_of_true rfl ?_⟩
      simpa using hall

/-- A plus sign is admitted in a query as it stands, and refused if it is escaped. -/
theorem token_with_plus :
    let server : ServerSettings := { accessToken := some "a+b" }
    let target (query : Option String) : Target := ⟨"/ws/session".toList, query.map String.toList⟩
    checkClient (some (.ofSettings server))
        ⟨"GET", target none, [⟨"Authorization", Utf8.encode "Bearer a+b"⟩]⟩ = .ok ()
      ∧ checkClient (some (.ofSettings server))
        ⟨"GET", target none, [⟨"X-API-Key", Utf8.encode "a+b"⟩]⟩ = .ok ()
      ∧ checkClient (some (.ofSettings server)) ⟨"GET", target (some "token=a+b"), []⟩ = .ok ()
      ∧ checkClient (some (.ofSettings server)) ⟨"GET", target (some "token=a%2Bb"), []⟩
        = .error .wrongToken := by
  intro server target
  have hvisible : IsVisible "a+b" := by decide
  have htoken : server.accessToken = some "a+b" := rfl
  have hpresented (r : Request) (horigin : r.value? "origin" = none) :=
    admitted_three_ways htoken (by decide) hvisible (value?_eq_none.mp horigin)
  refine ⟨?_, ?_, ?_, ?_⟩
  · refine (hpresented _ (by decide)).1 ⟨[], _, [], rfl, ?_, rfl, List.forall_mem_nil _⟩
    decide
  · refine (hpresented _ (by decide)).2.1 (bearer?_eq_none.mp (by decide))
      ⟨[], _, [], rfl, ?_, rfl, List.forall_mem_nil _⟩
    decide
  · have hquery :=
      firstParameter_percentEncoded "token" (by decide) (· ≠ '&') (by decide) "a+b".toList
    exact ((hpresented _ (by decide)).2.2 (bearer?_eq_none.mp (by decide))
      (text?_eq_none.mp (by decide)) _ _ rfl hquery).1.mpr (List.all_eq_true.mp (by decide))
  · have hquery :=
      firstParameter_percentEncoded "token" (by decide) isUnreserved (by decide) "a+b".toList
    exact ((hpresented _ (by decide)).2.2 (bearer?_eq_none.mp (by decide))
      (text?_eq_none.mp (by decide)) _ _ rfl hquery).2.mpr ⟨'+', by decide, by decide⟩

/-- **A token with an ampersand is not admitted from any query**, as no query can hold it but
escaped.  In a query an ampersand ends the parameter, so the token can be given there in no way at
all. -/
theorem not_admitted_with_ampersand (hneeds : Needs server t.toList) (hampersand : '&' ∈ t.toList)
    (hno : ∀ cs, ¬ Bears r cs) (hno' : ∀ cs, ¬ r.FirstText "x-api-key" cs) :
    checkClient (some (.ofSettings server)) r ≠ .ok () := by
  intro hok
  have hdecision := checkClient_eq.mp hok
  cases hdecision with
  | admitted _ htoken =>
    cases htoken _ hneeds with
    | bearer hbears => exact hno _ hbears
    | key _ htext => exact hno' _ htext
    | parameter _ _ _ hparameter => exact hparameter.ampersand_not_mem hampersand

/-- The escaped ampersand is compared as it stands. -/
theorem token_with_ampersand :
    IsVisible "a&b" ∧ percentEncoded isUnreserved "a&b".toList = "a%26b".toList
      ∧ checkClient (some (.ofSettings { accessToken := some "a&b" }))
          { target := .ofText "/ws/session?token=a%26b" } = .error .wrongToken := by
  refine ⟨?_, ?_, ?_⟩
  · decide
  · decide
  · decide

end Scriptorium.Web
