import Scriptorium.Proofs.Web.Request
import Scriptorium.Web.Response

/-!
# Who is admitted

Two questions decide on a client, and they are put in this order.  Does its request show an origin
that is not trusted (`OriginAdmitted`)?  Then it is refused, whatever else it holds.  Does it
present the token that is needed (`TokenAdmitted`)?  If not, it is told whether it presented one.

The first value of `origin` and the token that is presented (`Presents`) are all that counts: two
requests with the same ones get the same answer (`client_decided`).  What is decided is told by its
reasons (`Decision`), which exclude each other, so that each answer is given for its reason only.
-/
namespace Scriptorium.Web

open Text

variable {server : ServerSettings} {r : Request} {cs token a b kept : List Char}

/-! ## 1. Origins -/

/-- What is left of an origin without the slashes at its end. -/
def Unslashed (origin kept : List Char) : Prop :=
  (∃ n, origin = kept ++ List.replicate n '/') ∧ kept.getLast? ≠ some '/'

/-- Two origins are the same but for slashes at their ends and for capital letters. -/
def SameOrigin (a b : List Char) : Prop :=
  ∃ a' b', Unslashed a a' ∧ Unslashed b b' ∧ lowered a' = lowered b'

/-- One text is another without the slashes at its end exactly if these are what is dropped from it.
-/
theorem unslashed_iff : Unslashed a kept ↔ dropEnd (· = '/') a = kept := by
  rw [dropEnd_eq]
  constructor
  · rintro ⟨⟨n, rfl⟩, hlast⟩
    refine ⟨List.replicate n '/', rfl, fun c hc => ?_, fun c hc => ?_⟩
    · exact decide_eq_true (List.eq_of_mem_replicate hc)
    · refine decide_eq_false fun heq => hlast ?_
      rw [hc, heq]
  · rintro ⟨off, rfl, hoff, hlast⟩
    refine ⟨⟨off.length, ?_⟩, fun hslash => ?_⟩
    · rw [← List.eq_replicate_of_mem fun c hc => of_decide_eq_true (hoff c hc)]
    · exact absurd rfl (of_decide_eq_false (hlast '/' hslash))

theorem plainOrigin_eq_iff : plainOrigin a = plainOrigin b ↔ SameOrigin a b := by
  constructor
  · intro h
    exact ⟨_, _, unslashed_iff.mpr rfl, unslashed_iff.mpr rfl, h⟩
  · rintro ⟨a', b', ha, hb, hlowered⟩
    rw [plainOrigin, plainOrigin, unslashed_iff.mp ha, unslashed_iff.mp hb, hlowered]

/-- The names under which a server's own pages are shown. -/
def ownHosts (server : ServerSettings) : List String := [server.host, "localhost", "127.0.0.1"]

/-- An origin with its port. -/
def portedOrigin (host : String) (port : UInt16) : String := s!"http://{host}:{port}"

/-- The origins that settings trust: those that are configured or, if none is, those of the server's
own pages. -/
inductive Trusts (server : ServerSettings) : String → Prop
  | configured {origin : String} : origin ∈ server.allowedOrigins → Trusts server origin
  | own {host : String} : server.allowedOrigins = [] → host ∈ ownHosts server →
      Trusts server (portedOrigin host server.port)

/-- The origins that are listed when the server is set up are just those that it trusts, as they are
compared. -/
theorem mem_trustedOrigins {origin : String} :
    origin ∈ trustedOrigins server ↔ Trusts server origin := by
  rw [trustedOrigins]
  split
  · rename_i hnone
    constructor
    · intro h
      obtain ⟨host, hhost, rfl⟩ := List.mem_map.mp h
      exact .own hnone hhost
    · intro h
      cases h with
      | configured horigin => rw [hnone] at horigin; nomatch horigin
      | own _ hhost => exact List.mem_map_of_mem hhost
  · rename_i hsome
    constructor
    · exact .configured
    · intro h
      cases h with
      | configured horigin => exact horigin
      | own hnone _ => exact absurd hnone hsome

/-- The origin that a request shows: the text of its first `origin`, or nothing if that is no
text. -/
inductive Shows (r : Request) : List Char → Prop
  | text {origin : List Char} : r.FirstText "origin" origin → Shows r origin
  | unreadable {value : Bytes} : r.FirstValue "origin" value → (∀ cs, ¬ Readable value cs) →
      Shows r []

/-- A request shows one origin at most, since only the first field of the name counts. -/
theorem Shows.unique (h : Shows r a) (h' : Shows r b) : a = b := by
  have hvalue {value value' : Bytes} (hfirst : r.FirstValue "origin" value)
      (hfirst' : r.FirstValue "origin" value') : value = value' :=
    Option.some.inj ((value?_eq_some.mpr hfirst).symm.trans (value?_eq_some.mpr hfirst'))
  cases h with
  | text htext =>
    obtain ⟨value, hfirst, hreadable⟩ := htext
    cases h' with
    | text htext' =>
      obtain ⟨value', hfirst', hreadable'⟩ := htext'
      obtain rfl := hvalue hfirst hfirst'
      exact Option.some.inj
        ((readable?_eq_some.mpr hreadable).symm.trans (readable?_eq_some.mpr hreadable'))
    | unreadable hfirst' hno =>
      obtain rfl := hvalue hfirst hfirst'
      exact absurd hreadable (hno a)
  | unreadable hfirst hno =>
    cases h' with
    | text htext' =>
      obtain ⟨value', hfirst', hreadable'⟩ := htext'
      obtain rfl := hvalue hfirst hfirst'
      exact absurd hreadable' (hno b)
    | unreadable => rfl

theorem Shows.exists_value (h : Shows r a) : ∃ value, r.FirstValue "origin" value := by
  cases h with
  | text htext =>
    obtain ⟨value, hfirst, -⟩ := htext
    exact ⟨value, hfirst⟩
  | unreadable hfirst _ => exact ⟨_, hfirst⟩

/-- A request shows no origin, or one that is trusted. -/
def OriginAdmitted (server : ServerSettings) (r : Request) : Prop :=
  (∀ value, ¬ r.FirstValue "origin" value) ∨
    ∃ origin trusted, Shows r origin ∧ Trusts server trusted ∧ SameOrigin origin trusted.toList

theorem trusts_iff : (AccessPolicy.ofSettings server).trusts a = true ↔
    ∃ trusted, Trusts server trusted ∧ SameOrigin a trusted.toList := by
  rw [AccessPolicy.trusts, AccessPolicy.ofSettings, List.contains_iff_mem, List.mem_map]
  constructor
  · rintro ⟨trusted, hmem, hsame⟩
    exact ⟨trusted, mem_trustedOrigins.mp hmem, plainOrigin_eq_iff.mp hsame.symm⟩
  · rintro ⟨trusted, htrusts, hsame⟩
    exact ⟨trusted, mem_trustedOrigins.mpr htrusts, (plainOrigin_eq_iff.mpr hsame).symm⟩

/-- A request that shows an origin is let through if that is the same as a trusted one, for the case
of its letters and the slashes at its end. -/
theorem originAdmitted_of_shows (h : Shows r a) : OriginAdmitted server r ↔
    ∃ trusted, Trusts server trusted ∧ SameOrigin a trusted.toList := by
  constructor
  · rintro (hnone | ⟨origin, trusted, hshows, htrusts, hsame⟩)
    · obtain ⟨value, hfirst⟩ := h.exists_value
      exact absurd hfirst (hnone value)
    · obtain rfl := hshows.unique h
      exact ⟨trusted, htrusts, hsame⟩
  · rintro ⟨trusted, htrusts, hsame⟩
    exact .inr ⟨a, trusted, h, htrusts, hsame⟩

theorem shows_of_value? {value : Bytes} (h : r.value? "origin" = some value) :
    Shows r ((readable? value).getD []) := by
  have hfirst := value?_eq_some.mp h
  cases hread : readable? value with
  | some origin => exact .text ⟨value, hfirst, readable?_eq_some.mp hread⟩
  | none =>
    refine .unreadable hfirst fun cs hcs => ?_
    rw [readable?_eq_some.mpr hcs] at hread
    nomatch hread

/-- A field that cannot be read as text counts as an origin that nobody trusts, so it is refused
rather than passed over. -/
theorem originAdmitted_iff : OriginAdmitted server r ↔
    ∀ value, r.value? "origin" = some value →
      (AccessPolicy.ofSettings server).trusts ((readable? value).getD []) = true := by
  cases hvalue : r.value? "origin" with
  | none =>
    constructor
    · intro _ value h
      nomatch h
    · intro _
      exact .inl (value?_eq_none.mp hvalue)
  | some value =>
    rw [originAdmitted_of_shows (shows_of_value? hvalue), ← trusts_iff]
    constructor
    · intro h value' hvalue'
      obtain rfl := Option.some.inj hvalue'
      exact h
    · intro h
      exact h value rfl

/-! ## 2. Tokens -/

/-- Blanks and tabs do not count at the ends of a token. -/
def IsBlank (c : Char) : Prop := c = ' ' ∨ c = '\t'

/-- What is left of a text without the blanks and tabs at its ends. -/
def Trims (cs token : List Char) : Prop :=
  ∃ before behind, cs = before ++ token ++ behind ∧ (∀ c ∈ before ++ behind, IsBlank c)
    ∧ (∀ c, token.head? = some c → ¬ IsBlank c) ∧ ∀ c, token.getLast? = some c → ¬ IsBlank c

theorem trimmed_eq : trimmed cs = token ↔ Trims cs token := by
  rw [trimmed, trim_eq]
  simp only [StopsBefore, StopsBehind, Bool.or_eq_true, Bool.or_eq_false_iff, decide_eq_true_eq,
    decide_eq_false_iff_not, Trims, IsBlank, List.forall_mem_append, not_or]
  constructor
  · rintro ⟨before, behind, hcs, ⟨hbefore, hhead⟩, hbehind, hlast⟩
    exact ⟨before, behind, hcs, ⟨hbefore, hbehind⟩, hhead, hlast⟩
  · rintro ⟨before, behind, hcs, ⟨hbefore, hbehind⟩, hhead, hlast⟩
    exact ⟨before, behind, hcs, ⟨hbefore, hhead⟩, hbehind, hlast⟩

/-- The first `authorization` can be read and is a bearer token with this text. -/
def Bears (r : Request) (cs : List Char) : Prop :=
  r.FirstText "authorization" ("Bearer ".toList ++ cs)

/-- The token that a request presents: its bearer token or, if there is none, its key or, if there
is none either, the first `token` of its query as it is written there. -/
inductive Presents (r : Request) : List Char → Prop
  | bearer {cs token : List Char} : Bears r cs → Trims cs token → Presents r token
  | key {cs token : List Char} : (∀ cs, ¬ Bears r cs) → r.FirstText "x-api-key" cs →
      Trims cs token → Presents r token
  | parameter {query token : List Char} : (∀ cs, ¬ Bears r cs) →
      (∀ cs, ¬ r.FirstText "x-api-key" cs) → r.target.query = some query →
      FirstParameter query "token" token → Presents r token

theorem bearer?_eq_some :
    (r.text? "authorization").bind (dropStart? "Bearer ".toList) = some cs ↔ Bears r cs := by
  rw [Option.bind_eq_some_iff]
  constructor
  · rintro ⟨value, hvalue, hdrop⟩
    obtain rfl := dropStart?_eq_some.mp hdrop
    exact text?_eq_some.mp hvalue
  · intro h
    exact ⟨_, text?_eq_some.mpr h, dropStart?_append _ cs⟩

theorem bearer?_eq_none :
    (r.text? "authorization").bind (dropStart? "Bearer ".toList) = none ↔ ∀ cs, ¬ Bears r cs :=
  eq_none_iff_of_eq_some fun _ => bearer?_eq_some

/-- **A token is presented in one of three ways**, and the first of them that is there counts: as a
bearer, in a field of its own, or as a parameter of the query. -/
theorem presentedToken_eq_some : presentedToken r = some token ↔ Presents r token := by
  rw [presentedToken]
  cases hbearer : (r.text? "authorization").bind (dropStart? "Bearer ".toList) with
  | some cs =>
    have hbears := bearer?_eq_some.mp hbearer
    constructor
    · intro h
      exact .bearer hbears (trimmed_eq.mp (Option.some.inj h))
    · intro h
      cases h with
      | bearer hbears' htrims =>
        obtain rfl := Option.some.inj (hbearer.symm.trans (bearer?_eq_some.mpr hbears'))
        exact congrArg some (trimmed_eq.mpr htrims)
      | key hno => exact absurd hbears (hno cs)
      | parameter hno => exact absurd hbears (hno cs)
  | none =>
    have hno := bearer?_eq_none.mp hbearer
    cases hkey : r.text? "x-api-key" with
    | some cs =>
      have htext := text?_eq_some.mp hkey
      constructor
      · intro h
        exact .key hno htext (trimmed_eq.mp (Option.some.inj h))
      · intro h
        cases h with
        | bearer hbears => exact absurd hbears (hno _)
        | key _ htext' htrims =>
          obtain rfl := Option.some.inj (hkey.symm.trans (text?_eq_some.mpr htext'))
          exact congrArg some (trimmed_eq.mpr htrims)
        | parameter _ hno' => exact absurd htext (hno' cs)
    | none =>
      have hno' := text?_eq_none.mp hkey
      constructor
      · intro h
        obtain ⟨query, hquery, hfirst⟩ := head?_parameter.mp h
        exact .parameter hno hno' hquery hfirst
      · intro h
        cases h with
        | bearer hbears => exact absurd hbears (hno _)
        | key _ htext => exact absurd htext (hno' _)
        | parameter _ _ hquery hfirst => exact head?_parameter.mpr ⟨_, hquery, hfirst⟩

theorem presentedToken_eq_none : presentedToken r = none ↔ ∀ token, ¬ Presents r token :=
  eq_none_iff_of_eq_some fun _ => presentedToken_eq_some

/-- A request presents one token at most. -/
theorem Presents.unique (h : Presents r a) (h' : Presents r b) : a = b :=
  Option.some.inj ((presentedToken_eq_some.mpr h).symm.trans (presentedToken_eq_some.mpr h'))

/-- The token that settings need is this one.  An empty one is not needed. -/
def Needs (server : ServerSettings) (token : List Char) : Prop :=
  ∃ t, server.accessToken = some t ∧ t.toList = token ∧ token ≠ []

theorem Needs.unique (h : Needs server a) (h' : Needs server b) : a = b := by
  obtain ⟨t, ht, rfl, -⟩ := h
  obtain ⟨t', ht', rfl, -⟩ := h'
  rw [Option.some.inj (ht.symm.trans ht')]

/-- A request presents the token that is needed, if one is. -/
def TokenAdmitted (server : ServerSettings) (r : Request) : Prop :=
  ∀ token, Needs server token → Presents r token

theorem token_eq_some {t : String} :
    (AccessPolicy.ofSettings server).token = some t ↔ Needs server t.toList := by
  rw [AccessPolicy.ofSettings, Option.filter_eq_some_iff, Needs]
  simp only [ne_eq, decide_eq_true_eq, String.toList_inj, String.toList_eq_nil_iff]
  constructor
  · rintro ⟨htoken, hne⟩
    exact ⟨t, htoken, rfl, hne⟩
  · rintro ⟨t, htoken, rfl, hne⟩
    exact ⟨htoken, hne⟩

theorem token_eq_none :
    (AccessPolicy.ofSettings server).token = none ↔ ∀ token, ¬ Needs server token := by
  rw [Option.eq_none_iff_forall_ne_some]
  constructor
  · rintro h token ⟨t, htoken, rfl, hne⟩
    exact h t (token_eq_some.mpr ⟨t, htoken, rfl, hne⟩)
  · intro h t ht
    exact h t.toList (token_eq_some.mp ht)

/-! ## 3. The decision -/

/-- What settings decide on a request. -/
inductive Decision (server : ServerSettings) (r : Request) : Except Refusal Unit → Prop
  | admitted : OriginAdmitted server r → TokenAdmitted server r → Decision server r (.ok ())
  | foreignOrigin : ¬ OriginAdmitted server r → Decision server r (.error .foreignOrigin)
  | noToken {needed : List Char} : OriginAdmitted server r → Needs server needed →
      (∀ token, ¬ Presents r token) → Decision server r (.error .noToken)
  | wrongToken {needed token : List Char} : OriginAdmitted server r → Needs server needed →
      Presents r token → token ≠ needed → Decision server r (.error .wrongToken)

/-- An origin that is not trusted is refused before the token is even looked at. -/
theorem check_of_foreign (h : ¬ OriginAdmitted server r) :
    (AccessPolicy.ofSettings server).check r = .error .foreignOrigin := by
  rw [originAdmitted_iff] at h
  rw [AccessPolicy.check]
  cases hvalue : r.value? "origin" with
  | none => exact absurd (by simp [hvalue]) h
  | some value =>
    refine if_neg fun htrusts => h fun value' hvalue' => ?_
    obtain rfl := Option.some.inj (hvalue.symm.trans hvalue')
    exact htrusts

/-- With a trusted origin, or none, it is the token alone that decides. -/
theorem check_of_admitted (h : OriginAdmitted server r) :
    (AccessPolicy.ofSettings server).check r =
      match (AccessPolicy.ofSettings server).token with
      | none => .ok ()
      | some needed =>
        match presentedToken r with
        | none => .error .noToken
        | some token => if token = needed.toList then .ok () else .error .wrongToken := by
  rw [originAdmitted_iff] at h
  rw [AccessPolicy.check]
  cases hvalue : r.value? "origin" with
  | none => exact if_pos rfl
  | some value => exact if_pos (h value hvalue)

/-- **What is decided on a request is one of the four decisions**, each with its reason: admitted, a
foreign origin, no token, or the wrong one. -/
theorem decision_checkClient (server : ServerSettings) (r : Request) :
    Decision server r (checkClient (some (.ofSettings server)) r) := by
  rw [checkClient]
  by_cases horigin : OriginAdmitted server r
  · rw [check_of_admitted horigin]
    cases htoken : (AccessPolicy.ofSettings server).token with
    | none =>
      refine .admitted horigin fun token hneeds => ?_
      exact absurd hneeds (token_eq_none.mp htoken token)
    | some needed =>
      have hneeds := token_eq_some.mp htoken
      cases hpresented : presentedToken r with
      | none => exact .noToken horigin hneeds (presentedToken_eq_none.mp hpresented)
      | some token =>
        have hpresents := presentedToken_eq_some.mp hpresented
        by_cases hsame : token = needed.toList
        · subst hsame
          simp only [if_true]
          refine .admitted horigin fun token hneeds' => ?_
          rwa [hneeds'.unique hneeds]
        · simp only [if_neg hsame]
          exact .wrongToken horigin hneeds hpresents hsame
  · rw [check_of_foreign horigin]
    exact .foreignOrigin horigin

/-- The reasons for the decisions exclude each other. -/
theorem Decision.unique {d d' : Except Refusal Unit} (h : Decision server r d)
    (h' : Decision server r d') : d = d' := by
  cases h with
  | admitted horigin htoken =>
    cases h' with
    | admitted => rfl
    | foreignOrigin hforeign => exact absurd horigin hforeign
    | noToken _ hneeds hnone => exact absurd (htoken _ hneeds) (hnone _)
    | wrongToken _ hneeds hpresents hne => exact absurd (hpresents.unique (htoken _ hneeds)) hne
  | foreignOrigin hforeign =>
    cases h' with
    | foreignOrigin => rfl
    | admitted horigin => exact absurd horigin hforeign
    | noToken horigin => exact absurd horigin hforeign
    | wrongToken horigin => exact absurd horigin hforeign
  | noToken horigin hneeds hnone =>
    cases h' with
    | noToken => rfl
    | admitted _ htoken => exact absurd (htoken _ hneeds) (hnone _)
    | foreignOrigin hforeign => exact absurd horigin hforeign
    | wrongToken _ _ hpresents => exact absurd hpresents (hnone _)
  | wrongToken horigin hneeds hpresents hne =>
    cases h' with
    | wrongToken => rfl
    | admitted _ htoken => exact absurd (hpresents.unique (htoken _ hneeds)) hne
    | foreignOrigin hforeign => exact absurd horigin hforeign
    | noToken _ _ hnone => exact absurd hpresents (hnone _)

theorem checkClient_eq {d : Except Refusal Unit} :
    checkClient (some (.ofSettings server)) r = d ↔ Decision server r d := by
  constructor
  · rintro rfl
    exact decision_checkClient server r
  · exact (decision_checkClient server r).unique

theorem refused_foreign_iff :
    checkClient (some (.ofSettings server)) r = .error .foreignOrigin
      ↔ ¬ OriginAdmitted server r := by
  rw [checkClient_eq]
  constructor
  · intro h
    cases h with
    | foreignOrigin hforeign => exact hforeign
  · exact .foreignOrigin

/-- A request is refused, with this status and this code. -/
def Refused (server : ServerSettings) (r : Request) (status : Nat) (code : String) : Prop :=
  ∃ refusal, checkClient (some (.ofSettings server)) r = .error refusal
    ∧ (Response.ofRefusal refusal).status = status ∧ refusal.code = code

theorem code_inj {e e' : Refusal} (h : e.code = e'.code) : e = e' := by
  cases e <;> cases e' <;> first | rfl | exact absurd h (by decide)

theorem refused_iff (e : Refusal) :
    Refused server r e.status e.code ↔ Decision server r (.error e) := by
  constructor
  · rintro ⟨e', hcheck, -, hcode⟩
    obtain rfl := code_inj hcode
    exact checkClient_eq.mp hcheck
  · intro h
    exact ⟨e, checkClient_eq.mpr h, rfl, rfl⟩

/-! ## 4. What counts -/

variable {r' : Request}

theorem Shows.congr {origin : List Char}
    (hfirst : ∀ value, r.FirstValue "origin" value → r'.FirstValue "origin" value)
    (h : Shows r origin) : Shows r' origin := by
  cases h with
  | text htext =>
    obtain ⟨value, hvalue, hreadable⟩ := htext
    exact .text ⟨value, hfirst value hvalue, hreadable⟩
  | unreadable hvalue hno => exact .unreadable (hfirst _ hvalue) hno

theorem OriginAdmitted.congr
    (hfirst : ∀ value, r'.FirstValue "origin" value ↔ r.FirstValue "origin" value)
    (h : OriginAdmitted server r) : OriginAdmitted server r' := by
  rcases h with hnone | ⟨origin, trusted, hshows, htrusts, hsame⟩
  · left
    intro value hvalue
    exact hnone value ((hfirst value).mp hvalue)
  · right
    exact ⟨origin, trusted, hshows.congr fun value => (hfirst value).mpr, htrusts, hsame⟩

/-- Two requests with the same first origin that present the same tokens meet with the same
decision. -/
theorem Decision.congr {d : Except Refusal Unit}
    (hfirst : ∀ value, r'.FirstValue "origin" value ↔ r.FirstValue "origin" value)
    (hpresents : ∀ token, Presents r' token ↔ Presents r token) (h : Decision server r d) :
    Decision server r' d := by
  cases h with
  | admitted horigin htoken =>
    refine .admitted (horigin.congr hfirst) fun token hneeds => ?_
    exact (hpresents token).mpr (htoken token hneeds)
  | foreignOrigin hforeign =>
    exact .foreignOrigin fun horigin => hforeign (horigin.congr fun value => (hfirst value).symm)
  | noToken horigin hneeds hnone =>
    exact .noToken (horigin.congr hfirst) hneeds fun token h => hnone token ((hpresents token).mp h)
  | wrongToken horigin hneeds hpresented hne =>
    exact .wrongToken (horigin.congr hfirst) hneeds ((hpresents _).mpr hpresented) hne

/-- **Who is admitted, what the others are told, and what this depends on.**  A client is admitted
if its origin is trusted, or it shows none, and it presents the token that is configured, or there
is none.  A foreign origin is refused with 403 whatever the token, a missing token and a wrong one
with 401 and codes of their own.  Nothing else of a request counts: two requests with the same first
origin that present the same tokens are answered alike. -/
theorem client_decided (server : ServerSettings) (r : Request) :
    (checkClient (some (.ofSettings server)) r = .ok ()
        ↔ OriginAdmitted server r ∧ TokenAdmitted server r)
      ∧ (Refused server r 403 "ORIGIN_NOT_ALLOWED" ↔ ¬ OriginAdmitted server r)
      ∧ (Refused server r 401 "UNAUTHORIZED" ↔ OriginAdmitted server r
          ∧ (∃ needed, Needs server needed) ∧ ∀ token, ¬ Presents r token)
      ∧ (Refused server r 401 "INVALID_CREDENTIALS" ↔ OriginAdmitted server r
          ∧ ∃ needed token, Needs server needed ∧ Presents r token ∧ token ≠ needed)
      ∧ ∀ r' : Request, (∀ value, r'.FirstValue "origin" value ↔ r.FirstValue "origin" value) →
          (∀ token, Presents r' token ↔ Presents r token) →
          checkClient (some (.ofSettings server)) r'
            = checkClient (some (.ofSettings server)) r := by
  refine ⟨?_, ?_, ?_, ?_, ?_⟩
  · rw [checkClient_eq]
    constructor
    · intro h
      cases h with
      | admitted horigin htoken => exact ⟨horigin, htoken⟩
    · rintro ⟨horigin, htoken⟩
      exact .admitted horigin htoken
  · exact (refused_iff .foreignOrigin).trans (checkClient_eq.symm.trans refused_foreign_iff)
  · refine (refused_iff .noToken).trans ⟨?_, ?_⟩
    · intro h
      cases h with
      | noToken horigin hneeds hnone => exact ⟨horigin, ⟨_, hneeds⟩, hnone⟩
    · rintro ⟨horigin, ⟨needed, hneeds⟩, hnone⟩
      exact .noToken horigin hneeds hnone
  · refine (refused_iff .wrongToken).trans ⟨?_, ?_⟩
    · intro h
      cases h with
      | wrongToken horigin hneeds hpresents hne => exact ⟨horigin, _, _, hneeds, hpresents, hne⟩
    · rintro ⟨horigin, needed, token, hneeds, hpresents, hne⟩
      exact .wrongToken horigin hneeds hpresents hne
  · intro r' hfirst hpresents
    exact checkClient_eq.mpr (Decision.congr hfirst hpresents (decision_checkClient server r))

/-- A bearer token that cannot be read is passed over, and the key is trimmed. -/
example : checkClient (some (.ofSettings { accessToken := some "k" }))
    ⟨"GET", .ofText "/ws/session?token=other",
      [⟨"authorization", Utf8.encode "Bearer ض"⟩, ⟨"X-Api-Key", Utf8.encode " k\t"⟩]⟩ = .ok () := by
  decide +kernel

end Scriptorium.Web
