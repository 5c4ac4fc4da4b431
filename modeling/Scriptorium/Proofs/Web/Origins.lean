import Scriptorium.Proofs.Web.Access

/-!
# The origins of the server's own pages

Without configured origins a request is refused for its origin exactly if the origin is none of the
server's own, each written with the port (`refused_iff_not_own`).  A browser writes an origin
without the port if that is 80.  So a server on any other port admits its own pages and no others,
and one on port 80 refuses all of its own pages (`own_page_refused_iff`).
-/
namespace Scriptorium.Web

variable {server : ServerSettings} {r : Request} {origin a b kept : List Char}

/-! ## 1. Two ways to write an origin -/

/-- An origin as a browser writes it: without the port that is understood. -/
def browserOrigin (host : String) (port : UInt16) : String :=
  if port = 80 then s!"http://{host}" else portedOrigin host port

theorem trusts_iff_own (hnone : server.allowedOrigins = []) {trusted : String} :
    Trusts server trusted ↔ ∃ host ∈ ownHosts server, trusted = portedOrigin host server.port := by
  constructor
  · intro h
    cases h with
    | configured hmem => rw [hnone] at hmem; nomatch hmem
    | own _ hhost => exact ⟨_, hhost, rfl⟩
  · rintro ⟨host, hhost, rfl⟩
    exact .own hnone hhost

/-! ## 2. Colons -/

/-- No letter becomes a colon when it is made small, so colons can be counted in either spelling. -/
theorem toLower_eq_colon {c : Char} : c.toLower = ':' ↔ c = ':' := by
  constructor
  · intro h
    by_cases hupper : c.val ≥ 'A'.val ∧ c.val ≤ 'Z'.val
    · -- what comes of a capital letter is a letter
      have hletter := (dif_pos hupper : c.toLower = _).symm.trans h
      have hval : (c.val + ('a'.val - 'A'.val)).toNat = 58 := congrArg Char.toNat hletter
      obtain ⟨hlow, hhigh⟩ := hupper
      rw [ge_iff_le, UInt32.le_iff_toNat_le] at hlow
      rw [UInt32.le_iff_toNat_le] at hhigh
      rw [UInt32.toNat_add] at hval
      have hA : 'A'.val.toNat = 65 := rfl
      have hZ : 'Z'.val.toNat = 90 := rfl
      have hgap : ('a'.val - 'A'.val).toNat = 32 := rfl
      omega
    · exact (dif_neg hupper : c.toLower = c).symm.trans h
  · rintro rfl
    rfl

theorem count_colon_lowered (cs : List Char) : (lowered cs).count ':' = cs.count ':' := by
  induction cs with
  | nil => rfl
  | cons c cs ih =>
    rw [lowered, List.map_cons, List.count_cons, List.count_cons]
    rw [lowered] at ih
    simp only [ih, beq_iff_eq, toLower_eq_colon]

theorem Unslashed.count_colon (h : Unslashed a kept) : a.count ':' = kept.count ':' := by
  obtain ⟨⟨n, rfl⟩, -⟩ := h
  rw [List.count_append, List.count_replicate, if_neg (by decide), Nat.add_zero]

/-- Slashes and capital letters do not change the number of colons. -/
theorem SameOrigin.count_colon (h : SameOrigin a b) : a.count ':' = b.count ':' := by
  obtain ⟨a', b', ha, hb, hlowered⟩ := h
  rw [ha.count_colon, hb.count_colon, ← count_colon_lowered a', hlowered, count_colon_lowered]

theorem count_colon_portedOrigin {host : String} (h : ':' ∉ host.toList) :
    (portedOrigin host 80).toList.count ':' = 2 := by
  have hlist : (portedOrigin host 80).toList = "http://".toList ++ host.toList ++ ":80".toList := by
    have hport : toString (80 : UInt16) = "80" := by decide
    simp only [portedOrigin, hport, String.toList_append, List.append_assoc]
    rfl
  rw [hlist, List.count_append, List.count_append, List.count_eq_zero_of_not_mem h]
  decide

theorem count_colon_browserOrigin {host : String} (h : ':' ∉ host.toList) :
    (browserOrigin host 80).toList.count ':' = 1 := by
  have hlist : (browserOrigin host 80).toList = "http://".toList ++ host.toList := by
    rw [browserOrigin, if_pos rfl]
    exact String.toList_append
  rw [hlist, List.count_append, List.count_eq_zero_of_not_mem h]
  decide

/-! ## 3. Own pages -/

/-- Without a list of allowed origins, a page is refused if its origin is none of the server's own,
as the server writes them. -/
theorem refused_iff_not_own (hnone : server.allowedOrigins = []) (hshows : Shows r origin) :
    checkClient (some (.ofSettings server)) r = .error .foreignOrigin
      ↔ ∀ host ∈ ownHosts server, ¬ SameOrigin origin (portedOrigin host server.port).toList := by
  rw [refused_foreign_iff, originAdmitted_of_shows hshows]
  constructor
  · intro hnot host hhost hsame
    exact hnot ⟨_, (trusts_iff_own hnone).mpr ⟨host, hhost, rfl⟩, hsame⟩
  · rintro hnot ⟨trusted, htrusts, hsame⟩
    obtain ⟨host, hhost, rfl⟩ := (trusts_iff_own hnone).mp htrusts
    exact hnot host hhost hsame

/-- **On port 80 a server refuses its own pages.**  The server always writes its own origins with
the port, a browser leaves the port 80 away; on every other port the two write the same, and the
server admits its own pages and refuses all others.  Only the comparison on port 80 counts colons,
so it is there that the name of the host must have none. -/
theorem own_page_refused_iff (hnone : server.allowedOrigins = []) (hshows : Shows r origin) :
    let refused := checkClient (some (.ofSettings server)) r = .error .foreignOrigin
    (refused ↔ ∀ host ∈ ownHosts server, ¬ SameOrigin origin (portedOrigin host server.port).toList)
      ∧ (server.port ≠ 80 → (refused ↔
          ∀ host ∈ ownHosts server, ¬ SameOrigin origin (browserOrigin host server.port).toList))
      ∧ (':' ∉ server.host.toList → ∀ host ∈ ownHosts server,
          SameOrigin origin (browserOrigin host server.port).toList →
            (refused ↔ server.port = 80)) := by
  intro refused
  have hrefused : refused ↔
      ∀ host ∈ ownHosts server, ¬ SameOrigin origin (portedOrigin host server.port).toList :=
    refused_iff_not_own hnone hshows
  -- on any other port the two ways to write an origin are one
  have hother (hport : server.port ≠ 80) (host : String) :
      browserOrigin host server.port = portedOrigin host server.port := if_neg hport
  refine ⟨hrefused, fun hport => ?_, fun hhost host hmem hsame => ?_⟩
  · simp only [hother hport]
    exact hrefused
  · have hcolon : ∀ host ∈ ownHosts server, ':' ∉ host.toList := by
      intro host hmem
      simp only [ownHosts, List.mem_cons, List.not_mem_nil, or_false] at hmem
      rcases hmem with rfl | rfl | rfl
      · exact hhost
      · decide
      · decide
    constructor
    · intro h
      by_contra hport
      rw [hother hport] at hsame
      exact hrefused.mp h host hmem hsame
    · intro hport
      -- without the port an origin has one colon, with it two
      refine hrefused.mpr fun host' hmem' hsame' => ?_
      rw [hport] at hsame hsame'
      have hone := hsame.count_colon.trans (count_colon_browserOrigin (hcolon host hmem))
      have htwo := hsame'.count_colon.trans (count_colon_portedOrigin (hcolon host' hmem'))
      omega

/-- The page of `localhost` is admitted on port 8080, and that of another port is not. -/
theorem page_on_8080 :
    let server : ServerSettings := { port := 8080 }
    let shown (origin : String) : Request :=
      ⟨"GET", .ofText "/ws/session", [⟨"Origin", Text.Utf8.encode origin⟩]⟩
    browserOrigin "localhost" 8080 = "http://localhost:8080"
      ∧ ¬ checkClient (some (.ofSettings server)) (shown "HTTP://localhost:8080/")
        = .error .foreignOrigin
      ∧ checkClient (some (.ofSettings server)) (shown "http://localhost")
        = .error .foreignOrigin := by
  intro server shown
  have hnone : server.allowedOrigins = [] := rfl
  have hshows (origin : String) (hplain : (origin.toList.all fun c => decide (IsPlain c)) = true) :
      Shows (shown origin) origin.toList := by
    have hfirst : (shown origin).FirstValue "origin" (Text.Utf8.encode origin) :=
      ⟨[], _, [], rfl, (by decide : lowered "Origin".toList = lowered "origin".toList), rfl,
        List.forall_mem_nil _⟩
    exact .text ⟨_, hfirst, by rw [String.ofList_toList], isPlain_of_all hplain⟩
  refine ⟨by decide, ?_, ?_⟩
  · have hpage := own_page_refused_iff hnone (hshows "HTTP://localhost:8080/" (by decide))
    have hsame :
        SameOrigin "HTTP://localhost:8080/".toList (browserOrigin "localhost" 8080).toList :=
      plainOrigin_eq_iff.mp (by decide)
    rw [hpage.2.2 (by decide) "localhost" (by decide) hsame]
    decide
  · have hpage := own_page_refused_iff hnone (hshows "http://localhost" (by decide))
    refine (hpage.2.1 (by decide)).mpr fun host hmem hsame => ?_
    have hall : ∀ host ∈ ownHosts server, plainOrigin "http://localhost".toList
        ≠ plainOrigin (browserOrigin host server.port).toList := by decide
    exact hall host hmem (plainOrigin_eq_iff.mpr hsame)

/-- On port 80 the page that the server itself shows is refused. -/
theorem page_on_80_refused :
    browserOrigin "127.0.0.1" 80 = "http://127.0.0.1"
      ∧ checkClient (some (.ofSettings { host := "127.0.0.1", port := 80 }))
          ⟨"GET", .ofText "/ws/session", [⟨"Origin", Text.Utf8.encode "http://127.0.0.1"⟩]⟩
        = .error .foreignOrigin := by
  decide +kernel

end Scriptorium.Web
