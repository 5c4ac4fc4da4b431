import Mathlib.Data.List.Basic
import Scriptorium.Proofs.Output.Router

/-!
# The channels of one session

The channels of all sessions stand in one list, in the order in which they were opened, and a
session knows its own by their places in it (`Owns`).  `Router.only` is what remains of a router if
the channels of one session are taken out of the list and numbered anew.

Whatever the session does with its channels, and whatever is delivered to it, it is the same whether
it is done to the router and the rest is left away, or to what is left of the router.  What other
sessions do is not seen there.
-/
namespace Scriptorium

/-! ## 1. The entries of one session -/

section Entries

variable {α : Type} (key : α → SessionId) (entries : List α) {session other : SessionId}

theorem filter_eq_of_filter_ne (session : SessionId) :
    (entries.filter (key · != session)).filter (key · = session) = [] := by
  rw [List.filter_filter, List.filter_eq_nil_iff]
  intro e _
  simp +contextual

theorem filter_ne_of_filter_eq (session : SessionId) :
    (entries.filter (key · = session)).filter (key · != session) = [] := by
  rw [List.filter_filter, List.filter_eq_nil_iff]
  intro e _
  simp +contextual

/-- Leaving away the entries of another session leaves those of the session. -/
theorem filter_eq_of_ne (hne : other ≠ session) :
    (entries.filter (key · != other)).filter (key · = session)
      = entries.filter (key · = session) := by
  rw [List.filter_filter]
  refine List.filter_congr fun e _ => ?_
  by_cases he : key e = session
  · simp [he, hne.symm]
  · simp [he]

end Entries

namespace Output.Router

/-- What of a router belongs to a session whose channels are at the places `ps`. -/
def only (r : Router) (ps : List Nat) (session : SessionId) : Router where
  channels := ps.map fun i => r.channels[i]?.getD ⟨[], false⟩
  current := (r.current.filter (·.1 = session)).map fun e => (e.1, ps.idxOf e.2)

/-- The channels at the places `ps` are there, and they are those that a session can listen on while
no other session does. -/
structure Owns (r : Router) (ps : List Nat) (session : SessionId) : Prop where
  nodup : ps.Nodup
  exist : ∀ i ∈ ps, i < r.channels.length
  listens : ∀ e ∈ r.current, e.2 ∈ ps ↔ e.1 = session

variable {r r' : Router} {ps : List Nat} {session other : SessionId} {i : Nat}

/-! ## 2. Looking up a channel -/

theorem mem_current_of_channelOf? (h : r.channelOf? session = some i) :
    (session, i) ∈ r.current := by
  obtain ⟨before, after, he, -⟩ := List.lookup_eq_some_iff.mp h
  rw [he]
  simp

theorem Owns.mem (h : r.Owns ps session) (hc : r.channelOf? session = some i) : i ∈ ps :=
  (h.listens _ (mem_current_of_channelOf? hc)).mpr rfl

theorem Owns.not_mem (h : r.Owns ps session) (hne : other ≠ session)
    (hc : r.channelOf? other = some i) : i ∉ ps :=
  fun hi => hne ((h.listens _ (mem_current_of_channelOf? hc)).mp hi)

/-- A session that is looked at alone listens on the channel that it has, by the place of its number
among the session's own. -/
theorem channelOf?_only (r : Router) (ps : List Nat) (session : SessionId) :
    (r.only ps session).channelOf? session = (r.channelOf? session).map ps.idxOf := by
  simp only [channelOf?, only]
  induction r.current with
  | nil => rfl
  | cons e es ih =>
    obtain ⟨s, k⟩ := e
    by_cases hs : s = session
    · simp [hs]
    · have hne : (session == s) = false := by simpa using fun e : session = s => hs e.symm
      simpa [hs, List.lookup_cons, hne] using ih

theorem Owns.getElem?_only (h : r.Owns ps session) (hi : i ∈ ps) :
    (r.only ps session).channels[ps.idxOf i]? = r.channels[i]? := by
  have hat : ps[ps.idxOf i]? = some i := List.getElem?_idxOf hi
  have hlt := h.exist i hi
  simp [only, hat, List.getElem?_eq_getElem hlt]

/-- A channel that is looked at alone is closed if it is. -/
theorem Owns.isClosed_only (h : r.Owns ps session) (hi : i ∈ ps) :
    (r.only ps session).isClosed (ps.idxOf i) = r.isClosed i := by
  simp only [isClosed, only, List.any_map, List.any_filter]
  refine congrArg (!·) (Bool.eq_iff_iff.mpr ?_)
  simp only [List.any_eq_true, Bool.and_eq_true, decide_eq_true_eq, Function.comp_apply,
    beq_iff_eq]
  constructor
  · rintro ⟨e, he, hs, hidx⟩
    exact ⟨e, he, (List.idxOf_inj ((h.listens e he).mpr hs)).mp hidx⟩
  · rintro ⟨e, he, rfl⟩
    exact ⟨e, he, (h.listens e he).mp hi, rfl⟩

/-! ## 3. What is put into a channel -/

/-- Changing a channel and then looking at the session alone is the same as changing it where it
then stands. -/
theorem Owns.only_set (h : r.Owns ps session) (hi : i ∈ ps) (c : Channel) :
    only ⟨r.channels.set i c, r.current⟩ ps session
      = ⟨(r.only ps session).channels.set (ps.idxOf i) c, (r.only ps session).current⟩ := by
  have hlt := h.exist i hi
  simp only [only, Router.mk.injEq, and_true]
  refine List.ext_getElem? fun k => ?_
  rw [List.getElem?_set]
  by_cases hk : ps.idxOf i = k
  · subst hk
    simp [hlt, List.idxOf_lt_length_iff.mpr hi]
  · rw [if_neg hk]
    simp only [List.getElem?_map]
    cases hj : ps[k]? with
    | none => rfl
    | some j =>
      have hne : i ≠ j := by
        rintro rfl
        obtain ⟨hk', rfl⟩ := List.getElem?_eq_some_iff.mp hj
        exact hk (h.nodup.idxOf_getElem k hk')
      simp [List.getElem?_set_ne hne]

theorem only_set_of_not_mem (hi : i ∉ ps) (c : Channel) :
    only ⟨r.channels.set i c, r.current⟩ ps session = r.only ps session := by
  simp only [only, Router.mk.injEq, and_true]
  refine List.map_congr_left fun j hj => ?_
  have hne : i ≠ j := fun e => hi (e ▸ hj)
  rw [List.getElem?_set_ne hne]

/-! ## 4. Delivering and taking -/

/-- What is emitted to a session comes to the same channel when the session is looked at alone. -/
theorem Owns.only_emit (h : r.Owns ps session) (e : Event) :
    (r.emit session e).1.only ps session = ((r.only ps session).emit session e).1 := by
  unfold emit
  rw [channelOf?_only]
  cases hc : r.channelOf? session with
  | none => rfl
  | some i =>
    have hi := h.mem hc
    simp only [Option.map_some, h.getElem?_only hi]
    split
    · exact h.only_set hi _
    · rfl

theorem Owns.only_emit_of_ne (h : r.Owns ps session) (hne : other ≠ session) (e : Event) :
    (r.emit other e).1.only ps session = r.only ps session := by
  rcases emit_cases r other e with ⟨i, queue, hc, -, he⟩ | ⟨-, he⟩
  · rw [he]
    exact only_set_of_not_mem (h.not_mem hne hc) _
  · rw [he]

/-- A way to listen on a channel. -/
inductive Listening where
  /-- Takes everything. -/
  | all
  /-- Takes the oldest event. -/
  | next
  /-- Goes away. -/
  | leave
  deriving DecidableEq

/-- Listens on a channel; the events that are taken, if any can be. -/
def listen? (r : Router) (i : Nat) : Listening → Option (List Event × Router)
  | .all => r.take? i
  | .next => (r.next? i).map fun (e, r) => ([e], r)
  | .leave => some ([], r.hangUp i)

/-- Listening only changes what is in the channel. -/
theorem listen?_eq_some {how : Listening} {es : List Event} (h : r.listen? i how = some (es, r')) :
    ∃ c, r' = ⟨r.channels.set i c, r.current⟩ := by
  cases how with
  | all =>
    obtain ⟨queue, -, rfl⟩ := take?_eq_some h
    exact ⟨_, rfl⟩
  | next =>
    obtain ⟨⟨e, r₁⟩, hn, he⟩ := Option.map_eq_some_iff.mp h
    obtain ⟨-, rfl⟩ := Prod.mk.inj he
    obtain ⟨queue, -, rfl⟩ := next?_eq_some hn
    exact ⟨_, rfl⟩
  | leave =>
    obtain ⟨-, rfl⟩ := Prod.mk.inj (Option.some.inj h)
    exact ⟨_, rfl⟩

/-- Who listens on a channel of a session hears the same when the session is looked at alone, one
event or all of them. -/
theorem Owns.listen?_only (h : r.Owns ps session) (hi : i ∈ ps) (how : Listening) :
    (r.only ps session).listen? (ps.idxOf i) how
      = (r.listen? i how).map fun (es, r') => (es, r'.only ps session) := by
  cases how with
  | all =>
    simp only [listen?, take?, h.getElem?_only hi]
    split
    · rw [Option.map_some, h.only_set hi]
    · rfl
  | next =>
    simp only [listen?, next?, h.getElem?_only hi]
    split
    · simp only [Option.map_some, h.only_set hi]
    · rfl
  | leave =>
    simp only [listen?, hangUp, Option.map_some, h.only_set hi]

/-! ## 5. Opening and giving up -/

/-- Nobody else is left. -/
theorem others_only (r : Router) (ps : List Nat) (session : SessionId) :
    (r.only ps session).others session = [] := by
  simp only [others, only, List.filter_map]
  exact congrArg _ (filter_ne_of_filter_eq Prod.fst r.current session)

theorem filter_others_self (r : Router) (session : SessionId) :
    (r.others session).filter (·.1 = session) = [] :=
  filter_eq_of_filter_ne Prod.fst r.current session

theorem filter_others_of_ne (r : Router) (hne : other ≠ session) :
    (r.others other).filter (·.1 = session) = r.current.filter (·.1 = session) :=
  filter_eq_of_ne Prod.fst r.current hne

/-- A session opens the same channel when it is looked at alone, though its number is another one
there. -/
theorem Owns.only_subscribe (h : r.Owns ps session) :
    (r.subscribe session).1.only (ps ++ [r.channels.length]) session
      = ((r.only ps session).subscribe session).1 := by
  have hnew : r.channels.length ∉ ps := fun hm => absurd (h.exist _ hm) (by omega)
  have hidx : (ps ++ [r.channels.length]).idxOf r.channels.length = ps.length := by
    simp [List.idxOf_append, hnew]
  rw [subscribe, subscribe, others_only]
  simp only [only, Router.mk.injEq]
  refine ⟨?_, ?_⟩
  · rw [List.map_append]
    congr 1
    · refine List.map_congr_left fun i hi => ?_
      rw [List.getElem?_append_left (h.exist i hi)]
    · simp
  · rw [List.filter_cons_of_pos (by simp), filter_others_self, List.map_singleton, hidx,
      List.length_map]

theorem Owns.only_subscribe_of_ne (h : r.Owns ps session) (hne : other ≠ session) :
    (r.subscribe other).1.only ps session = r.only ps session := by
  simp only [subscribe, only, Router.mk.injEq]
  refine ⟨List.map_congr_left fun i hi => ?_, ?_⟩
  · rw [List.getElem?_append_left (h.exist i hi)]
  · rw [List.filter_cons_of_neg (by simpa using hne), filter_others_of_ne r hne]

theorem only_unsubscribe (r : Router) (ps : List Nat) (session : SessionId) :
    (r.unsubscribe session).1.only ps session = ((r.only ps session).unsubscribe session).1 := by
  rw [unsubscribe, unsubscribe, others_only]
  simp only [only, filter_others_self, List.map_nil]

theorem only_unsubscribe_of_ne (r : Router) (ps : List Nat) (hne : other ≠ session) :
    (r.unsubscribe other).1.only ps session = r.only ps session := by
  simp only [unsubscribe, only, filter_others_of_ne r hne]

theorem Owns.unsubscribe (h : r.Owns ps session) (other : SessionId) :
    (r.unsubscribe other).1.Owns ps session :=
  ⟨h.nodup, h.exist, fun e he => h.listens e (List.mem_of_mem_filter he)⟩

/-- Whether a session listens is a matter of its own channels. -/
theorem unsubscribe_only (r : Router) (ps : List Nat) (session : SessionId) :
    ((r.only ps session).unsubscribe session).2 = (r.unsubscribe session).2 := by
  simp [unsubscribe, channelOf?_only]

end Output.Router
end Scriptorium
