import Mathlib
import Scriptorium.Proofs.Output.Separation

/-!
# What the channels of a router deliver

A session listens on one channel after another.  A channel is *replaced* when its session opens the
next one, it is *given up* when its session unsubscribes, and its listener may go away at any time;
meanwhile events are emitted to sessions, and listeners take what waits for them.  A `History` is
any sequence of such deeds, with whatever sessions and channels in any order.

The history alone says what each channel has to deliver: the events that were emitted to its session
after it was opened and before the first deed that ends it (`emittedDuring`).  `Account` is what
holds of a channel from the moment it is opened, whatever is done afterwards: each deed either
leaves the channel alone, or puts one event at its end, or takes events from its front
(`Step.content`).  From this the main result, `History.delivers`, is put together.
-/
namespace Scriptorium.Output.Router

/-! ## 1. Histories -/

/-- Something that is done with a router. -/
inductive Deed where
  /-- A session opens a channel. -/
  | subscribed (session : SessionId) (channel : Nat)
  /-- A session gives its channel up, if it has one. -/
  | unsubscribed (session : SessionId)
  | emitted (session : SessionId) (e : Event)
  /-- The listener of a channel takes events out of it. -/
  | taken (channel : Nat) (es : List Event)
  /-- The listener of a channel goes away, and what was still in the channel is lost. -/
  | left (channel : Nat) (lost : List Event)
  deriving DecidableEq, Repr

namespace Deed

/-- After it a session does not listen any more on the channel that it had. -/
def replaces (session : SessionId) : Deed → Bool
  | .subscribed s _ | .unsubscribed s => s == session
  | .emitted _ _ | .taken _ _ | .left _ _ => false

/-- The listener of a channel goes away. -/
def hangsUp (i : Nat) : Deed → Bool
  | .left j _ => j == i
  | .subscribed _ _ | .unsubscribed _ | .emitted _ _ | .taken _ _ => false

/-- A channel of a session ends: nothing is put into it any more. -/
def ends (session : SessionId) (i : Nat) (d : Deed) : Bool := d.replaces session || d.hangsUp i

/-- What is emitted to a session. -/
def emittedTo (session : SessionId) : Deed → List Event
  | .emitted s e => if s = session then [e] else []
  | .subscribed _ _ | .unsubscribed _ | .taken _ _ | .left _ _ => []

/-- The channel that is opened. -/
def opened : Deed → List Nat
  | .subscribed _ i => [i]
  | .unsubscribed _ | .emitted _ _ | .taken _ _ | .left _ _ => []

/-- What leaves a channel. -/
def carriedOff (i : Nat) : Deed → List Event
  | .taken j es | .left j es => if j = i then es else []
  | .subscribed _ _ | .unsubscribed _ | .emitted _ _ => []

end Deed

/-- Whether somebody is there to take what is put into a channel. -/
def hasListener (r : Router) (i : Nat) : Bool := r.channels[i]?.any (·.listening)

/-- One deed. -/
inductive Step (r : Router) : Deed → Router → Prop
  | subscribe (session : SessionId) :
      Step r (.subscribed session (r.subscribe session).2) (r.subscribe session).1
  | unsubscribe (session : SessionId) :
      Step r (.unsubscribed session) (r.unsubscribe session).1
  | emit (session : SessionId) (e : Event) : Step r (.emitted session e) (r.emit session e).1
  | takeAll {i : Nat} {es : List Event} {r' : Router} :
      r.take? i = some (es, r') → Step r (.taken i es) r'
  | takeNext {i : Nat} {e : Event} {r' : Router} :
      r.next? i = some (e, r') → Step r (.taken i [e]) r'
  | leave {i : Nat} : r.hasListener i = true → Step r (.left i (r.waiting i)) (r.hangUp i)

/-- What was done since there was no channel, oldest first. -/
inductive History : List Deed → Router → Prop
  | begin : History [] empty
  | next {log : List Deed} {d : Deed} {r r' : Router} :
      History log r → Step r d r' → History (log ++ [d]) r'

/-- What was emitted to the session of a channel as long as the channel was there to take it;
`after` is what was done since the channel was opened. -/
def emittedDuring (session : SessionId) (i : Nat) (after : List Deed) : List Event :=
  (after.takeWhile fun d => !d.ends session i).flatMap (·.emittedTo session)

/-- What was in a channel and is not there any more, oldest first. -/
def carriedOff (i : Nat) (log : List Deed) : List Event := log.flatMap (·.carriedOff i)

/-- A session has opened a channel and did not give it up since. -/
def Subscribed (log : List Deed) (session : SessionId) : Prop :=
  ∃ before i after, log = before ++ .subscribed session i :: after
    ∧ .unsubscribed session ∉ after

variable {r r' : Router} {session other : SessionId} {i j : Nat} {e : Event} {d : Deed}
  {log before after : List Deed}

@[simp] theorem carriedOff_append (i : Nat) (log more : List Deed) :
    carriedOff i (log ++ more) = carriedOff i log ++ carriedOff i more :=
  List.flatMap_append

@[simp] theorem carriedOff_singleton (i : Nat) (d : Deed) :
    carriedOff i [d] = d.carriedOff i := by
  simp [carriedOff]

/-- A deed of a log that one was added to is the one that was added, or was there before. -/
theorem concat_eq_split {d' : Deed} (hl : log ++ [d] = before ++ d' :: after) :
    (before = log ∧ d' = d ∧ after = []) ∨ ∃ rest, log = before ++ d' :: rest
      ∧ after = rest ++ [d] := by
  rcases List.eq_nil_or_concat after with rfl | ⟨rest, last, rfl⟩
  · obtain ⟨rfl, hd⟩ := List.append_inj' hl rfl
    exact .inl ⟨rfl, (List.singleton_inj.mp hd).symm, rfl⟩
  · rw [List.concat_eq_append, ← List.cons_append, ← List.append_assoc] at hl
    obtain ⟨hlog, hd⟩ := List.append_inj' hl rfl
    rw [List.concat_eq_append, List.singleton_inj.mp hd]
    exact .inr ⟨rest, hlog, rfl⟩

/-- What is emitted reaches a channel as long as nothing has ended it. -/
theorem emittedDuring_append (session : SessionId) (i : Nat) (after : List Deed) (d : Deed) :
    emittedDuring session i (after ++ [d])
      = emittedDuring session i after
        ++ if ∀ d ∈ after, d.ends session i = false then d.emittedTo session else [] := by
  unfold emittedDuring
  induction after with
  | nil =>
    by_cases hd : d.ends session i = true
    · cases d <;> simp_all [Deed.ends, Deed.replaces, Deed.hangsUp, Deed.emittedTo]
    · simp [hd]
  | cons first rest ih =>
    by_cases hf : first.ends session i = true
    · simp [hf]
    · simpa [List.takeWhile_cons, hf] using ih

/-! ## 2. One deed and one channel -/

/-- Somebody is there to take what is put into a channel as long as it exists and is not closed. -/
theorem hasListener_iff :
    r.hasListener i = true ↔ ∃ queue, r.channels[i]? = some ⟨queue, true⟩ := by
  unfold hasListener
  constructor
  · intro h
    obtain ⟨⟨queue, listening⟩, hc, rfl⟩ := (Option.any_eq_true _ _).mp h
    exact ⟨queue, hc⟩
  · rintro ⟨queue, hq⟩
    rw [hq]
    rfl

theorem waiting_of_getElem? {queue : List Event} (h : r.channels[i]? = some ⟨queue, true⟩) :
    r.waiting i = queue := by
  rw [waiting, h]

theorem lt_length_of_hasListener (h : r.hasListener i = true) : i < r.channels.length := by
  obtain ⟨queue, hq⟩ := hasListener_iff.mp h
  exact (List.getElem?_eq_some_iff.mp hq).1

/-- What a deed puts into a channel. -/
def Deed.arrivals (r : Router) (i : Nat) : Deed → List Event
  | .emitted s e => if r.channelOf? s = some i ∧ r.hasListener i = true then [e] else []
  | .subscribed _ _ | .unsubscribed _ | .taken _ _ | .left _ _ => []

/-- What a deed may do to a channel. -/
inductive Touches (r : Router) (i : Nat) (d : Deed) (r' : Router) : Prop
  | nothing : r'.channels[i]? = r.channels[i]? → d.carriedOff i = [] → d.arrivals r i = [] →
      d.hangsUp i = false → Touches r i d r'
  | put {queue : List Event} {e : Event} : r.channels[i]? = some ⟨queue, true⟩ →
      r'.channels[i]? = some ⟨queue ++ [e], true⟩ → d.carriedOff i = [] → d.arrivals r i = [e] →
      d.hangsUp i = false → Touches r i d r'
  | took {es rest : List Event} : r.channels[i]? = some ⟨es ++ rest, true⟩ →
      r'.channels[i]? = some ⟨rest, true⟩ → d.carriedOff i = es → d.arrivals r i = [] →
      d.hangsUp i = false → Touches r i d r'
  | hungUp {queue : List Event} : r.channels[i]? = some ⟨queue, true⟩ →
      r'.channels[i]? = some ⟨[], false⟩ → d.carriedOff i = queue → d.arrivals r i = [] →
      d.hangsUp i = true → Touches r i d r'

/-- What is put into the place of a channel is the channel then. -/
theorem getElem?_set_channel {c : Channel} (h : r.channels[i]? = some c) (c' : Channel) :
    (r.channels.set i c')[i]? = some c' :=
  List.getElem?_set_self (List.getElem?_eq_some_iff.mp h).1

/-- The deed is about another channel. -/
theorem Touches.of_ne {c : Channel} (hj : j ≠ i) (hc : d.carriedOff i = [])
    (ha : d.arrivals r i = []) (hh : d.hangsUp i = false) :
    Touches r i d ⟨r.channels.set j c, r.current⟩ :=
  .nothing (List.getElem?_set_ne hj) hc ha hh

/-- **What a deed does to one channel**: it puts something in for the session that listens there,
takes something out, closes it, or leaves it as it was. -/
theorem Step.touches (h : Step r d r') (hi : i < r.channels.length) : Touches r i d r' := by
  cases h with
  | subscribe s => exact .nothing (List.getElem?_append_left hi) rfl rfl rfl
  | unsubscribe s => exact .nothing rfl rfl rfl rfl
  | emit s e =>
    rcases emit_cases r s e with ⟨j, queue, hj, hq, he⟩ | ⟨hlost, he⟩
    · rw [he]
      by_cases hji : j = i
      · subst hji
        exact .put hq (getElem?_set_channel hq _) rfl
          (if_pos ⟨hj, hasListener_iff.mpr ⟨queue, hq⟩⟩) rfl
      · exact .of_ne hji rfl (if_neg fun hc => hji (Option.some.inj (hj.symm.trans hc.1))) rfl
    · rw [he]
      refine .nothing rfl rfl (if_neg ?_) rfl
      rintro ⟨hc, hl⟩
      obtain ⟨queue, hq⟩ := hasListener_iff.mp hl
      exact hlost i queue hc hq
  | @takeAll j es _ ht =>
    obtain ⟨queue, hq, rfl⟩ := take?_eq_some ht
    by_cases hji : j = i
    · subst hji
      have hes : queue = es := by simpa [take?, hq] using ht
      have hall : r.channels[j]? = some ⟨es ++ [], true⟩ := by simpa [hes] using hq
      exact .took hall (getElem?_set_channel hq _) (if_pos rfl) rfl rfl
    · exact .of_ne hji (if_neg hji) rfl rfl
  | @takeNext j e _ hn =>
    obtain ⟨rest, hq, rfl⟩ := next?_eq_some hn
    by_cases hji : j = i
    · subst hji
      have hfirst : r.channels[j]? = some ⟨[e] ++ rest, true⟩ := hq
      exact .took hfirst (getElem?_set_channel hq _) (if_pos rfl) rfl rfl
    · exact .of_ne hji (if_neg hji) rfl rfl
  | @leave j hl =>
    obtain ⟨queue, hq⟩ := hasListener_iff.mp hl
    by_cases hji : j = i
    · subst hji
      exact .hungUp hq (getElem?_set_channel hq _)
        ((if_pos rfl).trans (waiting_of_getElem? hq)) rfl (beq_self_eq_true j)
    · exact .of_ne hji (if_neg hji) rfl (by simpa [Deed.hangsUp] using hji)

/-- **What leaves a channel leaves it at the front, and what is put into it comes to its end.** -/
theorem Step.content (h : Step r d r') (hi : i < r.channels.length) :
    d.carriedOff i ++ r'.waiting i = r.waiting i ++ d.arrivals r i := by
  cases h.touches hi with
  | nothing he hc ha _ => simp [waiting, he, hc, ha]
  | put hq hq' hc ha _ => simp [waiting, hq, hq', hc, ha]
  | took hq hq' hc ha _ => simp [waiting, hq, hq', hc, ha]
  | hungUp hq hq' hc ha _ => simp [waiting, hq, hq', hc, ha]

/-- The listener of a channel is there until it goes away. -/
theorem Step.hasListener (h : Step r d r') (hi : i < r.channels.length) :
    r'.hasListener i = (r.hasListener i && !d.hangsUp i) := by
  cases h.touches hi with
  | nothing he _ _ hh => simp [Router.hasListener, he, hh]
  | put hq hq' _ _ hh => simp [Router.hasListener, hq, hq', hh]
  | took hq hq' _ _ hh => simp [Router.hasListener, hq, hq', hh]
  | hungUp hq hq' _ _ hh => simp [Router.hasListener, hq, hq', hh]

/-- Only a deed of the session itself changes the channel that it listens on. -/
theorem Step.channelOf?_of_not_replaces (h : Step r d r') (hd : d.replaces session = false) :
    r'.channelOf? session = r.channelOf? session := by
  cases h with
  | subscribe s =>
    rw [channelOf?_subscribe, if_neg]
    rintro rfl
    simp [Deed.replaces] at hd
  | unsubscribe s =>
    rw [channelOf?_unsubscribe, if_neg]
    rintro rfl
    simp [Deed.replaces] at hd
  | emit s e => rw [channelOf?, current_emit, channelOf?]
  | takeAll ht =>
    obtain ⟨queue, -, rfl⟩ := take?_eq_some ht
    rfl
  | takeNext hn =>
    obtain ⟨queue, -, rfl⟩ := next?_eq_some hn
    rfl
  | leave _ => rfl

/-- A session that replaces its channel does not come back to one that was there. -/
theorem Step.channelOf?_of_replaces (h : Step r d r') (hd : d.replaces session = true)
    (hi : i < r.channels.length) : r'.channelOf? session ≠ some i := by
  cases h with
  | subscribe s =>
    obtain rfl : s = session := by simpa [Deed.replaces] using hd
    rw [channelOf?_subscribe, if_pos rfl]
    simpa using Nat.ne_of_gt hi
  | unsubscribe s =>
    obtain rfl : s = session := by simpa [Deed.replaces] using hd
    rw [channelOf?_unsubscribe, if_pos rfl]
    simp
  | _ => exact absurd hd (by simp [Deed.replaces])

/-- A channel that is opened gets the next number. -/
theorem Step.range_length (h : Step r d r') :
    List.range r'.channels.length = List.range r.channels.length ++ d.opened := by
  cases h with
  | subscribe s => simp [Router.subscribe, Deed.opened, List.range_succ]
  | unsubscribe s => simp [Router.unsubscribe, Deed.opened]
  | emit s e => simp [Deed.opened]
  | takeAll ht =>
    obtain ⟨queue, -, rfl⟩ := take?_eq_some ht
    simp [Deed.opened]
  | takeNext hn =>
    obtain ⟨queue, -, rfl⟩ := next?_eq_some hn
    simp [Deed.opened]
  | leave _ => simp [hangUp, Deed.opened]

theorem Step.length_le (h : Step r d r') : r.channels.length ≤ r'.channels.length := by
  have hlen := congrArg List.length h.range_length
  simp only [List.length_append, List.length_range] at hlen
  omega

/-- Channels are numbered as they are opened, and no number is given twice. -/
theorem History.range_length (h : History log r) :
    log.flatMap (·.opened) = List.range r.channels.length := by
  induction h with
  | begin => rfl
  | next _ hstep ih => rw [List.flatMap_append, ih, hstep.range_length, List.flatMap_singleton]

/-! ## 3. The channels that sessions listen on -/

/-- A session listens on one channel, which exists and which no other session listens on. -/
structure Tidy (r : Router) : Prop where
  sessions : (r.current.map (·.1)).Nodup
  inRange : r.InRange
  alone : ∀ {session other i}, r.channelOf? session = some i → r.channelOf? other = some i →
    other = session

namespace Tidy

theorem empty : Tidy Router.empty :=
  ⟨by simp [Router.empty], inRange_empty, fun h => absurd h (by simp [Router.empty, channelOf?])⟩

/-- What only changes what is in the channels. -/
theorem congr (h : r.Tidy) (hc : r'.current = r.current)
    (hl : r'.channels.length = r.channels.length) : r'.Tidy where
  sessions := hc ▸ h.sessions
  inRange := h.inRange.congr hc hl
  alone {session other i} hi ho := by
    rw [channelOf?, hc, ← channelOf?] at hi ho
    exact h.alone hi ho

theorem sessions_others (h : r.Tidy) (session : SessionId) :
    ((r.others session).map (·.1)).Nodup :=
  h.sessions.sublist (List.filter_sublist.map _)

/-- A session that goes away leaves the others alone on their channels. -/
theorem unsubscribe (h : r.Tidy) (session : SessionId) : (r.unsubscribe session).1.Tidy where
  sessions := h.sessions_others session
  inRange := h.inRange.unsubscribe session
  alone {s other i} hi ho := by
    rw [channelOf?_unsubscribe] at hi ho
    split at hi <;> split at ho
    · exact absurd hi (by simp)
    · exact absurd hi (by simp)
    · exact absurd ho (by simp)
    · exact h.alone hi ho

/-- A session that subscribes gets a channel that nobody listens on, as its number is new. -/
theorem subscribe (h : r.Tidy) (session : SessionId) : (r.subscribe session).1.Tidy where
  sessions := by
    refine List.nodup_cons.mpr ⟨fun hm => ?_, h.sessions_others session⟩
    obtain ⟨entry, hentry, he⟩ := List.mem_map.mp hm
    simpa [he] using List.of_mem_filter hentry
  inRange := h.inRange.subscribe session
  alone {s other i} hi ho := by
    rw [channelOf?_subscribe] at hi ho
    split at hi <;> split at ho
    · rename_i hs ho'
      rw [hs, ho']
    · -- The number of the new channel is that of no channel that was there.
      obtain rfl := Option.some.inj hi
      exact absurd (h.inRange other _ ho) (Nat.lt_irrefl _)
    · obtain rfl := Option.some.inj ho
      exact absurd (h.inRange s _ hi) (Nat.lt_irrefl _)
    · exact h.alone hi ho

/-- Each deed keeps the channels tidy. -/
theorem step (h : r.Tidy) (hstep : Step r d r') : r'.Tidy := by
  cases hstep with
  | subscribe s => exact h.subscribe s
  | unsubscribe s => exact h.unsubscribe s
  | emit s e => exact h.congr (by simp) (by simp)
  | takeAll ht =>
    obtain ⟨queue, -, rfl⟩ := take?_eq_some ht
    exact h.congr rfl (by simp)
  | takeNext hn =>
    obtain ⟨queue, -, rfl⟩ := next?_eq_some hn
    exact h.congr rfl (by simp)
  | leave _ => exact h.congr rfl (by simp [hangUp])

theorem channelOf?_eq_some (h : r.Tidy) :
    r.channelOf? session = some i ↔ (session, i) ∈ r.current := by
  refine ⟨mem_current_of_channelOf?, fun hm => ?_⟩
  obtain ⟨before, after, he⟩ := List.append_of_mem hm
  refine List.lookup_eq_some_iff.mpr ⟨before, after, he, fun entry hentry => ?_⟩
  have hs := h.sessions
  rw [he, List.map_append, List.map_cons, List.nodup_append] at hs
  simpa using (hs.2.2 _ (List.mem_map_of_mem hentry) _ List.mem_cons_self).symm

/-- A channel is closed as soon as no session listens on it any more. -/
theorem isClosed_eq_false (h : r.Tidy) :
    r.isClosed i = false ↔ ∃ session, r.channelOf? session = some i := by
  simp [isClosed, h.channelOf?_eq_some]

end Tidy

theorem History.tidy (h : History log r) : r.Tidy := by
  induction h with
  | begin => exact .empty
  | next _ hstep ih => exact ih.step hstep

/-! ## 4. The account of one channel -/

/-- What holds of a channel that a session opened, where `after` is what was done since. -/
structure Account (session : SessionId) (i : Nat) (log after : List Deed) (r : Router) : Prop where
  lt_length : i < r.channels.length
  current : r.channelOf? session = some i ↔ ∀ d ∈ after, d.replaces session = false
  alone : ∀ other, r.channelOf? other = some i → other = session
  listener : r.hasListener i = true ↔ ∀ d ∈ after, d.hangsUp i = false
  content : carriedOff i log ++ r.waiting i = emittedDuring session i after

/-- As long as nothing has ended a channel, its session listens on it, and its listener is there. -/
theorem Account.open_iff (h : Account session i log after r) :
    (r.channelOf? session = some i ∧ r.hasListener i = true)
      ↔ ∀ d ∈ after, d.ends session i = false := by
  rw [h.current, h.listener]
  simp only [Deed.ends, Bool.or_eq_false_iff]
  exact ⟨fun ⟨h₁, h₂⟩ d hd => ⟨h₁ d hd, h₂ d hd⟩,
    fun h => ⟨fun d hd => (h d hd).1, fun d hd => (h d hd).2⟩⟩

/-- What is put into a channel is what is emitted to its session as long as nothing has ended it. -/
theorem Account.arrivals (h : Account session i log after r) (d : Deed) :
    d.arrivals r i
      = if ∀ d ∈ after, d.ends session i = false then d.emittedTo session else [] := by
  rw [if_congr h.open_iff.symm rfl rfl]
  cases d with
  | emitted s e =>
    by_cases hs : s = session
    · simp [Deed.arrivals, Deed.emittedTo, hs]
    · have hne : r.channelOf? s ≠ some i := fun hi => hs (h.alone s hi)
      simp [Deed.arrivals, Deed.emittedTo, hs, hne]
  | _ => simp [Deed.arrivals, Deed.emittedTo]

/-- Each deed keeps the account of a channel: what has arrived is what was carried off and what
still waits, in that order. -/
theorem Account.step (h : Account session i log after r) (hstep : Step r d r') :
    Account session i (log ++ [d]) (after ++ [d]) r' where
  lt_length := Nat.lt_of_lt_of_le h.lt_length hstep.length_le
  current := by
    rw [List.forall_mem_append, List.forall_mem_singleton, ← h.current]
    by_cases hd : d.replaces session = true
    · simp [hstep.channelOf?_of_replaces hd h.lt_length, hd]
    · have hd : d.replaces session = false := by simpa using hd
      simp [hstep.channelOf?_of_not_replaces hd, hd]
  alone other ho := by
    by_cases hd : d.replaces other = true
    · exact absurd ho (hstep.channelOf?_of_replaces hd h.lt_length)
    · rw [hstep.channelOf?_of_not_replaces (by simpa using hd)] at ho
      exact h.alone other ho
  listener := by
    rw [List.forall_mem_append, List.forall_mem_singleton, ← h.listener,
      hstep.hasListener h.lt_length]
    simp
  content := by
    rw [carriedOff_append, carriedOff_singleton, List.append_assoc, hstep.content h.lt_length,
      ← List.append_assoc, h.content, h.arrivals, emittedDuring_append]

/-- Nothing leaves a channel that is not there. -/
theorem Step.carriedOff_of_le (h : Step r d r') (hi : r.channels.length ≤ i) :
    d.carriedOff i = [] := by
  cases h with
  | subscribe s => rfl
  | unsubscribe s => rfl
  | emit s e => rfl
  | takeAll ht =>
    obtain ⟨queue, hq, -⟩ := take?_eq_some ht
    have := (List.getElem?_eq_some_iff.mp hq).1
    exact if_neg (by omega)
  | takeNext hn =>
    obtain ⟨queue, hq, -⟩ := next?_eq_some hn
    have := (List.getElem?_eq_some_iff.mp hq).1
    exact if_neg (by omega)
  | leave hl =>
    have := lt_length_of_hasListener hl
    exact if_neg (by omega)

theorem History.carriedOff_of_le (h : History log r) (hi : r.channels.length ≤ i) :
    carriedOff i log = [] := by
  induction h with
  | begin => rfl
  | next _ hstep ih =>
    rw [carriedOff_append, carriedOff_singleton, ih (Nat.le_trans hstep.length_le hi),
      hstep.carriedOff_of_le (Nat.le_trans hstep.length_le hi), List.append_nil]

/-- A channel that is opened. -/
theorem History.account_subscribe (h : History log r) (session : SessionId) :
    Account session (r.subscribe session).2 (log ++ [.subscribed session (r.subscribe session).2])
      [] (r.subscribe session).1 := by
  obtain ⟨hs, hw⟩ := h.tidy.inRange.serves_subscribe session
  refine ⟨hs.lt_length, by simpa using hs.current, hs.alone, ?_, ?_⟩
  · simpa using hasListener_iff.mpr hs.listening
  · have hnone : carriedOff (r.subscribe session).2 log = [] := h.carriedOff_of_le (Nat.le_refl _)
    rw [carriedOff_append, hnone, hw]
    rfl

/-- Every channel has its account. -/
theorem History.account (h : History log r)
    (hl : log = before ++ .subscribed session i :: after) : Account session i log after r := by
  induction h generalizing after with
  | begin => simp at hl
  | @next log d r r' h hstep ih =>
    rcases concat_eq_split hl with ⟨rfl, rfl, rfl⟩ | ⟨rest, hlog, rfl⟩
    · cases hstep
      exact h.account_subscribe session
    · exact (ih hlog).step hstep

/-- The channel that a session listens on was opened by it. -/
theorem History.opened (h : History log r) (hc : r.channelOf? session = some i) :
    ∃ before after, log = before ++ .subscribed session i :: after := by
  induction h with
  | begin => exact absurd hc (by simp [empty, channelOf?])
  | @next log d r r' h hstep ih =>
    by_cases hd : d.replaces session = true
    · cases hstep with
      | subscribe s =>
        obtain rfl : s = session := by simpa [Deed.replaces] using hd
        rw [channelOf?_subscribe, if_pos rfl] at hc
        obtain rfl := Option.some.inj hc
        exact ⟨log, [], rfl⟩
      | unsubscribe s =>
        obtain rfl : s = session := by simpa [Deed.replaces] using hd
        rw [channelOf?_unsubscribe, if_pos rfl] at hc
        exact absurd hc (by simp)
      | _ => exact absurd hd (by simp [Deed.replaces])
    · rw [hstep.channelOf?_of_not_replaces (by simpa using hd)] at hc
      obtain ⟨before, after, rfl⟩ := ih hc
      exact ⟨before, after ++ [d], by simp⟩

/-! ## 5. Who is subscribed -/

theorem Subscribed.of_append (h : Subscribed (log ++ [d]) session) :
    (∃ i, d = .subscribed session i) ∨ d ≠ .unsubscribed session ∧ Subscribed log session := by
  obtain ⟨before, i, after, hl, hnot⟩ := h
  rcases concat_eq_split hl with ⟨-, hd, -⟩ | ⟨rest, hlog, rfl⟩
  · exact .inl ⟨i, hd.symm⟩
  · simp only [List.mem_append, List.mem_singleton, not_or] at hnot
    exact .inr ⟨fun he => hnot.2 he.symm, before, i, rest, hlog, hnot.1⟩

/-- A session keeps a channel as long as it does not give it up; when it subscribes again it has
another one. -/
theorem Step.keeps_channel (h : Step r d r') (hd : d ≠ .unsubscribed session)
    (hc : ∃ i, r.channelOf? session = some i) : ∃ i, r'.channelOf? session = some i := by
  by_cases hr : d.replaces session = true
  · cases h with
    | subscribe s =>
      obtain rfl : s = session := by simpa [Deed.replaces] using hr
      exact ⟨_, by rw [channelOf?_subscribe, if_pos rfl]⟩
    | unsubscribe s =>
      obtain rfl : s = session := by simpa [Deed.replaces] using hr
      exact absurd rfl hd
    | _ => exact absurd hr (by simp [Deed.replaces])
  · rwa [h.channelOf?_of_not_replaces (by simpa using hr)]

/-- A session listens on a channel if it opened one and did not give it up, whether or not the
listener is there. -/
theorem History.subscribed_iff (h : History log r) :
    Subscribed log session ↔ ∃ i, r.channelOf? session = some i := by
  constructor
  · intro hs
    induction h with
    | begin =>
      obtain ⟨before, i, after, hl, -⟩ := hs
      simp at hl
    | @next log d r r' h hstep ih =>
      rcases hs.of_append with ⟨i, rfl⟩ | ⟨hd, hs'⟩
      · cases hstep
        exact ⟨_, by rw [channelOf?_subscribe, if_pos rfl]⟩
      · exact hstep.keeps_channel hd (ih hs')
  · rintro ⟨i, hc⟩
    obtain ⟨before, after, hl⟩ := h.opened hc
    refine ⟨before, i, after, hl, fun hm => ?_⟩
    simpa [Deed.replaces] using (h.account hl).current.mp hc _ hm

/-! ## 6. What a listener is told -/

/-- What the listener of a channel is told when it asks for the next event. -/
inductive Receipt where
  | event (e : Event)
  /-- There is nothing now. -/
  | pending
  /-- There is nothing, and nothing will come. -/
  | closed
  deriving DecidableEq, Repr

/-- The listener of a channel asks for the next event. -/
def receive (r : Router) (i : Nat) : Receipt × Router :=
  match r.next? i with
  | some (e, r') => (.event e, r')
  | none => (if r.isClosed i then .closed else .pending, r)

/-- What the listener of a channel is told when it asks `n` times. -/
def received (r : Router) (i : Nat) : Nat → List Receipt
  | 0 => []
  | n + 1 => (r.receive i).1 :: (r.receive i).2.received i n

theorem received_of_empty (hc : r.isClosed i = true) (hw : r.next? i = none) (n : Nat) :
    r.received i n = List.replicate n .closed := by
  have hr : r.receive i = (.closed, r) := by simp [receive, hw, hc]
  induction n with
  | zero => rfl
  | succ n ih => rw [received, hr, ih, List.replicate_succ]

/-- **A closed channel gives what waits in it, and then it reports that it is closed.** -/
theorem received_of_isClosed {queue : List Event} (hc : r.isClosed i = true)
    (hq : r.channels[i]? = some ⟨queue, true⟩) (n : Nat) :
    r.received i (queue.length + n) = queue.map .event ++ List.replicate n .closed := by
  induction queue generalizing r with
  | nil => simpa using received_of_empty hc (by simp [next?, hq]) n
  | cons e rest ih =>
    have hn : r.next? i = some (e, ⟨r.channels.set i ⟨rest, true⟩, r.current⟩) := by
      simp [next?, hq]
    have hr : r.receive i = (.event e, ⟨r.channels.set i ⟨rest, true⟩, r.current⟩) := by
      simp [receive, hn]
    have hrest := ih (r := ⟨r.channels.set i ⟨rest, true⟩, r.current⟩) hc
      (getElem?_set_channel hq _)
    rw [List.length_cons, Nat.add_right_comm, received, hr, hrest]
    rfl

/-! ## 7. What becomes of events and channels -/

/-- The answer to an event is whether the session listens on a channel and its listener is there. -/
theorem emit_iff_listener (r : Router) (session : SessionId) (e : Event) :
    (r.emit session e).2 = true
      ↔ ∃ i, r.channelOf? session = some i ∧ r.hasListener i = true := by
  unfold emit
  cases hc : r.channelOf? session with
  | none => simp
  | some i =>
    simp only [Option.some.injEq, exists_eq_left', hasListener_iff]
    split
    · rename_i queue hq
      exact iff_of_true rfl ⟨queue, hq⟩
    · rename_i hnot
      exact iff_of_false Bool.false_ne_true fun ⟨queue, hq⟩ => hnot queue hq

/-- The answer to an event is whether it was put at the end of what a listener takes. -/
theorem emit_iff (r : Router) (session : SessionId) (e : Event) :
    (r.emit session e).2 = true
      ↔ ∃ i, (r.emit session e).1.hasListener i = true
          ∧ (r.emit session e).1.waiting i = r.waiting i ++ [e] := by
  rw [emit_iff_listener]
  constructor
  · rintro ⟨i, hc, hl⟩
    have hi := lt_length_of_hasListener hl
    refine ⟨i, by rw [(Step.emit session e).hasListener hi, hl]; rfl, ?_⟩
    have hcontent := (Step.emit session e).content hi
    rwa [Deed.arrivals, if_pos ⟨hc, hl⟩] at hcontent
  · rintro ⟨i, -, hw⟩
    rcases emit_cases r session e with ⟨j, queue, hj, hq, -⟩ | ⟨-, he⟩
    · exact ⟨j, hj, hasListener_iff.mpr ⟨queue, hq⟩⟩
    · rw [he] at hw
      simp at hw

theorem emit_eq_of_unheard (h : (r.emit session e).2 = false) : (r.emit session e).1 = r := by
  rcases emit_cases r session e with ⟨i, queue, hi, hq, -⟩ | ⟨-, he⟩
  · have htrue := (emit_iff_listener r session e).mpr ⟨i, hi, hasListener_iff.mpr ⟨queue, hq⟩⟩
    exact absurd (htrue.symm.trans h) (by simp)
  · exact he

/-- The answer to an event is whether there is a channel of the session that nothing has ended. -/
theorem History.emit_iff_open (h : History log r) (session : SessionId) (e : Event) :
    (r.emit session e).2 = true
      ↔ ∃ before i after, log = before ++ .subscribed session i :: after
          ∧ ∀ d ∈ after, d.ends session i = false := by
  rw [emit_iff_listener]
  constructor
  · rintro ⟨i, hc, hl⟩
    obtain ⟨before, after, hlog⟩ := h.opened hc
    exact ⟨before, i, after, hlog, (h.account hlog).open_iff.mp ⟨hc, hl⟩⟩
  · rintro ⟨before, i, after, hlog, hopen⟩
    exact ⟨i, (h.account hlog).open_iff.mpr hopen⟩

/-- A channel is closed as soon as its session has replaced it or given it up. -/
theorem History.isClosed_iff (h : History log r)
    (hl : log = before ++ .subscribed session i :: after) :
    r.isClosed i = true ↔ ∃ d ∈ after, d.replaces session = true := by
  have ha := h.account hl
  rw [← not_iff_not, Bool.not_eq_true, h.tidy.isClosed_eq_false]
  have hcurrent : (∃ other, r.channelOf? other = some i) ↔ r.channelOf? session = some i :=
    ⟨fun ⟨other, ho⟩ => ha.alone other ho ▸ ho, fun hc => ⟨session, hc⟩⟩
  rw [hcurrent, ha.current]
  simp

/-- A session has one open channel at most: an older one was closed when the next was opened. -/
theorem History.eq_of_open (h : History log r) (hi : .subscribed session i ∈ log)
    (hj : .subscribed session j ∈ log) (hci : r.isClosed i = false) (hcj : r.isClosed j = false) :
    i = j := by
  have hcurrent : ∀ {k}, .subscribed session k ∈ log → r.isClosed k = false →
      r.channelOf? session = some k := by
    intro k hk hc
    obtain ⟨before, after, hl⟩ := List.append_of_mem hk
    obtain ⟨other, ho⟩ := h.tidy.isClosed_eq_false.mp hc
    exact (h.account hl).alone other ho ▸ ho
  exact Option.some.inj ((hcurrent hi hci).symm.trans (hcurrent hj hcj))

/-- What the listener of a channel that was replaced or given up is told. -/
theorem History.received_of_replaced (h : History log r)
    (hl : log = before ++ .subscribed session i :: after)
    (hd : ∃ d ∈ after, d.replaces session = true) (hh : ∀ d ∈ after, d.hangsUp i = false)
    (n : Nat) :
    r.received i ((r.waiting i).length + n)
      = (r.waiting i).map .event ++ List.replicate n .closed := by
  obtain ⟨queue, hq⟩ := hasListener_iff.mp ((h.account hl).listener.mpr hh)
  rw [waiting_of_getElem? hq]
  exact received_of_isClosed ((h.isClosed_iff hl).mpr hd) hq n

theorem History.unsubscribe_iff (h : History log r) :
    (r.unsubscribe session).2 = true ↔ Subscribed log session := by
  rw [h.subscribed_iff, ← Option.isSome_iff_exists]
  rfl

/-- The sessions that are subscribed can be counted. -/
theorem History.exists_subscribers (h : History log r) :
    ∃ sessions : Finset SessionId, (∀ session, session ∈ sessions ↔ Subscribed log session)
      ∧ r.subscriberCount = sessions.card := by
  refine ⟨(r.current.map (·.1)).toFinset, fun session => ?_, ?_⟩
  · rw [h.subscribed_iff, List.mem_toFinset]
    simp [h.tidy.channelOf?_eq_some]
  · rw [List.toFinset_card_of_nodup h.tidy.sessions, List.length_map]
    rfl

/-- **What a router does, said of its history.**

1. What was taken out of a channel, then what was lost with its listener, then what waits in it, are
   the events that were emitted to its session after the channel was opened and before it was
   replaced, given up or left by its listener: all of them, in this order, each once.
2. Of the channels that a session opened, at most one is not closed.
3. An event is answered with `true` exactly if it was put at the end of what a listener takes, and
   exactly if the session has a channel that nothing has ended; else the router is as it was.
4. A channel is closed exactly if it was replaced or given up; its listener, if it is still there,
   gets what waits in the channel, and from then on it is told that the channel is closed.
5. Who unsubscribes is answered with `true` exactly if it is subscribed.
6. The number of subscribers is that of the sessions that are subscribed. -/
theorem History.delivers (h : History log r) :
    (∀ before session i after, log = before ++ .subscribed session i :: after →
      carriedOff i log ++ r.waiting i = emittedDuring session i after)
    ∧ (∀ session i j, .subscribed session i ∈ log → .subscribed session j ∈ log →
      r.isClosed i = false → r.isClosed j = false → i = j)
    ∧ (∀ session e,
      ((r.emit session e).2 = true ↔ ∃ i, (r.emit session e).1.hasListener i = true
          ∧ (r.emit session e).1.waiting i = r.waiting i ++ [e])
      ∧ ((r.emit session e).2 = true ↔ ∃ before i after,
          log = before ++ .subscribed session i :: after ∧ ∀ d ∈ after, d.ends session i = false)
      ∧ ((r.emit session e).2 = false → (r.emit session e).1 = r))
    ∧ (∀ before session i after, log = before ++ .subscribed session i :: after →
      (r.isClosed i = true ↔ ∃ d ∈ after, d.replaces session = true)
      ∧ ((∃ d ∈ after, d.replaces session = true) → (∀ d ∈ after, d.hangsUp i = false) →
        ∀ n, r.received i ((r.waiting i).length + n)
          = (r.waiting i).map .event ++ List.replicate n .closed))
    ∧ (∀ session, (r.unsubscribe session).2 = true ↔ Subscribed log session)
    ∧ ∃ sessions : Finset SessionId, (∀ session, session ∈ sessions ↔ Subscribed log session)
      ∧ r.subscriberCount = sessions.card := by
  refine ⟨fun before session i after hl => (h.account hl).content,
    fun session i j => h.eq_of_open, fun session e => ?_, fun before session i after hl => ?_,
    fun session => h.unsubscribe_iff, h.exists_subscribers⟩
  · exact ⟨emit_iff r session e, h.emit_iff_open session e, emit_eq_of_unheard⟩
  · exact ⟨h.isClosed_iff hl, h.received_of_replaced hl⟩

/-- An event of the sample below. -/
def sampleEvent (n : Nat) : Event := ⟨.ofNat n, .stdout, "line"⟩

/-- The session `a` opens a channel, replaces it by another, and the listener of the second goes
away; before and after each of these an event is emitted to the session. -/
def sampleDeeds : List Deed :=
  [.emitted "a" (sampleEvent 0), .subscribed "a" 0, .emitted "a" (sampleEvent 1),
    .subscribed "b" 1, .emitted "a" (sampleEvent 2), .taken 0 [sampleEvent 1], .subscribed "a" 2,
    .emitted "a" (sampleEvent 3), .left 2 [sampleEvent 3], .emitted "a" (sampleEvent 4)]

/-- The router after this. -/
def sampleRouter : Router :=
  ⟨[⟨[sampleEvent 2], true⟩, ⟨[], true⟩, ⟨[], false⟩], [("a", 2), ("b", 1)]⟩

/-- The deeds of the sample are a history, and lead to the router that is given. -/
theorem sample_history : History sampleDeeds sampleRouter := by
  have hnext : next? ⟨[⟨[sampleEvent 1, sampleEvent 2], true⟩, ⟨[], true⟩], [("b", 1), ("a", 0)]⟩ 0
      = some (sampleEvent 1, ⟨[⟨[sampleEvent 2], true⟩, ⟨[], true⟩], [("b", 1), ("a", 0)]⟩) := by
    cbv
  have h := History.begin
    |>.next (.emit "a" (sampleEvent 0))
    |>.next (.subscribe "a")
    |>.next (.emit "a" (sampleEvent 1))
    |>.next (.subscribe "b")
    |>.next (.emit "a" (sampleEvent 2))
    |>.next (.takeNext hnext)
    |>.next (.subscribe "a")
    |>.next (.emit "a" (sampleEvent 3))
    |>.next (.leave (i := 2) (by cbv))
    |>.next (.emit "a" (sampleEvent 4))
  exact h

/-- The replaced channel gives what was emitted while it was there, what is emitted after the
listener went away is not heard, and the session is still subscribed. -/
theorem replaced_channel_gives_rest :
    carriedOff 0 sampleDeeds ++ sampleRouter.waiting 0 = [sampleEvent 1, sampleEvent 2]
      ∧ sampleRouter.received 0 3 = [.event (sampleEvent 2), .closed, .closed]
      ∧ (sampleRouter.emit "a" (sampleEvent 5)).1 = sampleRouter
      ∧ Subscribed sampleDeeds "a"
      ∧ ∃ sessions : Finset SessionId,
        (∀ session, session ∈ sessions ↔ Subscribed sampleDeeds session) ∧ sessions.card = 2 := by
  obtain ⟨hcontent, -, hemit, hclosed, hunsubscribe, sessions, hmem, hcount⟩ :=
    sample_history.delivers
  have hsplit : sampleDeeds = [.emitted "a" (sampleEvent 0)] ++ .subscribed "a" 0 ::
      [.emitted "a" (sampleEvent 1), .subscribed "b" 1, .emitted "a" (sampleEvent 2),
        .taken 0 [sampleEvent 1], .subscribed "a" 2, .emitted "a" (sampleEvent 3),
        .left 2 [sampleEvent 3], .emitted "a" (sampleEvent 4)] := rfl
  refine ⟨(hcontent _ _ _ _ hsplit).trans (by cbv), ?_, (hemit "a" (sampleEvent 5)).2.2 (by cbv),
    (hunsubscribe "a").mp (by cbv), sessions, hmem, hcount.symm.trans (by cbv)⟩
  exact (hclosed _ _ _ _ hsplit).2 ⟨.subscribed "a" 2, by simp, by cbv⟩ (by simp [Deed.hangsUp]) 2

end Scriptorium.Output.Router
