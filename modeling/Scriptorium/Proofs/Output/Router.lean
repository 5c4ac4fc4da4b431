import Scriptorium.Output.Router

/-!
# What waits in a channel

A channel keeps what was delivered to it until somebody takes it.  `Router.waiting` is what is there
to be taken, and `Router.Serves` says that a session listens on a channel that is its own and nobody
else's; a channel that is opened is of this kind as long as the channels that sessions listen on are
among those that exist (`InRange`).

As long as a channel serves a session, what is delivered to the session goes to the end of what
waits there, and what other sessions do leaves it alone.  When the session has given its channel up,
what waits there can still be taken, and nothing is added to it (`Router.GivenUp`).
-/
namespace Scriptorium.Output.Router

/-- What is there to be taken out of a channel. -/
def waiting (r : Router) (i : Nat) : List Event :=
  match r.channels[i]? with
  | some ⟨queue, true⟩ => queue
  | _ => []

/-- Channel `i` is the one that a session listens on, and no other session does. -/
structure Serves (r : Router) (session : SessionId) (i : Nat) : Prop where
  current : r.channelOf? session = some i
  listening : ∃ queue, r.channels[i]? = some ⟨queue, true⟩
  alone : ∀ other, r.channelOf? other = some i → other = session

/-- The channels that sessions listen on exist. -/
def InRange (r : Router) : Prop :=
  ∀ session i, r.channelOf? session = some i → i < r.channels.length

variable {r r' : Router} {session other : SessionId} {i j : Nat} {e : Event}

/-! ## 1. Which channel a session listens on -/

/-- What is kept for the other sessions is found as before, and nothing is found for this one. -/
theorem lookup_others (r : Router) (session other : SessionId) :
    (r.others session).lookup other = if other = session then none else r.channelOf? other := by
  unfold others channelOf?
  induction r.current with
  | nil => simp
  | cons entry rest ih =>
    obtain ⟨s, k⟩ := entry
    by_cases hs : s = session
    · by_cases ho : other = session
      · simpa [hs, ho] using ih
      · have hne : (other == session) = false := by simpa using ho
        simpa [hs, ho, List.lookup_cons, hne] using ih
    · by_cases ho : other = s
      · have hns : other ≠ session := ho ▸ hs
        simp [hs, ho]
      · have hne : (other == s) = false := by simpa using ho
        simpa [hs, List.lookup_cons, hne] using ih

theorem channelOf?_subscribe (r : Router) (session other : SessionId) :
    (r.subscribe session).1.channelOf? other
      = if other = session then some r.channels.length else r.channelOf? other := by
  have hl := lookup_others r session other
  by_cases h : other = session
  · simp [subscribe, channelOf?, h]
  · have hne : (other == session) = false := by simpa using h
    simpa [subscribe, channelOf?, List.lookup_cons, hne, h] using hl

theorem channelOf?_unsubscribe (r : Router) (session other : SessionId) :
    (r.unsubscribe session).1.channelOf? other
      = if other = session then none else r.channelOf? other :=
  lookup_others r session other

/-- An event that somebody is there to take goes to the end of its channel; any other is lost. -/
theorem emit_cases (r : Router) (session : SessionId) (e : Event) :
    (∃ i queue, r.channelOf? session = some i ∧ r.channels[i]? = some ⟨queue, true⟩
        ∧ (r.emit session e).1 = ⟨r.channels.set i ⟨queue ++ [e], true⟩, r.current⟩)
      ∨ ((∀ i queue, r.channelOf? session = some i → r.channels[i]? ≠ some ⟨queue, true⟩)
        ∧ (r.emit session e).1 = r) := by
  unfold emit
  split
  · rename_i hn
    exact .inr ⟨fun i queue hi => absurd (hn.symm.trans hi) (by simp), rfl⟩
  · rename_i i hi
    split
    · rename_i queue hq
      exact .inl ⟨i, queue, hi, hq, rfl⟩
    · rename_i hq
      refine .inr ⟨fun k queue hk hlist => hq queue ?_, rfl⟩
      rwa [Option.some.inj (hi.symm.trans hk)]

@[simp] theorem current_emit (r : Router) (session : SessionId) (e : Event) :
    (r.emit session e).1.current = r.current := by
  rcases emit_cases r session e with ⟨i, queue, -, -, he⟩ | ⟨-, he⟩ <;> rw [he]

@[simp] theorem length_channels_emit (r : Router) (session : SessionId) (e : Event) :
    (r.emit session e).1.channels.length = r.channels.length := by
  rcases emit_cases r session e with ⟨i, queue, -, -, he⟩ | ⟨-, he⟩ <;> rw [he]
  simp

theorem next?_eq_some (h : r.next? i = some (e, r')) :
    ∃ queue, r.channels[i]? = some ⟨e :: queue, true⟩
      ∧ r' = ⟨r.channels.set i ⟨queue, true⟩, r.current⟩ := by
  unfold next? at h
  split at h
  · rename_i first queue hq
    obtain ⟨rfl, rfl⟩ := Prod.mk.inj (Option.some.inj h)
    exact ⟨queue, hq, rfl⟩
  · exact absurd h (by simp)

theorem waiting_of_next? (h : r.next? i = none) : r.waiting i = [] := by
  unfold waiting
  unfold next? at h
  split
  · rename_i queue hq
    cases queue with
    | nil => rfl
    | cons first rest => simp [hq] at h
  · rfl

theorem take?_eq_some {es : List Event} (h : r.take? i = some (es, r')) :
    ∃ queue, r.channels[i]? = some ⟨queue, true⟩
      ∧ r' = ⟨r.channels.set i ⟨[], true⟩, r.current⟩ := by
  unfold take? at h
  split at h
  · rename_i queue hq
    exact ⟨queue, hq, (Prod.mk.inj (Option.some.inj h)).2.symm⟩
  · exact absurd h (by simp)

/-! ## 2. The channels of sessions exist -/

theorem inRange_empty : InRange empty := fun _ _ h => absurd h (by simp [empty, channelOf?])

/-- What only changes what is in the channels. -/
theorem InRange.congr (h : r.InRange) (hc : r'.current = r.current)
    (hl : r'.channels.length = r.channels.length) : r'.InRange := by
  intro session i hi
  rw [hl]
  refine h session i ?_
  rwa [channelOf?, hc] at hi

theorem InRange.emit (h : r.InRange) (session : SessionId) (e : Event) :
    (r.emit session e).1.InRange :=
  h.congr (by simp) (by simp)

/-- A session that subscribes listens on the channel that was just added. -/
theorem InRange.subscribe (h : r.InRange) (session : SessionId) :
    (r.subscribe session).1.InRange := by
  intro other i hi
  rw [channelOf?_subscribe] at hi
  have hl : (r.subscribe session).1.channels.length = r.channels.length + 1 := by
    simp [Router.subscribe]
  rw [hl]
  split at hi
  · obtain rfl := Option.some.inj hi
    omega
  · have := h other i hi
    omega

theorem InRange.unsubscribe (h : r.InRange) (session : SessionId) :
    (r.unsubscribe session).1.InRange := by
  intro other i hi
  rw [channelOf?_unsubscribe] at hi
  split at hi
  · exact absurd hi (by simp)
  · exact h other i hi

/-! ## 3. A channel of one's own -/

/-- A channel that is opened is its session's own, and nothing waits in it. -/
theorem InRange.serves_subscribe (h : r.InRange) (session : SessionId) :
    (r.subscribe session).1.Serves session (r.subscribe session).2
      ∧ (r.subscribe session).1.waiting (r.subscribe session).2 = [] := by
  have hat : (r.subscribe session).1.channels[r.channels.length]? = some ⟨[], true⟩ := by
    simp [Router.subscribe]
  refine ⟨⟨?_, ⟨[], hat⟩, ?_⟩, ?_⟩
  · rw [channelOf?_subscribe, if_pos rfl]
    rfl
  · intro other ho
    rw [channelOf?_subscribe] at ho
    split at ho
    · assumption
    · exact absurd (h other _ ho) (by simp [Router.subscribe])
  · exact (by simp [waiting, hat] : (r.subscribe session).1.waiting r.channels.length = [])

namespace Serves

/-- What is not about the channel leaves it as it is. -/
theorem congr (h : r.Serves session i) (hc : ∀ other, r'.channelOf? other = some i ↔
    r.channelOf? other = some i) (hq : r'.channels[i]? = r.channels[i]?) :
    r'.Serves session i ∧ r'.waiting i = r.waiting i :=
  ⟨⟨(hc session).mpr h.current, hq ▸ h.listening, fun other ho => h.alone other ((hc other).mp ho)⟩,
    by rw [waiting, waiting, hq]⟩

theorem lt_length (h : r.Serves session i) : i < r.channels.length := by
  obtain ⟨queue, hq⟩ := h.listening
  exact (List.getElem?_eq_some_iff.mp hq).1

/-- What is put into the channel of a session is what waits there. -/
theorem set (h : r.Serves session i) (queue : List Event) :
    Serves ⟨r.channels.set i ⟨queue, true⟩, r.current⟩ session i
      ∧ waiting ⟨r.channels.set i ⟨queue, true⟩, r.current⟩ i = queue := by
  have hat : (r.channels.set i ⟨queue, true⟩)[i]? = some ⟨queue, true⟩ := by
    rw [List.getElem?_set_self h.lt_length]
  exact ⟨⟨h.current, ⟨queue, hat⟩, h.alone⟩, by simp [waiting, hat]⟩

/-- What is put into another channel is not seen. -/
theorem set_ne (h : r.Serves session i) (hj : j ≠ i) (c : Channel) :
    Serves ⟨r.channels.set j c, r.current⟩ session i
      ∧ waiting ⟨r.channels.set j c, r.current⟩ i = r.waiting i :=
  h.congr (fun _ => Iff.rfl) (List.getElem?_set_ne hj)

/-- **What is delivered to the session waits behind what was there before.**  What is delivered to
other sessions does not come here. -/
theorem emit (h : r.Serves session i) (other : SessionId) (e : Event) :
    (r.emit other e).1.Serves session i
      ∧ (r.emit other e).1.waiting i = r.waiting i ++ if other = session then [e] else [] := by
  obtain ⟨queue, hq⟩ := h.listening
  rcases emit_cases r other e with ⟨j, queue', hj, hq', he⟩ | ⟨hlost, he⟩
  · rw [he]
    by_cases ho : other = session
    · subst ho
      obtain rfl := Option.some.inj (hj.symm.trans h.current)
      obtain ⟨hs, hw⟩ := h.set (queue' ++ [e])
      refine ⟨hs, hw.trans ?_⟩
      simp [waiting, hq']
    · have hji : j ≠ i := fun hji => ho (h.alone other (hji ▸ hj))
      simpa [ho] using h.set_ne hji ⟨queue' ++ [e], true⟩
  · have ho : other ≠ session := by
      rintro rfl
      exact hlost i queue h.current hq
    rw [he]
    exact ⟨h, by simp [ho]⟩

/-- The oldest event is taken out of the channel. -/
theorem next? (h : r.Serves session i) (hn : r.next? i = some (e, r')) :
    r'.Serves session i ∧ r.waiting i = e :: r'.waiting i := by
  obtain ⟨queue, hq, rfl⟩ := next?_eq_some hn
  obtain ⟨hs, hw⟩ := h.set queue
  exact ⟨hs, by rw [hw]; simp [waiting, hq]⟩

theorem next?_ne (h : r.Serves session i) (hj : j ≠ i) (hn : r.next? j = some (e, r')) :
    r'.Serves session i ∧ r'.waiting i = r.waiting i := by
  obtain ⟨queue, -, rfl⟩ := next?_eq_some hn
  exact h.set_ne hj _

theorem take?_ne (h : r.Serves session i) (hj : j ≠ i) {es : List Event}
    (ht : r.take? j = some (es, r')) : r'.Serves session i ∧ r'.waiting i = r.waiting i := by
  obtain ⟨queue, -, rfl⟩ := take?_eq_some ht
  exact h.set_ne hj _

/-- That another session subscribes changes neither the channel that a session listens on nor what
waits in it. -/
theorem subscribe_ne (h : r.Serves session i) (ho : other ≠ session) :
    (r.subscribe other).1.Serves session i
      ∧ (r.subscribe other).1.waiting i = r.waiting i := by
  have hlt := h.lt_length
  refine h.congr (fun s => ?_) ?_
  · rw [channelOf?_subscribe]
    by_cases hs : s = other
    · have hne : r.channelOf? other ≠ some i := fun hi => ho (h.alone other hi)
      have hlen : r.channels.length ≠ i := by omega
      simp [hs, hne, hlen]
    · rw [if_neg hs]
  · simp only [Router.subscribe]
    rw [List.getElem?_append_left hlt]

theorem unsubscribe_ne (h : r.Serves session i) (ho : other ≠ session) :
    (r.unsubscribe other).1.Serves session i
      ∧ (r.unsubscribe other).1.waiting i = r.waiting i := by
  refine h.congr (fun s => ?_) rfl
  rw [channelOf?_unsubscribe]
  by_cases hs : s = other
  · have hne : r.channelOf? other ≠ some i := fun hi => ho (h.alone other hi)
    simp [hs, hne]
  · rw [if_neg hs]

end Serves

/-! ## 4. A channel that was given up -/

/-- No session listens on channel `i`, but what waits there can still be taken. -/
structure GivenUp (r : Router) (i : Nat) : Prop where
  listening : ∃ queue, r.channels[i]? = some ⟨queue, true⟩
  nobody : ∀ session, r.channelOf? session ≠ some i

theorem Serves.isClosed (h : r.Serves session i) : r.isClosed i = false := by
  obtain ⟨before, after, hcurrent, -⟩ := List.lookup_eq_some_iff.mp h.current
  simp [Router.isClosed, hcurrent]

/-- Who gives up the channel leaves what waits in it. -/
theorem Serves.givenUp (h : r.Serves session i) :
    (r.unsubscribe session).1.GivenUp i ∧ (r.unsubscribe session).1.waiting i = r.waiting i := by
  refine ⟨⟨h.listening, fun other ho => ?_⟩, rfl⟩
  rw [channelOf?_unsubscribe] at ho
  split at ho
  · exact absurd ho (by simp)
  · rename_i hne
    exact hne (h.alone other ho)

theorem waiting_of_next?_some (h : r.next? i = some (e, r')) :
    r.waiting i = e :: r'.waiting i := by
  obtain ⟨queue, hq, rfl⟩ := next?_eq_some h
  have hi : i < r.channels.length := (List.getElem?_eq_some_iff.mp hq).1
  simp [waiting, hq, List.getElem?_set_self hi]

theorem next?_of_waiting {rest : List Event} (h : r.waiting i = e :: rest) :
    ∃ r', r.next? i = some (e, r') ∧ r'.waiting i = rest := by
  cases hn : r.next? i with
  | none => exact absurd ((waiting_of_next? hn).symm.trans h) (by simp)
  | some p =>
    obtain ⟨rfl, hrest⟩ := List.cons.inj ((waiting_of_next?_some hn).symm.trans h)
    exact ⟨p.2, rfl, hrest⟩

namespace GivenUp

theorem lt_length (h : r.GivenUp i) : i < r.channels.length := by
  obtain ⟨queue, hq⟩ := h.listening
  exact (List.getElem?_eq_some_iff.mp hq).1

/-- What is not about the channel leaves it as it is. -/
theorem congr (h : r.GivenUp i)
    (hc : ∀ session, r'.channelOf? session = some i → r.channelOf? session = some i)
    (hq : r'.channels[i]? = r.channels[i]?) : r'.GivenUp i ∧ r'.waiting i = r.waiting i :=
  ⟨⟨hq ▸ h.listening, fun session hs => h.nobody session (hc session hs)⟩,
    by rw [waiting, waiting, hq]⟩

theorem next? (h : r.GivenUp i) (hn : r.next? i = some (e, r')) : r'.GivenUp i := by
  obtain ⟨queue, -, rfl⟩ := next?_eq_some hn
  exact ⟨⟨queue, List.getElem?_set_self h.lt_length⟩, h.nobody⟩

theorem set_ne (h : r.GivenUp i) (hj : j ≠ i) (c : Channel) :
    GivenUp ⟨r.channels.set j c, r.current⟩ i
      ∧ waiting ⟨r.channels.set j c, r.current⟩ i = r.waiting i :=
  h.congr (fun _ hs => hs) (List.getElem?_set_ne hj)

theorem emit (h : r.GivenUp i) (session : SessionId) (e : Event) :
    (r.emit session e).1.GivenUp i ∧ (r.emit session e).1.waiting i = r.waiting i := by
  rcases emit_cases r session e with ⟨j, queue, hj, -, he⟩ | ⟨-, he⟩
  · rw [he]
    exact h.set_ne (fun hji => h.nobody session (hji ▸ hj)) _
  · rw [he]
    exact ⟨h, rfl⟩

theorem subscribe (h : r.GivenUp i) (session : SessionId) :
    (r.subscribe session).1.GivenUp i ∧ (r.subscribe session).1.waiting i = r.waiting i := by
  have hlt := h.lt_length
  refine h.congr (fun other ho => ?_) (List.getElem?_append_left hlt)
  rw [channelOf?_subscribe] at ho
  split at ho
  · have hlen : r.channels.length = i := Option.some.inj ho
    omega
  · exact ho

theorem unsubscribe (h : r.GivenUp i) (session : SessionId) :
    (r.unsubscribe session).1.GivenUp i ∧ (r.unsubscribe session).1.waiting i = r.waiting i := by
  refine h.congr (fun other ho => ?_) rfl
  rw [channelOf?_unsubscribe] at ho
  split at ho
  · exact absurd ho (by simp)
  · exact ho

end GivenUp
end Scriptorium.Output.Router
