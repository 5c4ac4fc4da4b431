import Scriptorium.Proofs.Bridge.Courses
import Scriptorium.Proofs.Output.Router

/-!
# What runs pass on, and where it goes

`Step` says what a bridge can come to by one step.  `Utters` says in addition which event is passed
on in it, and to which session; only a run that is looked after passes anything on
(`Utters.speaker`).

To the router, a step is one of a few things (`Carries`): an event is delivered, a session opens or
gives up its channel, a listener takes from one, or nothing happens.  So what is shown of a channel
is shown by cases over these, and not over all that a bridge can do: in particular, what waits in
the channel of a session only grows by what is passed on to that session, as long as nobody else
lays hands on the channel (`Carries.serves`).
-/
namespace Scriptorium.Bridge

open Run

/-! ## 1. Steps with what is passed on in them -/

/-- Whether a run does it by itself, other than being removed from the registry. -/
def Act.isWork : Act → Bool
  | .worked _ => true
  | _ => false

/-- One step of a bridge, with the event that is passed on in it, if any, and its session. -/
inductive Utters (b : Bridge) : Act → Option (SessionId × Output.Event) → Bridge → Prop
  | supervise {t : Task} {s s' : Supervision} {r : Reaction} (now : Nat) : t ∈ b.tasks →
      t.phase = .supervised s → Supervision.Step now t.cancelled s s' r →
      Utters b (.worked t.info.id) ((r.event? t.info.id).map (t.info.session, ·))
        (b.react t.info (s', r))
  | conclude {t : Task} {s : Supervision} (now : Nat) : t ∈ b.tasks → t.phase = .supervised s →
      s.supervisor.isActive = false →
      Utters b (.worked t.info.id) none (b.conclude t.info s now)
  | write {t : Task} {w : Writer} : t ∈ b.tasks → Writer.Step t.phase.isOver t.writer w →
      Utters b (.worked t.info.id) none (b.updateTask t.info.id fun t => { t with writer := w })
  | settle {t : Task} {b' : Bridge} : t ∈ b.tasks → (∀ r, t.phase ≠ .ended r) →
      b.nextPhase? t = some b' → Utters b (.worked t.info.id) none b'
  | other {act : Act} {b' : Bridge} : Step b act b' → act.isWork = false → Utters b act none b'

variable {b b' : Bridge} {act : Act} {out : Option (SessionId × Output.Event)}

theorem Utters.step (h : Utters b act out b') : Step b act b' := by
  cases h with
  | supervise now ht hp hs => exact .supervise now ht hp hs
  | conclude now ht hp ha => exact .conclude now ht hp ha
  | write ht hw => exact .write ht hw
  | settle ht hp hn => exact .settle ht hp hn
  | other hs _ => exact hs

/-- **The steps of a bridge are those in which something is passed on or nothing is.**  What is
passed on, and for whom, is a part of the step; it is only not told by `Step`, which most of the
theory has no need for. -/
theorem step_iff_utters : Step b act b' ↔ ∃ out, Utters b act out b' := by
  constructor
  · intro h
    cases h with
    | supervise now ht hp hs => exact ⟨_, .supervise now ht hp hs⟩
    | conclude now ht hp ha => exact ⟨_, .conclude now ht hp ha⟩
    | write ht hw => exact ⟨_, .write ht hw⟩
    | settle ht hp hn => exact ⟨_, .settle ht hp hn⟩
    | start hnew hs => exact ⟨_, .other (.start hnew hs) rfl⟩
    | refuse hs => exact ⟨_, .other (.refuse hs) rfl⟩
    | offer session data => exact ⟨_, .other (.offer session data) rfl⟩
    | release run => exact ⟨_, .other (.release run) rfl⟩
    | endInput session => exact ⟨_, .other (.endInput session) rfl⟩
    | cancel session => exact ⟨_, .other (.cancel session) rfl⟩
    | close session => exact ⟨_, .other (.close session) rfl⟩
    | subscribe session => exact ⟨_, .other (.subscribe session) rfl⟩
    | unsubscribe session => exact ⟨_, .other (.unsubscribe session) rfl⟩
    | takeAll ht => exact ⟨_, .other (.takeAll ht) rfl⟩
    | takeNext ht => exact ⟨_, .other (.takeNext ht) rfl⟩
    | hangUp i => exact ⟨_, .other (.hangUp i) rfl⟩
    | deregister ht hp hn => exact ⟨_, .other (.deregister ht hp hn) rfl⟩
  · rintro ⟨out, h⟩
    exact h.step

/-- **Only a run that is looked after passes something on**, and does so under its own name and for
its own session.  There is thus no way for a run to speak after its end, or in the place of another
one. -/
theorem Utters.speaker {session : SessionId} {e : Output.Event}
    (h : Utters b act (some (session, e)) b') :
    ∃ t ∈ b.tasks, t.info.id = e.run ∧ t.info.session = session
      ∧ ∃ s, t.phase = .supervised s := by
  generalize ho : some (session, e) = out at h
  cases h with
  | @supervise t s s' r now ht hp hs =>
    obtain ⟨e', he', heq⟩ := Option.map_eq_some_iff.mp ho.symm
    obtain ⟨rfl, rfl⟩ := Prod.mk.inj heq
    obtain ⟨out, -, rfl⟩ := Option.map_eq_some_iff.mp he'
    exact ⟨t, ht, rfl, rfl, s, hp⟩
  | conclude _ _ _ _ => exact absurd ho (by simp)
  | write _ _ => exact absurd ho (by simp)
  | settle _ _ _ => exact absurd ho (by simp)
  | other _ _ => exact absurd ho (by simp)

/-! ## 2. What a step does to the router -/

@[simp] theorem router_updateTask (b : Bridge) (id : Id) (f : Task → Task) :
    (b.updateTask id f).router = b.router := rfl

@[simp] theorem router_detach (b : Bridge) (id : Id) : (b.detach id).router = b.router := rfl

@[simp] theorem router_fireCancel (b : Bridge) (id : Id) :
    (b.fireCancel id).router = b.router := rfl

@[simp] theorem router_cancel (b : Bridge) (session : SessionId) :
    (b.cancel session).1.router = b.router := by
  unfold cancel
  split <;> rfl

@[simp] theorem router_displace (b : Bridge) (session : SessionId) :
    (b.displace session).router = b.router := by
  unfold displace
  split <;> rfl

@[simp] theorem router_register (b : Bridge) (info : RunInfo) :
    (b.register info).router = b.router :=
  router_displace b info.session

@[simp] theorem router_offer (b : Bridge) (session : SessionId) (data : Bytes) :
    (b.offer session data).1.router = b.router := by
  unfold offer
  split
  · rfl
  · split
    · rfl
    · split <;> rfl

@[simp] theorem router_endInput (b : Bridge) (session : SessionId) :
    (b.endInput session).1.router = b.router := by
  unfold endInput
  split <;> rfl

@[simp] theorem router_deregister (b : Bridge) (info : RunInfo) :
    (b.deregister info).router = b.router := by
  unfold deregister
  split
  · split <;> rfl
  · rfl

/-- A run passes on nothing after the end of its supervision, so the channels are the same in every
later phase. -/
theorem router_nextPhase? {t : Task} (h : b.nextPhase? t = some b') : b'.router = b.router := by
  unfold nextPhase? at h
  split at h
  · obtain rfl := Option.some.inj h
    simp
  · obtain rfl := Option.some.inj h
    rfl
  · obtain rfl := Option.some.inj h
    rfl
  · exact absurd h (by simp)

@[simp] theorem router_closeSession (b : Bridge) (session : SessionId) :
    (b.closeSession session).router = (b.router.unsubscribe session).1 :=
  router_cancel (b.unsubscribe session).1 session

/-- Whether it is about the channels that sessions listen on. -/
def Act.isAboutChannels : Act → Bool
  | .closed _ | .subscribed _ | .unsubscribed _ | .listened _ => true
  | _ => false

/-- What happens to the router in a step. -/
inductive Carries (r : Output.Router) :
    Act → Option (SessionId × Output.Event) → Output.Router → Prop
  | stays {act : Act} : act.isAboutChannels = false → Carries r act none r
  | delivered (run : Id) (session : SessionId) (e : Output.Event) :
      Carries r (.worked run) (some (session, e)) (r.emit session e).1
  | subscribed (session : SessionId) : Carries r (.subscribed session) none (r.subscribe session).1
  | unsubscribed (session : SessionId) :
      Carries r (.unsubscribed session) none (r.unsubscribe session).1
  | closed (session : SessionId) : Carries r (.closed session) none (r.unsubscribe session).1
  | takenAll {i : Nat} {es : List Output.Event} {r' : Output.Router} : r.take? i = some (es, r') →
      Carries r (.listened i) none r'
  | takenNext {i : Nat} {e : Output.Event} {r' : Output.Router} : r.next? i = some (e, r') →
      Carries r (.listened i) none r'
  | left (i : Nat) : Carries r (.listened i) none (r.hangUp i)

/-- **What a step does to the router.**  There are few things that it can do: it opens a channel,
closes one, takes from one, or puts one event into that of a session. -/
theorem Utters.carries (h : Utters b act out b') : Carries b.router act out b'.router := by
  cases h with
  | @supervise t s s' r now ht hp hs =>
    rw [react, deliver_eq]
    cases r.event? t.info.id with
    | none => exact .stays rfl
    | some e => exact .delivered _ _ e
  | conclude now ht hp ha => exact .stays rfl
  | write ht hw => exact .stays rfl
  | settle ht hp hn => exact router_nextPhase? hn ▸ .stays rfl
  | other hs hwork =>
    cases hs with
    | start hnew hstart =>
      obtain ⟨script, -, -, -, rfl, rfl⟩ := start_eq_ok hstart
      exact router_register b _ ▸ .stays rfl
    | refuse hstart => exact .stays rfl
    | offer session data => exact router_offer b session data ▸ .stays rfl
    | release run => exact .stays rfl
    | endInput session => exact router_endInput b session ▸ .stays rfl
    | cancel session => exact router_cancel b session ▸ .stays rfl
    | close session => exact router_closeSession b session ▸ .closed session
    | subscribe session => exact .subscribed session
    | unsubscribe session => exact .unsubscribed session
    | takeAll ht => exact .takenAll ht
    | takeNext ht => exact .takenNext ht
    | hangUp i => exact .left i
    | deregister ht hp hn => exact router_nextPhase? hn ▸ .stays rfl
    | supervise _ _ _ _ => exact absurd hwork (by simp [Act.isWork])
    | conclude _ _ _ _ => exact absurd hwork (by simp [Act.isWork])
    | write _ _ => exact absurd hwork (by simp [Act.isWork])
    | settle _ _ _ => exact absurd hwork (by simp [Act.isWork])

/-- Whatever a router carries, each session still listens on a channel that exists; channels are
only added, never taken away. -/
theorem Carries.inRange {r r' : Output.Router} (h : Carries r act out r') (hr : r.InRange) :
    r'.InRange := by
  cases h with
  | stays _ => exact hr
  | delivered run session e => exact hr.emit session e
  | subscribed session => exact hr.subscribe session
  | unsubscribed session => exact hr.unsubscribe session
  | closed session => exact hr.unsubscribe session
  | takenAll ht =>
    obtain ⟨queue, -, rfl⟩ := Output.Router.take?_eq_some ht
    exact hr.congr rfl (by simp)
  | takenNext ht =>
    obtain ⟨queue, -, rfl⟩ := Output.Router.next?_eq_some ht
    exact hr.congr rfl (by simp)
  | left i => exact hr.congr rfl (by simp [Output.Router.hangUp])

/-- In a history of a bridge, the channels that sessions listen on exist. -/
theorem inRange_of_runs {settings : RunSettings} {log : List Act} (h : Runs settings log b) :
    b.router.InRange := by
  induction h with
  | begin => exact Output.Router.inRange_empty
  | next _ hstep ih =>
    obtain ⟨out, hout⟩ := step_iff_utters.mp hstep
    exact hout.carries.inRange ih

/-! ## 3. A channel that nobody else lays hands on -/

/-- What happens leaves the channel of a session alone. -/
def Act.Spares (session : SessionId) (channel : Nat) : Act → Prop
  | .closed other | .subscribed other | .unsubscribed other => other ≠ session
  | .listened i => i ≠ channel
  | _ => True

/-- What was passed on to a session. -/
def heardBy (session : SessionId) (log : List (SessionId × Output.Event)) : List Output.Event :=
  (log.filter (·.1 = session)).map Prod.snd

theorem heardBy_append (session : SessionId) (log more : List (SessionId × Output.Event)) :
    heardBy session (log ++ more) = heardBy session log ++ heardBy session more := by
  simp [heardBy]

/-- **What waits in the channel of a session grows by what is passed on to the session.**  Nothing
else comes there, and nothing is taken out but by the one who listens. -/
theorem Carries.serves {r r' : Output.Router} {session : SessionId} {channel : Nat}
    (h : Carries r act out r') (hs : r.Serves session channel)
    (hspares : act.Spares session channel) :
    r'.Serves session channel
      ∧ r'.waiting channel = r.waiting channel ++ heardBy session out.toList := by
  cases h with
  | stays _ => exact ⟨hs, by simp [heardBy]⟩
  | delivered run other e =>
    obtain ⟨hs', hw⟩ := hs.emit other e
    refine ⟨hs', hw.trans ?_⟩
    by_cases ho : other = session <;> simp [heardBy, ho]
  | subscribed other => simpa [heardBy] using hs.subscribe_ne hspares
  | unsubscribed other => simpa [heardBy] using hs.unsubscribe_ne hspares
  | closed other => simpa [heardBy] using hs.unsubscribe_ne hspares
  | takenAll ht => simpa [heardBy] using hs.take?_ne hspares ht
  | takenNext ht => simpa [heardBy] using hs.next?_ne hspares ht
  | left i => simpa [heardBy, Output.Router.hangUp] using hs.set_ne hspares ⟨[], false⟩

/-- **What waits in a channel that was given up waits there until it is taken.** -/
theorem Carries.givenUp {r r' : Output.Router} {session : SessionId} {i : Nat}
    (h : Carries r act out r') (hg : r.GivenUp i) (hspares : act.Spares session i) :
    r'.GivenUp i ∧ r'.waiting i = r.waiting i := by
  cases h with
  | stays _ => exact ⟨hg, rfl⟩
  | delivered _ other e => exact hg.emit other e
  | subscribed other => exact hg.subscribe other
  | unsubscribed other => exact hg.unsubscribe other
  | closed other => exact hg.unsubscribe other
  | takenAll ht =>
    obtain ⟨queue, -, rfl⟩ := Output.Router.take?_eq_some ht
    exact hg.set_ne hspares _
  | takenNext hn =>
    obtain ⟨queue, -, rfl⟩ := Output.Router.next?_eq_some hn
    exact hg.set_ne hspares _
  | left j => exact hg.set_ne hspares _

end Scriptorium.Bridge
