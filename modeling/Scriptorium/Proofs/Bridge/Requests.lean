import Scriptorium.Proofs.Bridge.Cancellation
import Scriptorium.Proofs.Bridge.TimeLimit

/-!
# What comes of a request to stop

`cancel` answers yes if it finds a run, and this is all that the answer says.  The request then
waits for the supervisor of the run, which looks for it among other things and in no fixed order.
It is not lost: as long as the run is looked after and was not stopped, its supervisor can take it
up (`TakesUp`).  But whether it does so in time is another matter.

* What the supervisor learns of after the request comes behind what it had learned of before, and
  the result is the verdict on both (`Steps.learned_since`).  So the run ends as cancelled exactly
  if the request is taken up before any other reason to stop, and before the end of the process and
  of its streams is known.
* A run is found until it is removed from the registry, which is some time after its supervision is
  over.  A request that is made in between is answered with yes, and nobody looks for it.
* A run that has no supervisor is found for ever, and nobody looks for a request at all.

All that can happen to a request after the answer is put together in `cancelled_iff_first_reason`.
-/
namespace Scriptorium

open Run

namespace Run

/-! ## 1. Reasons before and after a request -/

theorem firstReasonAfter_append (ceiling : Nat) (more : List Event) :
    ∀ (es before : List Event), firstReasonAfter ceiling before (es ++ more)
      = (firstReasonAfter ceiling before es).or (firstReasonAfter ceiling (before ++ es) more)
  | [], before => by simp [firstReasonAfter]
  | e :: es, before => by
    simp only [List.cons_append, firstReasonAfter]
    rw [firstReasonAfter_append ceiling more es (before ++ [e]), Option.or_assoc]
    simp

theorem firstReason_append (ceiling : Nat) (es more : List Event) :
    firstReason? ceiling (es ++ more)
      = (firstReason? ceiling es).or (firstReasonAfter ceiling es more) :=
  firstReasonAfter_append ceiling more es []

end Run

/-! ## 2. What a supervisor has learned of -/

namespace Phase

variable {info : RunInfo} {p p' : Phase} {ceiling : Nat} {es : List Event}

/-- The events account for the phase: the supervisor has learned of them so far, or had learned of
them when it was done.  A run without a supervisor has learned of nothing. -/
def Learned (ceiling : Nat) (es : List Event) : Phase → Prop
  | .supervised s => s.terms.ceiling = ceiling
      ∧ ∃ seen, eventsOf seen = es ∧ Watch s.terms {} seen s.supervisor
  | .ended r | .removed r | .settled r | .reported r => Verdict ceiling es r
  | .lost => False

/-- Whether a run was stopped, and why, is seen from what its supervisor has learned of. -/
theorem Learned.firstReason_eq {s : Supervision} (h : (supervised s).Learned ceiling es) :
    firstReason? ceiling es = s.supervisor.stop := by
  obtain ⟨rfl, seen, rfl, hw⟩ := h
  exact hw.stop_eq.symm

theorem Moves.isOver (hm : p.Moves info p') (h : p.isOver = true) : p'.isOver = true := by
  cases hm with
  | stays => exact h
  | goesOn _ => exact absurd h (by simp [Phase.isOver])
  | ends _ _ => exact absurd h (by simp [Phase.isOver])
  | removes r => rfl
  | settles r => rfl
  | reports r => rfl

/-- **A move adds to what was learned**, and adds nothing when supervision is over.  What was
learned is kept by the run, so the reason that it was stopped for, or that it was not, can be read
off at the end. -/
theorem Learned.moves (h : p.Learned ceiling es) (hm : p.Moves info p') :
    ∃ since, p'.Learned ceiling (es ++ since) ∧ (p.isOver = true → since = []) := by
  cases hm with
  | @goesOn _ _ now _ _ hs =>
    obtain ⟨hceiling, seen, rfl, hw⟩ := h
    obtain ⟨hsame, ⟨hsup, -⟩ | ⟨e, ha, hsup, -⟩⟩ := hs.watch
    · refine ⟨[], ⟨hsame ▸ hceiling, seen, by simp, ?_⟩, fun _ => rfl⟩
      rwa [hsame, hsup]
    · have hnext := hw.learn now e ha
      rw [← hsup, ← hsame] at hnext
      exact ⟨[e], ⟨hsame ▸ hceiling, _, eventsOf_concat seen _, hnext⟩,
        fun hover => absurd hover (by simp [Phase.isOver])⟩
  | ends now hdone =>
    obtain ⟨rfl, seen, rfl, hw⟩ := h
    refine ⟨[], ?_, fun _ => rfl⟩
    rw [List.append_nil]
    exact hw.verdict hdone _ _
  | _ => exact ⟨[], by rwa [List.append_nil], fun _ => rfl⟩

end Phase

/-- The supervisor of the run, if it has not stopped the run yet, can take up a request to stop at
any time. -/
def Task.TakesUp (t : Task) : Prop :=
  ∀ s, t.phase = .supervised s → s.supervisor.isActive = true → s.supervisor.stop = none →
    ∀ now, Supervision.Step now t.cancelled s (s.learn now .cancelled).1
      (s.learn now .cancelled).2

theorem Task.takesUp_of_cancelled {t : Task} (h : t.cancelled = true) : t.TakesUp := by
  intro s _ hactive hstop now
  refine .learn .cancelled hactive ?_ h
  rw [Supervisor.allows, hstop]
  rfl

namespace Bridge

variable {settings : RunSettings} {log more : List Act} {b b' : Bridge} {t : Task}
variable {session : SessionId} {result : RunResult}

/-- Unless its supervision was lost, a run is where it is because of what its supervisor has
learned, in some order, and nothing else. -/
theorem learned_of_runs (h : Runs settings log b) (ht : t ∈ b.tasks) (hl : t.phase ≠ .lost) :
    ∃ es, t.phase.Learned settings.ceiling es := by
  have ha := accounted_of_runs h t ht
  cases hp : t.phase with
  | lost => exact absurd hp hl
  | supervised s =>
    rw [hp] at ha
    obtain ⟨hterms, seen, hw⟩ := ha
    exact ⟨_, (Terms.of_settings hterms).1, seen, rfl, hw⟩
  | _ =>
    rw [hp] at ha
    obtain ⟨seen, s, terms, now, hterms, hw, hdone, rfl⟩ := ha
    have hverdict := hw.verdict hdone t.info.id (now - t.info.started)
    rw [(Terms.of_settings hterms).1] at hverdict ⊢
    exact ⟨_, hverdict⟩

/-- **What a run learns of comes behind what it had learned of**, whatever happens to the bridge.
What was first stays first: a reason that had been learned of before a request counts in its place.
-/
theorem Steps.learned_since (hmore : Steps b more b') (h : Runs settings log b) (ht : t ∈ b.tasks)
    {ceiling : Nat} {before : List Event} (hb : t.phase.Learned ceiling before) :
    ∃ t' ∈ b'.tasks, t'.info = t.info ∧ ∃ since, t'.phase.Learned ceiling (before ++ since)
      ∧ (t.phase.isOver = true → since = []) := by
  have kept {info : RunInfo} {p p' : Phase} (hm : p.Moves info p')
      (hp : ∃ since, p.Learned ceiling (before ++ since)
        ∧ (t.phase.isOver = true → since = [] ∧ p.isOver = true)) :
      ∃ since, p'.Learned ceiling (before ++ since)
        ∧ (t.phase.isOver = true → since = [] ∧ p'.isOver = true) := by
    obtain ⟨since, hs, hover⟩ := hp
    obtain ⟨next, hn, hquiet⟩ := hs.moves hm
    refine ⟨since ++ next, by rwa [← List.append_assoc], fun h => ?_⟩
    obtain ⟨rfl, hpover⟩ := hover h
    exact ⟨by rw [hquiet hpover, List.append_nil], hm.isOver hpover⟩
  obtain ⟨t', ht', hi, since, hs, hover⟩ := hmore.phase_kept kept h ht
    ⟨[], by rwa [List.append_nil], fun hover => ⟨rfl, hover⟩⟩
  exact ⟨t', ht', hi, since, hs, fun h => (hover h).1⟩

/-! ## 3. Requests -/

theorem Phase.eq_reported_of_learned {p : Phase} {ceiling : Nat} {es : List Event}
    (h : p.Learned ceiling es) (hr : p.result? = some result) : p = .reported result := by
  cases p with
  | reported r => exact congrArg _ (Option.some.inj hr)
  | lost => exact absurd h id
  | _ => exact absurd hr (by simp [Phase.result?])

/-- A session only has runs that were started for it. -/
theorem Consistent.session_of_holds (hc : Consistent settings log b) (ht : t ∈ b.tasks)
    (hh : b.Holds session t.info.id) : session = t.info.session :=
  hc.owner (hc.infos_eq ▸ List.mem_map_of_mem ht) ((hc.holds_iff_latest _ _).mp hh).1

/-- The request stays until it is taken up. -/
theorem takesUp_after_cancel (h : Runs settings log b) (ht : t ∈ b.tasks)
    (hh : b.Holds t.info.session t.info.id)
    (hmore : Steps (b.cancel t.info.session).1 more b') :
    ∃ t' ∈ b'.tasks, t'.info = t.info ∧ t'.TakesUp := by
  have hstep : Step b (.cancelled t.info.session) (b.cancel t.info.session).1 := .cancel _
  obtain ⟨t₁, ht₁, hi₁, htold⟩ := hstep.told (.of_runs h) ht
  obtain ⟨t', ht', hi', hc⟩ :=
    hmore.told_kept (h.next hstep) ht₁ (htold.mpr (.inr (.cancelled hh)))
  exact ⟨t', ht', hi'.trans hi₁, Task.takesUp_of_cancelled hc⟩

/-- **What a yes to a request to stop is worth.**  A session asks for its run to be stopped, at any
moment of any history, and the run is registered for it then.  The answer is yes, and from then on
the supervisor of the run can take up the request at any time, as long as it looks after the run and
has not stopped it.  When the result of the run is there, it depends on what the supervisor had
learned of before the request and on what it has learned of since, which is nothing if it was done
already:

* if there never was a supervisor, the result is that nothing was reported;
* if the run was stopped before, the reason for that decides;
* if it was not, the run was cancelled exactly if the request is the first reason to stop since; it
  was stopped for another one if that came first, and has ended by itself if there was none. -/
theorem cancelled_iff_first_reason (h : Runs settings log b) (ht : t ∈ b.tasks)
    (hh : b.Holds session t.info.id) (hmore : Steps (b.cancel session).1 more b') :
    (b.cancel session).2 = true
      ∧ (∃ t' ∈ b'.tasks, t'.info = t.info ∧ t'.TakesUp)
      ∧ ∀ result, b'.result? t.info.id = some result →
        (¬ LimitTold settings t.info.started →
            result = .error (.execution "run supervisor stopped before reporting"))
          ∧ (LimitTold settings t.info.started → ∃ before since,
            t.phase.Learned settings.ceiling before ∧ (t.phase.isOver = true → since = [])
              ∧ Verdict settings.ceiling (before ++ since) result
              ∧ (firstReason? settings.ceiling before = none →
                ((∃ o, result = .ok o ∧ o.termination = .cancelled)
                    ↔ firstReasonAfter settings.ceiling before since = some .cancelled)
                  ∧ ((∃ o, result = .ok o ∧ o.termination = .exited)
                    ↔ firstReasonAfter settings.ceiling before since = none))) := by
  have hc := Consistent.of_runs h
  obtain rfl := hc.session_of_holds ht hh
  have hall := (Steps.begin.next (.cancel t.info.session)).append hmore
  refine ⟨?_, takesUp_after_cancel h ht hh hmore,
    fun result hr => ⟨fun hnot => ?_, fun htold => ?_⟩⟩
  · obtain ⟨live, hlive, -⟩ := Option.map_eq_some_iff.mp hh
    simp only [cancel, hlive]
  · obtain ⟨t', ht', hi, hp⟩ := hall.phase_kept (P := (· = .lost))
      (fun {info p p'} hm hp => by subst hp; cases hm; rfl) h ht ((lost_iff h ht).mpr hnot)
    rw [← hi, (Consistent.of_runs (h.append hall)).result?_eq ht', hp] at hr
    exact (Option.some.inj hr).symm
  · obtain ⟨before, hb⟩ := learned_of_runs h ht fun hl => (lost_iff h ht).mp hl htold
    obtain ⟨t', ht', hi, since, hs, hover⟩ := hall.learned_since h ht hb
    rw [← hi, (Consistent.of_runs (h.append hall)).result?_eq ht'] at hr
    rw [Phase.eq_reported_of_learned hs hr] at hs
    have hverdict : Verdict settings.ceiling (before ++ since) result := hs
    refine ⟨before, since, hb, hover, hverdict, fun hnone => ?_⟩
    have hfirst : firstReason? settings.ceiling (before ++ since)
        = firstReasonAfter settings.ceiling before since := by
      rw [firstReason_append, hnone, Option.none_or]
    exact ⟨hfirst ▸ hverdict.cancelled, hfirst ▸ hverdict.exited⟩

/-- A run that has not been stopped is cancelled while its process goes on: its supervisor takes up
the request, and the result is that of a cancelled run. -/
theorem cancelled_run_ends :
    ∃ log b t more b' o, Runs {} log b ∧ t ∈ b.tasks ∧ b.Holds "w1" t.info.id
      ∧ (b.cancel "w1").2 = true ∧ Steps (b.cancel "w1").1 more b'
      ∧ b'.result? t.info.id = some (.ok o) ∧ o.termination = .cancelled
      ∧ ∃ before since, t.phase.Learned 10485760 before ∧ firstReason? 10485760 before = none
        ∧ firstReasonAfter 10485760 before since = some .cancelled := by
  have first {b : Bridge} {t : Task} (h : b.tasks[0]? = some t) : t ∈ b.tasks :=
    List.mem_of_getElem? h
  have after {log : List Act} {b : Bridge} (_ : Runs {} log b) :
      Steps (b.cancel "w1").1 [] (b.cancel "w1").1 := .begin
  have h0 : Runs {} [] _ := .begin
  have h1 := h0.next (.start (fun _ ht => absurd ht (by simp))
    (rfl : start _ (.ofNat 1) 0 "w1" ⟨[]⟩ (some ⟨[]⟩) (fun _ _ => .ok ()) = _))
  have m1 := (after h1).next (.supervise 1000 (first rfl) rfl (.learn .cancelled rfl rfl rfl))
  have m2 := m1.next (.supervise 1001 (first rfl) rfl (.learn (.exited none) rfl rfl trivial))
  have m3 := m2.next
    (.supervise 1500 (first rfl) rfl (.learn .drained rfl rfl ⟨1500, rfl, by decide⟩))
  have m4 := m3.next (.conclude 1501 (first rfl) rfl rfl)
  have m5 := m4.next (.deregister (first rfl) rfl rfl)
  have m6 := m5.next (.settle (first rfl) (by simp) rfl)
  have m7 := m6.next (.settle (first rfl) (by simp) rfl)
  have told : LimitTold {} 0 := by
    intro secs hsecs
    exact absurd hsecs (by simp [RunSettings.runTimeout])
  obtain ⟨hyes, -, hresult⟩ := cancelled_iff_first_reason h1 (first rfl) (by decide) m7
  obtain ⟨before, since, hb, -, -, hasked⟩ := (hresult _ rfl).2 told
  have hnone : firstReason? 10485760 before = none := Phase.Learned.firstReason_eq hb
  exact ⟨_, _, _, _, _, _, h1, first rfl, by decide, hyes, m7, rfl, rfl, _, since, hb, hnone,
    (hasked hnone).1.mp ⟨_, rfl, rfl⟩⟩

/-- **A yes may come to nothing.**  A run with the longest limit that can be set was never stopped,
and still the result after a request that was answered with yes is an error.  A run whose process
and streams have ended by themselves is still found while it is not removed from the registry, and
the result after a request that was answered with yes is the one that it had come to already. -/
theorem cancel_in_vain :
    (∃ log b t result, Runs { runTimeoutSecs := 18446744073709551615 } log b ∧ t ∈ b.tasks
        ∧ b.Holds "w1" t.info.id ∧ t.phase = .lost ∧ (b.cancel "w1").2 = true
        ∧ (b.cancel "w1").1.result? t.info.id = some result
        ∧ ¬ ∃ o, result = .ok o ∧ o.termination = .cancelled)
      ∧ ∃ log b t more b' result, Runs {} log b ∧ t ∈ b.tasks ∧ b.Holds "w1" t.info.id
        ∧ t.phase = .ended result ∧ (∃ o, result = .ok o ∧ o.termination = .exited)
        ∧ (b.cancel "w1").2 = true ∧ Steps (b.cancel "w1").1 more b'
        ∧ b'.result? t.info.id = some result := by
  have first {b : Bridge} {t : Task} (h : b.tasks[0]? = some t) : t ∈ b.tasks :=
    List.mem_of_getElem? h
  have after {log : List Act} {b : Bridge} (_ : Runs {} log b) :
      Steps (b.cancel "w1").1 [] (b.cancel "w1").1 := .begin
  constructor
  · have h0 : Runs { runTimeoutSecs := 18446744073709551615 } [] _ := .begin
    have h1 := h0.next (.start (fun _ ht => absurd ht (by simp))
      (rfl : start _ (.ofNat 1) 0 "w1" ⟨[]⟩ (some ⟨[]⟩) (fun _ _ => .ok ()) = _))
    exact ⟨_, _, _, _, h1, first rfl, by decide, rfl, rfl, rfl, by simp⟩
  · have h0 : Runs {} [] _ := .begin
    have h1 := h0.next (.start (fun _ ht => absurd ht (by simp))
      (rfl : start _ (.ofNat 1) 0 "w1" ⟨[]⟩ (some ⟨[]⟩) (fun _ _ => .ok ()) = _))
    have h2 := h1.next (.supervise 5 (first rfl) rfl (.learn (.exited (some 0)) rfl rfl trivial))
    have h3 := h2.next (.supervise 6 (first rfl) rfl (.readEnd .stdout rfl))
    have h4 := h3.next (.supervise 6 (first rfl) rfl (.readEnd .stderr rfl))
    have h5 := h4.next (.supervise 7 (first rfl) rfl (.take rfl rfl))
    have h6 := h5.next (.conclude 7 (first rfl) rfl rfl)
    have m1 := (after h6).next (.deregister (first rfl) rfl rfl)
    have m2 := m1.next (.settle (first rfl) (by simp) rfl)
    have m3 := m2.next (.settle (first rfl) (by simp) rfl)
    exact ⟨_, _, _, _, _, _, h6, first rfl, by decide, rfl, ⟨_, rfl, rfl⟩, rfl, m3, rfl⟩

end Bridge
end Scriptorium
