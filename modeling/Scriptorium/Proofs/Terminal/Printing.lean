import Scriptorium.Proofs.Output.Channels
import Scriptorium.Proofs.Terminal.History

/-!
# All that a script writes is printed before the call ends

What a run passes on waits in the channel of the terminal until it is printed.  When the result of
the run is there the terminal gives its channel up, perhaps with much still waiting in it; printing
ends when the channel is both empty and given up.

Two things make this safe.  A run whose result can be had passes nothing on any more, so nothing is
missed after the channel was given up; and a channel that was given up keeps what is in it for its
listener (`GivenUp`).  `Printed` is what holds at every moment of a history: what was printed, and
then what waits, is what was passed on for the run.  At the end nothing waits (`prints_all`), and
from the moment at which the result is there the end can be reached (`Printed.comes_to_end`).
-/
namespace Scriptorium

open Run

/-! ## 1. Channels of a bridge -/

namespace Bridge

variable {settings : RunSettings} {acts : List Act} {b b' : Bridge} {act : Act}
variable {out : Option (SessionId × Output.Event)} {session : SessionId} {info : RunInfo}

/-- Whatever a router carries, each session is still alone on its channel. -/
theorem Carries.tidy {r r' : Output.Router} (h : Carries r act out r') (hr : r.Tidy) :
    r'.Tidy := by
  cases h with
  | stays _ => exact hr
  | delivered _ other e => exact hr.step (.emit other e)
  | subscribed other => exact hr.subscribe other
  | unsubscribed other => exact hr.unsubscribe other
  | closed other => exact hr.unsubscribe other
  | takenAll ht => exact hr.step (.takeAll ht)
  | takenNext hn => exact hr.step (.takeNext hn)
  | left i => exact hr.congr rfl (by simp [Output.Router.hangUp])

theorem tidy_of_runs (h : Runs settings acts b) : b.router.Tidy := by
  induction h with
  | begin => exact .empty
  | next _ hstep ih =>
    obtain ⟨out, hu⟩ := step_iff_utters.mp hstep
    exact hu.carries.tidy ih

/-- What a session hears is what its run passes on, if it has only had the one. -/
theorem heardBy_eq_emittedBy (hruns : Runs settings acts b) (hmine : b.runsOf session = [info])
    (hu : Utters b act out b') :
    heardBy session out.toList = emittedBy info.id out.toList := by
  cases out with
  | none => rfl
  | some x =>
    obtain ⟨other, e⟩ := x
    obtain ⟨t, ht, hid, rfl, -⟩ := hu.speaker
    have hin : t.info ∈ b.infos := List.mem_map_of_mem ht
    have hown : info ∈ b.runsOf session := hmine ▸ List.mem_singleton_self info
    obtain ⟨hinfo, hs⟩ := mem_runsOf.mp hown
    have hiff : t.info.session = session ↔ e.run = info.id := by
      constructor
      · intro hsession
        have hmem : t.info ∈ b.runsOf session := mem_runsOf.mpr ⟨hin, hsession⟩
        rw [hmine, List.mem_singleton] at hmem
        rw [← hid, hmem]
      · intro hrun
        have hsame : t.info = info :=
          List.inj_on_of_nodup_map (nodup_infos hruns) hin hinfo (hid.trans hrun)
        rw [hsame, hs]
    by_cases hsession : t.info.session = session <;>
      simp [heardBy, emittedBy, hsession, hiff.symm]

end Bridge

/-! ## 2. Every moment of a terminal -/

namespace Terminal

variable {t₀ t t' : Terminal} {w₀ w w' : Studio} {run : Id}
variable {log more : List (SessionId × Output.Event)}
variable {settings : RunSettings} {acts : List Bridge.Act}

/-- The output of the run of a terminal is where it belongs. -/
structure Printed (run : Id) (log : List (SessionId × Output.Event)) (t : Terminal) (w : Studio) :
    Prop where
  run_eq : t.run = run
  mine : ∃ info, w.bridge.runsOf session = [info] ∧ info.id = run
  printed_eq : t.printed ++ w.bridge.router.waiting t.channel = Bridge.emittedBy run log
  goesOn : t.result = none →
    t.printing = true ∧ w.bridge.router.Serves session t.channel
  concluded : ∀ r, t.result = some r →
    w.bridge.result? run = some r ∧ w.bridge.router.GivenUp t.channel
  dry : t.printing = false → w.bridge.router.waiting t.channel = []

namespace Printed

/-- A new terminal. -/
theorem start {id : Id} {script : Path} {input : Bytes} (hb : w₀.bridge = { settings })
    (h : Terminal.start id script input w₀ = .ok (t, w)) :
    Printed id [] t w ∧ Bridge.Speech { settings } [] w.bridge := by
  unfold Terminal.start at h
  rw [hb] at h
  obtain ⟨⟨w₁, info⟩, hstart, hout⟩ := bind_eq_ok.mp h
  obtain ⟨rfl, rfl⟩ := Prod.mk.inj (Except.ok.inj hout)
  obtain ⟨rfl, hs, hstep⟩ := Studio.start_step (fun t ht => absurd ht List.not_mem_nil) hstart
  have hlistens : Bridge.Speech { settings } [] (Bridge.subscribe { settings } session).1 :=
    Bridge.Speech.begin.quiet (.subscribe session) rfl
  obtain ⟨acts, hruns⟩ := hlistens.runs
  obtain ⟨hserves, hwaiting⟩ := Output.Router.inRange_empty.serves_subscribe session
  have hrouter : w₁.bridge.router = (Output.Router.empty.subscribe session).1 :=
    hstep.router_of_started
  have hmine : w₁.bridge.runsOf session = [info] := by
    rw [← hs]
    exact hstep.runsOf_of_started hruns
  refine ⟨⟨rfl, ⟨info, hmine, rfl⟩, ?_, fun _ => ⟨rfl, ?_⟩, fun r hr => absurd hr (by simp),
    fun hd => absurd hd (by simp)⟩, hlistens.quiet hstep rfl⟩
  · rw [hrouter]
    exact hwaiting
  · rw [hrouter]
    exact hserves

/-- The next piece is printed. -/
theorem prints (h : Printed run log t w) (hp : t.printing = true) {e : Output.Event}
    {router : Output.Router} (hn : w.bridge.router.next? t.channel = some (e, router)) :
    Printed run log { t with printed := t.printed ++ [e] }
      { w with bridge := { w.bridge with router } } := by
  refine ⟨h.run_eq, h.mine, ?_, fun hr => ⟨hp, ?_⟩, fun r hr => ⟨(h.concluded r hr).1, ?_⟩, ?_⟩
  · rw [← h.printed_eq, Output.Router.waiting_of_next?_some hn, List.append_assoc]
    rfl
  · exact ((h.goesOn hr).2.next? hn).1
  · exact (h.concluded r hr).2.next? hn
  · exact fun hd => absurd (hp.symm.trans hd) (by simp)

/-- The result is there, and the channel is given up. -/
theorem concludes (h : Printed run log t w) (hruns : Bridge.Runs settings acts w.bridge)
    {r : RunResult} {b : Bridge} (hnone : t.result = none) (hr : w.bridge.result? t.run = some r)
    (hasked : Connection.Asked w.bridge b) (hb : w'.bridge = (b.unsubscribe session).1) :
    Printed run log { t with result := some r, typing := .over, interruptible := false } w' := by
  obtain ⟨hp, hserves⟩ := h.goesOn hnone
  obtain ⟨hgiven, hwaiting⟩ := hserves.givenUp
  have hsame := hasked.sameRuns hruns session
  have hrouter : w'.bridge.router = (w.bridge.router.unsubscribe session).1 := by
    rw [hb, ← hasked.router]
    rfl
  have hmine : w'.bridge.runsOf session = w.bridge.runsOf session := by
    rw [hb, ← hsame.runsOf_eq]
    rfl
  refine ⟨h.run_eq, hmine ▸ h.mine, ?_, fun he => absurd he (by simp), fun r' he => ⟨?_, ?_⟩,
    fun hd => absurd (hp.symm.trans hd) (by simp)⟩
  · rw [hrouter, hwaiting]
    exact h.printed_eq
  · rw [hb, ← Option.some.inj he, ← h.run_eq]
    exact hsame.result? _ _ hr
  · rw [hrouter]
    exact hgiven

/-- **Each move keeps the output where it belongs.** -/
theorem moved (h : Printed run log t w) (hruns : Bridge.Runs settings acts w.bridge)
    (hm : Moved t w t' w') : Printed run log t' w' := by
  cases hm with
  | prints hp hn => exact h.prints hp hn
  | runsDry hn hclosed =>
    -- Before the end of the run the channel is the session's, and so it is not closed.
    have hsome : t.result ≠ none := fun hnone =>
      absurd ((h.goesOn hnone).2.isClosed.symm.trans hclosed) (by simp)
    exact ⟨h.run_eq, h.mine, h.printed_eq, fun hnone => absurd hnone hsome, h.concluded,
      fun _ => Output.Router.waiting_of_next? hn⟩
  | asks hasked =>
    have hsame := hasked.sameRuns hruns session
    refine ⟨h.run_eq, hsame.runsOf_eq ▸ h.mine, ?_, ?_, ?_, ?_⟩
    · rw [hasked.router]
      exact h.printed_eq
    · rw [hasked.router]
      exact h.goesOn
    · rw [hasked.router]
      exact fun r hr => (h.concluded r hr).imp_left (hsame.result? run r)
    · rw [hasked.router]
      exact h.dry
  | concludes hnone hr hasked hb => exact h.concludes hruns hnone hr hasked hb

/-- **Nothing that happens meanwhile is missed.** -/
theorem meanwhile (h : Printed run log t w) (hruns : Bridge.Runs settings acts w.bridge)
    {act : Bridge.Act} {out : Option (SessionId × Output.Event)}
    (hu : w.bridge.Utters act out w'.bridge) (hl : act.LeavesAlone session t.channel) :
    Printed run (log ++ out.toList) t w' := by
  obtain ⟨info, hmine, rfl⟩ := h.mine
  have hmine' : w'.bridge.runsOf session = [info] :=
    (hu.step.runsOf_of_leavesAlone hruns hl).trans hmine
  have hheard := Bridge.heardBy_eq_emittedBy hruns hmine hu
  have hlog := Bridge.emittedBy_append info.id log out.toList
  -- As long as the result is not there the channel serves the session; afterwards it is given up,
  -- and the run, which is the only one of the session, has nothing more to say.
  cases hr : t.result with
  | none =>
    obtain ⟨hp, hserves⟩ := h.goesOn hr
    obtain ⟨hserves', hwaiting⟩ := hu.carries.serves hserves hl.1
    refine ⟨h.run_eq, ⟨info, hmine', rfl⟩, ?_, fun _ => ⟨hp, hserves'⟩,
      fun r he => absurd (hr.symm.trans he) (by simp),
      fun hd => absurd (hp.symm.trans hd) (by simp)⟩
    rw [hwaiting, hheard, hlog, ← List.append_assoc, h.printed_eq]
  | some r =>
    obtain ⟨hresult, hgiven⟩ := h.concluded r hr
    obtain ⟨hgiven', hwaiting⟩ := hu.carries.givenUp hgiven hl.1
    have hnone : Bridge.emittedBy info.id out.toList = [] := by
      refine Bridge.emittedBy_eq_nil fun x hx => ?_
      obtain rfl := Option.mem_toList.mp hx
      exact hu.ne_of_result? hruns hresult
    refine ⟨h.run_eq, ⟨info, hmine', rfl⟩, ?_, fun he => absurd (hr.symm.trans he) (by simp),
      fun r' he => ⟨?_, hgiven'⟩, fun hd => ?_⟩
    · rw [hwaiting, hlog, hnone, List.append_nil]
      exact h.printed_eq
    · exact (Bridge.Steps.begin.next hu.step).result? hruns (h.concluded r' he).1
    · rw [hwaiting]
      exact h.dry hd

/-- At the end nothing waits. -/
theorem done (h : Printed run log t w) {r : RunResult} (hd : t.done? = some r) :
    t.printed = Bridge.emittedBy run log ∧ w.bridge.result? run = some r := by
  unfold done? at hd
  split at hd
  · exact absurd hd (by simp)
  · rename_i hp
    have hprinted := h.printed_eq
    rw [h.dry (by simpa using hp), List.append_nil] at hprinted
    exact ⟨hprinted, (h.concluded r hd).1⟩

end Printed

/-- **At every moment of a terminal, the output of its run is where it belongs.**  What was printed
and what waits are together what the run has passed on, in order. -/
theorem History.printed (h : History t₀ w₀ log t w) (h₀ : Printed run [] t₀ w₀)
    (hs : Bridge.Speech { settings } [] w₀.bridge) : Printed run log t w := by
  induction h with
  | begin => exact h₀
  | next hbefore hm hmove ih =>
    obtain ⟨acts, hruns⟩ := (hbefore.speech hs).runs
    exact ih.moved hruns (moved_of_move hm hmove)
  | meanwhile hbefore hu hl ih =>
    obtain ⟨acts, hruns⟩ := (hbefore.speech hs).runs
    exact ih.meanwhile hruns hu hl
  | apart _ hb ih =>
    refine ⟨ih.run_eq, ?_, ?_, ?_, ?_, ?_⟩ <;> rw [hb]
    · exact ih.mine
    · exact ih.printed_eq
    · exact ih.goesOn
    · exact ih.concluded
    · exact ih.dry

/-! ## 3. The end of a terminal -/

theorem move?_print_some (hp : t.printing = true) {e : Output.Event} {router : Output.Router}
    (hn : w.bridge.router.next? t.channel = some (e, router)) :
    t.move? w (.print true) = some ({ t with printed := t.printed ++ [e] },
      { w with bridge := { w.bridge with router } }) := by
  simp [move?, hp, print?, hn]

theorem move?_print_none (hp : t.printing = true) (hn : w.bridge.router.next? t.channel = none)
    (hc : w.bridge.router.isClosed t.channel = true) :
    t.move? w (.print true) = some ({ t with printing := false }, w) := by
  simp [move?, hp, print?, hn, hc]

theorem move?_conclude (hnone : t.result = none) {r : RunResult}
    (hr : w.bridge.result? t.run = some r) :
    ∃ t' w', t.move? w .conclude = some (t', w') ∧ t'.result = some r := by
  simp [move?, hnone, conclude?, hr]

/-- What waits is printed piece by piece, and then the terminal is done. -/
theorem Printed.drains (h : Printed run log t w) (hs : Bridge.Speech { settings } more w.bridge)
    {r : RunResult} (hr : t.result = some r) :
    ∃ t' w', History t w [] t' w' ∧ t'.done? = some r := by
  induction hwaiting : w.bridge.router.waiting t.channel generalizing t w with
  | nil =>
    cases hp : t.printing with
    | false => exact ⟨t, w, .begin, by simp [done?, hp, hr]⟩
    | true =>
      -- one more look at the channel finds it empty and closed
      obtain ⟨acts, hruns⟩ := hs.runs
      have hn : w.bridge.router.next? t.channel = none := by
        cases hn : w.bridge.router.next? t.channel with
        | none => rfl
        | some p =>
          have hsome := Output.Router.waiting_of_next?_some hn
          exact absurd (hwaiting.symm.trans hsome) (by simp)
      have hclosed : w.bridge.router.isClosed t.channel = true := by
        rw [← Bool.not_eq_false, (Bridge.tidy_of_runs hruns).isClosed_eq_false]
        rintro ⟨other, ho⟩
        exact (h.concluded r hr).2.nobody other ho
      have hmove := move?_print_none hp hn hclosed
      exact ⟨_, _, History.begin.next (by simp) hmove, by simp [done?, hr]⟩
  | cons e rest ih =>
    have hp : t.printing = true := by
      cases hp : t.printing with
      | true => rfl
      | false => exact absurd ((h.dry hp).symm.trans hwaiting) (by simp)
    obtain ⟨router, hn, hrest⟩ := Output.Router.next?_of_waiting hwaiting
    have hnext := History.begin.next (by simp) (move?_print_some hp hn)
    obtain ⟨t', w', hlater, hdone⟩ := ih (h.prints hp hn) (hs.quiet (.takeNext hn) rfl) hr hrest
    exact ⟨t', w', hnext.append hlater, hdone⟩

/-- **Once the result of the run is there, a terminal can always come to its end.**  It prints what
still waits in the channel and then stops, so the output is never cut short by the end of the run.
-/
theorem Printed.comes_to_end (h : Printed run log t w)
    (hs : Bridge.Speech { settings } more w.bridge) {r : RunResult}
    (hr : w.bridge.result? run = some r) : ∃ t' w', History t w [] t' w' ∧ t'.done? = some r := by
  cases hres : t.result with
  | some r' =>
    obtain rfl : r' = r := Option.some.inj ((h.concluded r' hres).1.symm.trans hr)
    exact h.drains hs hres
  | none =>
    obtain ⟨acts, hruns⟩ := hs.runs
    obtain ⟨t₁, w₁, hmove, hr₁⟩ := move?_conclude hres (h.run_eq ▸ hr)
    have hnext := History.begin.next (by simp) hmove
    have h₁ := h.moved hruns (moved_of_move (by simp) hmove)
    obtain ⟨t', w', hlater, hdone⟩ := h₁.drains (hnext.speech hs) hr₁
    exact ⟨t', w', hnext.append hlater, hdone⟩

end Terminal

/-! ## 4. The end of a call -/

/-- A run that a call begins has a new studio. -/
theorem Call.start_of_begin {c : Call} {fresh : Id} {t : Terminal} {w : Studio}
    (h : c.begin fresh = .running t w) :
    ∃ settings script w₀, w₀.bridge = { settings }
      ∧ Terminal.start fresh script c.input w₀ = .ok (t, w) := by
  unfold Call.begin at h
  split at h
  · exact absurd h (by simp)
  · split at h
    · exact absurd h (by simp)
    · rename_i settings _
      split at h
      · exact absurd h (by simp)
      · unfold Call.beginServing at h
        split at h <;> exact absurd h (by simp)
      · rename_i args
        unfold Call.beginRun at h
        dsimp only at h
        split at h
        · rename_i t' w' hstart
          obtain ⟨rfl, rfl⟩ := Begun.running.inj h
          exact ⟨_, _, _, rfl, hstart⟩
        · exact absurd h (by simp)

/-- What the end of a call says of an outcome. -/
structure Ending.Tells (e : Ending) (o : Outcome) : Prop where
  output : e.output = o.stdout
  /-- Behind what the script has written there is a note if it took too long. -/
  errors : e.errors = o.stderr ++ if o.termination = .timedOut then
    s!"\nScript timed out after {o.durationMs} ms\n" else ""
  exited : o.termination = .exited → ∀ code, o.exitCode = some code → e.status = code
  killed : o.termination = .exited → o.exitCode = none → e.status = 130
  stopped : o.termination ≠ .exited → e.status = 130

/-- The end of a call that has printed what its script wrote tells of the outcome: the status of a
script that has ended by itself, and 130 if it was stopped or killed. -/
theorem Ending.tells_ofResult {o : Outcome} {output errors : String} (ho : output = o.stdout)
    (he : errors = o.stderr) : (Ending.ofResult output errors (.ok o)).Tells o := by
  subst ho he
  obtain ⟨id, code, stdout, stderr, termination, ms⟩ := o
  cases termination with
  | exited =>
    exact ⟨rfl, (String.append_empty).symm, fun _ code hcode => congrArg (·.getD interrupted) hcode,
      fun _ hnone => congrArg (·.getD interrupted) hnone, fun hne => absurd rfl hne⟩
  | cancelled =>
    exact ⟨rfl, (String.append_empty).symm, by simp, by simp, fun _ => rfl⟩
  | timedOut => exact ⟨rfl, rfl, by simp, by simp, fun _ => rfl⟩

/-- **All output of a run is printed before its call ends.**  Whatever the printer, the typist, the
user, the run and the machine do, and in whatever order: when a terminal is done, it has printed
all that was passed on for its run, in that order and each piece once, and its result is that of
the run.  So if there is an outcome, what was printed to each local stream is the transcript of
that stream, and the call ends as the outcome says.  And once the result of the run is there,
nothing keeps the terminal from coming to its end. -/
theorem Call.prints_all {c : Call} {fresh : Id} {t₀ t : Terminal} {w₀ w : Studio}
    {log : List (SessionId × Output.Event)} (hbegin : c.begin fresh = .running t₀ w₀)
    (h : Terminal.History t₀ w₀ log t w) :
    (∀ r, t.done? = some r →
      t.printed = Bridge.emittedBy fresh log ∧ w.bridge.result? fresh = some r
        ∧ ∀ o, r = .ok o → (∀ stream, t.text stream = o.written stream)
          ∧ (Ending.ofResult (t.text .stdout) (t.text .stderr) r).Tells o)
      ∧ ∀ r, w.bridge.result? fresh = some r →
        ∃ t' w', Terminal.History t w [] t' w' ∧ t'.done? = some r := by
  obtain ⟨settings, script, w', hb, hstart⟩ := c.start_of_begin hbegin
  obtain ⟨h₀, hs⟩ := Terminal.Printed.start hb hstart
  have hnow := h.printed h₀ hs
  refine ⟨fun r hdone => ?_, fun r hr => hnow.comes_to_end (h.speech hs) hr⟩
  obtain ⟨hprinted, hresult⟩ := hnow.done hdone
  refine ⟨hprinted, hresult, ?_⟩
  rintro o rfl
  have htext : ∀ stream, t.text stream = o.written stream := by
    intro stream
    rw [(h.speech hs).written_eq hresult stream, List.nil_append, ← hprinted]
    simp [Terminal.text, payloadsOf, beq_eq_decide]
  exact ⟨htext, Ending.tells_ofResult (htext .stdout) (htext .stderr)⟩

/-- A call whose interpreter makes directories; there is something in the place of the one that it
is asked for. -/
def Call.crowded : Call where
  words := ["run", "--interpreter", "/b/c", "/s"]
  environment := []
  machine := { files := ⟨[([[0x62]], .directory),
    ([[0x62], [0x63]], .file (Machine.imageOf "mkdir") true), ([[0x73]], .file [] false)]⟩ }
  cwd := []
  input := []

/-- The terminal that a call has begun to run its script in. -/
def Begun.terminal? : Begun → Option (Terminal × Studio)
  | .running t w => some (t, w)
  | .ended _ | .serving _ _ => none

theorem Begun.eq_of_terminal? {b : Begun} {t : Terminal} {w : Studio}
    (h : b.terminal? = some (t, w)) : b = .running t w := by
  cases b with
  | running t' w' =>
    obtain ⟨rfl, rfl⟩ := Prod.mk.inj (Option.some.inj h)
    rfl
  | _ => exact absurd h (by simp [terminal?])

/-- What the script complains of is printed, and the call ends with the status of the script. -/
theorem Call.crowded_complains :
    ∃ t₀ t w₀ w log o, Call.crowded.begin (.ofNat 7) = .running t₀ w₀
      ∧ Terminal.History t₀ w₀ log t w ∧ t.done? = some (.ok o)
      ∧ t.printed = Bridge.emittedBy (.ofNat 7) log
      ∧ t.text .stderr = "mkdir: cannot create directory '/s': File exists\n"
      ∧ (Ending.ofResult (t.text .stdout) (t.text .stderr) (.ok o)).status = 1 := by
  have hrun : ((Call.crowded.begin (.ofNat 7)).terminal?.bind fun x => (x.1.finish x.2).1.done?)
      = some (.ok ⟨.ofNat 7, some 1, "", "mkdir: cannot create directory '/s': File exists\n",
        .exited, 0⟩) := by
    cbv
  obtain ⟨⟨t₀, w₀⟩, hterminal, hdone⟩ := Option.bind_eq_some_iff.mp hrun
  have hbegin := Begun.eq_of_terminal? hterminal
  obtain ⟨settings, script, w', hb, hstart⟩ := Call.crowded.start_of_begin hbegin
  obtain ⟨log, h⟩ := Terminal.waitUpTo_history (t := t₀) Studio.patience
    (Terminal.Printed.start hb hstart).2
  obtain ⟨hprinted, -, hall⟩ := (Call.prints_all hbegin h).1 _ hdone
  obtain ⟨htext, htells⟩ := hall _ rfl
  exact ⟨t₀, _, w₀, _, log, _, hbegin, h, hdone, hprinted, htext .stderr, htells.exited rfl 1 rfl⟩

end Scriptorium
