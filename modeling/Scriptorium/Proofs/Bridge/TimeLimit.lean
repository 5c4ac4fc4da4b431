import Scriptorium.Proofs.Bridge.Courses
import Scriptorium.Proofs.Bridge.Launch

/-!
# Limits that are too large

The settings give the seconds that a run may take and the bytes that are asked for at a time, and
either can be any number of 64 bits.  Not all of them can be worked with.  When a run starts, its
limit is made a moment of the clock, and that moment may be beyond what the clock can tell
(`LimitTold`); and nobody can be asked for more than `Pump.maxRequest` bytes at a time.

The second is harmless for everybody but the run: it goes its way, but none of its output is read
(`Course.silent`).  The first strands the session: the run has no supervisor, so that whoever waits
for its result is told so at once, but nobody is there to remove the run from the registry.  It
stays there for ever, and a session that may not replace its run never starts another one
(`Stranded`).

A run whose limit can be told is let go before its result is there (`LetGo`).  So which of the two
happens is a matter of the settings and of the moment of the start alone
(`let_go_iff_limit_told`).
-/
namespace Scriptorium

open Run

/-! ## 1. Moments that the clock can tell -/

namespace Run

/-- The time limit of a run that starts now, if it has one, is a moment that the clock can tell. -/
def LimitTold (settings : RunSettings) (now : Nat) : Prop :=
  ∀ secs, settings.runTimeout = some secs → now / 1000 + secs < clockRange

theorem Terms.ofSettings?_eq_none {settings : RunSettings} {now : Nat} :
    Terms.ofSettings? settings now = none ↔ ¬ LimitTold settings now := by
  unfold Terms.ofSettings? LimitTold
  cases settings.runTimeout with
  | none => simp
  | some secs =>
    by_cases h : now / 1000 + secs < clockRange
    · simp [h]
    · simp [h]

/-! ## 2. Streams that cannot be read -/

/-- No stream is read, and nothing has come of any. -/
structure Silent (s : Supervision) : Prop where
  shut : ∀ stream, (s.pump stream).isOpen = false
  queue : s.queue = []
  text : ∀ stream, (s.supervisor.transcript stream).text = ""

theorem Silent.start {terms : Terms} (h : Pump.maxRequest < terms.chunkSize) :
    Silent (.start terms) where
  shut stream := by
    have hnot : ¬ terms.chunkSize ≤ Pump.maxRequest := by omega
    cases stream <;> simpa [Supervision.start, Supervision.pump, Pump.start] using hnot
  queue := rfl
  text stream := by cases stream <;> rfl

/-- Only text from a chunk is kept. -/
theorem Supervisor.text_step_of_not_chunk (s : Supervisor) (ceiling now : Nat) {e : Event}
    (h : ∀ c, e ≠ .chunk c) (stream : Stream) :
    ((s.step ceiling now e).1.transcript stream).text = (s.transcript stream).text := by
  have hnone : (s.step ceiling now e).2.emitted = none := by
    cases hem : (s.step ceiling now e).2.emitted with
    | none => rfl
    | some out =>
      obtain ⟨⟨bytes, rfl⟩, -, -⟩ := Supervisor.step_emitted hem
      exact absurd rfl (h _)
  rw [Supervisor.step_text s ceiling now (.ofNat 0) e stream]
  simp [Reaction.event?, hnone, payloadsOf]

/-- If no stream is read, no turn of the supervision brings any chunk: the pumps have stopped before
their first read, and nothing waits in the queue. -/
theorem Silent.next {s s' : Supervision} {now : Nat} {cancelled : Bool} {x : Done}
    (h : Silent s) (hd : s.Does now cancelled x s') : Silent s' := by
  rcases hd.cases with ⟨stream, hs, -, -, -⟩ | ⟨e, rfl, -, -, hout⟩
  · exact absurd ((h.shut stream).symm.trans (hd.isOpen hs)) (by simp)
  · have hclosed : (∀ c, e ≠ .chunk c) ∧ s'.queue = []
        ∧ s'.supervisor = (s.learn now e).1.supervisor := by
      rcases hout with ⟨rest, hn, rfl⟩ | ⟨hb, rfl⟩
      · rcases Supervision.next?_cases hn with ⟨c, -, hq⟩ | ⟨rfl, -, rfl, -⟩
        · exact absurd (h.queue.symm.trans hq) (by simp)
        · exact ⟨fun c hc => absurd hc (by simp), rfl, rfl⟩
      · refine ⟨?_, h.queue, rfl⟩
        rintro c rfl
        exact hb
    obtain ⟨hnot, hqueue, hsup⟩ := hclosed
    refine ⟨fun stream => ?_, hqueue, fun stream => ?_⟩
    · rw [hd.pump stream]
      exact h.shut stream
    · rw [hsup]
      exact (s.supervisor.text_step_of_not_chunk _ now hnot stream).trans (h.text stream)

/-- **A run that is to ask for too much at a time never reads anything.**  The pumps fail before
their first read, so the run may end as it likes, and its outcome shows no output. -/
theorem Course.silent {terms : Terms} {log : List Done} {s : Supervision}
    (h : Course (.start terms) log s) (hsize : Pump.maxRequest < terms.chunkSize) : Silent s := by
  induction h with
  | begin => exact .start hsize
  | next now cancelled _ hd ih => exact ih.next hd

end Run

namespace Bridge

variable {settings : RunSettings} {log more : List Act} {b b' : Bridge} {t : Task}
variable {info : RunInfo} {result : RunResult}

/-- So its outcome, if it has one, shows no output, whatever the script wrote. -/
theorem written_eq_empty (h : Runs settings log b) (ht : t ∈ b.tasks)
    (hsize : Pump.maxRequest < settings.chunkSize) {o : Outcome}
    (hp : t.phase = .reported (.ok o)) (stream : Stream) : o.written stream = "" := by
  obtain ⟨done, s, terms, ms, -, hchunk, hcourse, -, ho⟩ := result_of_runs h ht hp
  rw [Outcome.written_eq ho.symm]
  exact (hcourse.silent (hchunk ▸ hsize)).text stream

/-! ## 3. Runs without a supervisor -/

/-- **A run has no supervisor exactly if its limit cannot be told.**  This is decided when the run
starts, by its settings and the clock, and nothing that happens later changes it. -/
theorem lost_iff (h : Runs settings log b) (ht : t ∈ b.tasks) :
    t.phase = .lost ↔ ¬ LimitTold settings t.info.started := by
  have ha := accounted_of_runs h t ht
  rw [← Terms.ofSettings?_eq_none]
  constructor
  · intro hp
    rwa [hp] at ha
  · intro hnone
    cases hp : t.phase with
    | lost => rfl
    | supervised s =>
      rw [hp] at ha
      exact absurd (hnone.symm.trans ha.1) (by simp)
    | _ =>
      rw [hp] at ha
      obtain ⟨_, _, _, _, hterms, -⟩ := ha
      exact absurd (hnone.symm.trans hterms) (by simp)

/-- The run is over and out of the way: it was removed from the registry, no session reaches it, its
state says what its result says, and if it is the latest run of its session, the session can start
another one wherever there are a script and an interpreter. -/
structure LetGo (log : List Act) (b : Bridge) (info : RunInfo) (result : RunResult) : Prop where
  deregistered : .deregistered info.id ∈ log
  unreached : Unreached b info.id
  state : b.state? info.id = some (.ofResult result)
  startable : Latest log info.session info.id →
    ∀ {α : Type} (id : Id) (now : Nat) (requested script : Path)
      (spawn : Path → Path → Except OsError α) (a : α), spawn script (directoryOf script) = .ok a →
      ∃ b' info', b.start id now info.session requested (some script) spawn = .ok (b', info', a)

/-- The run has no supervisor, and whatever happens it is never removed from the registry and shows
as running; if it may not be replaced, its session is refused every other run. -/
structure Stranded (settings : RunSettings) (log : List Act) (b : Bridge) (info : RunInfo)
    (result : RunResult) : Prop where
  result_eq : result = .error (.execution "run supervisor stopped before reporting")
  kept : ∀ more b', Steps b more b' → .deregistered info.id ∉ log ++ more
  running : ∀ more b', Steps b more b' → b'.state? info.id = some .running
  refused : settings.concurrentRuns = .reject → ∀ more b', Steps b more b' →
    ∀ {α : Type} (id : Id) (now : Nat) (requested script : Path)
      (spawn : Path → Path → Except OsError α),
      b'.start id now info.session requested (some script) spawn
        = .error (.alreadyRunning info.session)

/-- A session whose latest run was removed is idle. -/
theorem liveRun?_eq_none (hc : Consistent settings log b) {s : SessionId} {r : Id}
    (hl : Latest log s r) (hd : .deregistered r ∈ log) : b.liveRun? s = none := by
  cases hlive : b.liveRun? s with
  | none => rfl
  | some live =>
    have hh : b.Holds s live.run := by simp [Holds, hlive]
    obtain ⟨hlast, hnot⟩ := (hc.holds_iff_latest s live.run).mp hh
    rw [hlast.unique hl] at hnot
    exact absurd hd hnot

theorem start_of_idle {s : SessionId} (hidle : b.liveRun? s = none) {α : Type} (id : Id)
    (now : Nat) (requested script : Path) (spawn : Path → Path → Except OsError α) (a : α)
    (hspawn : spawn script (directoryOf script) = .ok a) :
    ∃ b' info', b.start id now s requested (some script) spawn = .ok (b', info', a) := by
  have hfree : ¬ b.Busy s := by simp [Busy, hidle]
  exact ⟨_, _, by simp only [start, permit_of_not_busy hfree, hspawn]; rfl⟩

theorem start_of_busy {s : SessionId} (hbusy : b.Busy s) {α : Type} (id : Id) (now : Nat)
    (requested script : Path) (spawn : Path → Path → Except OsError α) :
    b.start id now s requested (some script) spawn = .error (.alreadyRunning s) := by
  simp only [start, permit_of_busy hbusy]
  rfl

/-- A run that has a supervisor is let go before its result is there. -/
theorem letGo (h : Runs settings log b) (ht : t ∈ b.tasks)
    (hr : b.result? t.info.id = some result) (hl : t.phase ≠ .lost) :
    LetGo log b t.info result := by
  have hc := Consistent.of_runs h
  rw [hc.result?_eq ht] at hr
  have hstate := Phase.state_of_result? hr hl
  have hremoved : t.phase.isRemoved = true := by
    refine Phase.isRemoved_of_state ?_
    rw [hstate]
    exact Phase.ne_running_ofResult result
  have hd := (isRemoved_iff hc ht).mp hremoved
  refine ⟨hd, unreached_of_isRemoved h ht hremoved, ?_, fun hlatest => ?_⟩
  · rw [hc.state?_eq ht, hstate]
  · exact start_of_idle (liveRun?_eq_none hc hlatest hd)

/-- Under the policy that rejects, a run that was not removed is in the way of its session. -/
theorem busy_of_not_deregistered (hc : Consistent settings log b) (ht : t ∈ b.tasks)
    (hp : settings.concurrentRuns = .reject) (hd : .deregistered t.info.id ∉ log) :
    b.Busy t.info.session := by
  have hin : t.info ∈ startedIn log := hc.infos_eq ▸ List.mem_map_of_mem ht
  have hlatest := hc.rejected hp t.info.session t.info.id (mem_startedFor.mpr ⟨_, hin, rfl, rfl⟩) hd
  have hh := (hc.holds_iff_latest _ _).mpr ⟨hlatest, hd⟩
  obtain ⟨live, hlive, -⟩ := Option.map_eq_some_iff.mp hh
  exact ⟨hc.settings_eq ▸ hp, by rw [hlive]; rfl⟩

/-- A run without a supervisor stays as it is. -/
theorem stranded (h : Runs settings log b) (ht : t ∈ b.tasks)
    (hr : b.result? t.info.id = some result) (hl : t.phase = .lost) :
    Stranded settings log b t.info result := by
  have later {more : List Act} {b' : Bridge} (hmore : Steps b more b') :
      Consistent settings (log ++ more) b'
        ∧ ∃ t' ∈ b'.tasks, t'.info = t.info ∧ t'.phase = .lost := by
    refine ⟨.of_runs (h.append hmore), hmore.phase_kept (P := (· = .lost)) ?_ h ht hl⟩
    rintro info p p' hm rfl
    cases hm
    rfl
  have kept : ∀ more b', Steps b more b' → .deregistered t.info.id ∉ log ++ more := by
    intro more b' hmore
    obtain ⟨hc', t', ht', hi, hp⟩ := later hmore
    rw [← hi, ← isRemoved_iff hc' ht', hp]
    exact Bool.false_ne_true
  refine ⟨?_, kept, fun more b' hmore => ?_, fun hp more b' hmore => ?_⟩
  · rw [(Consistent.of_runs h).result?_eq ht, hl] at hr
    exact (Option.some.inj hr).symm
  · obtain ⟨hc', t', ht', hi, hp⟩ := later hmore
    rw [← hi, hc'.state?_eq ht', hp]
    rfl
  · obtain ⟨hc', t', ht', hi, -⟩ := later hmore
    have hnot := kept more b' hmore
    rw [← hi] at hnot ⊢
    have hbusy := busy_of_not_deregistered hc' ht' hp hnot
    intro α id now requested script spawn
    exact start_of_busy hbusy id now requested script spawn

/-! ## 4. What the settings decide -/

theorem LetGo.not_stranded (h : LetGo log b info result) : ¬ Stranded settings log b info result :=
  fun hs => hs.kept [] b .begin (by simpa using h.deregistered)

/-- **Whoever has the result of a run finds the session idle exactly if the limit of the run could
be told.**  Of a run whose result is there, after any history: it was let go if the limit of the
settings, counted from its start, is a moment that the clock can tell, and it is stranded if not.
And if more is to be read at a time than can be asked for, a run that has an outcome shows no
output. -/
theorem let_go_iff_limit_told (h : Runs settings log b) (ht : t ∈ b.tasks)
    (hr : b.result? t.info.id = some result) :
    (LetGo log b t.info result ↔ LimitTold settings t.info.started)
      ∧ (Stranded settings log b t.info result ↔ ¬ LimitTold settings t.info.started)
      ∧ (Pump.maxRequest < settings.chunkSize →
          ∀ o, result = .ok o → o.stdout = "" ∧ o.stderr = "") := by
  have hlost := lost_iff h ht
  have hresult : t.phase.result? = some result := by
    rw [← hr, (Consistent.of_runs h).result?_eq ht]
  refine ⟨⟨fun hgo => ?_, fun htold => ?_⟩, ⟨fun hs htold => ?_, fun hnot => ?_⟩, ?_⟩
  · by_contra hnot
    exact hgo.not_stranded (stranded h ht hr (hlost.mpr hnot))
  · exact letGo h ht hr fun hl => hlost.mp hl htold
  · exact (letGo h ht hr fun hl => hlost.mp hl htold).not_stranded hs
  · exact stranded h ht hr (hlost.mpr hnot)
  · rintro hsize o rfl
    have hp : t.phase = .reported (.ok o) := by
      cases hph : t.phase with
      | reported r =>
        rw [hph] at hresult
        exact congrArg _ (Option.some.inj hresult)
      | lost =>
        rw [hph] at hresult
        exact absurd (Option.some.inj hresult) (by simp)
      | _ =>
        rw [hph] at hresult
        exact absurd hresult (by simp [Phase.result?])
    exact ⟨written_eq_empty h ht hsize hp .stdout, written_eq_empty h ht hsize hp .stderr⟩

/-- A run that has one second and takes longer: it is stopped and let go, and its session can start
another one. -/
theorem late_run_let_go :
    ∃ log b info result, Runs { runTimeoutSecs := 1 } log b
      ∧ b.result? (.ofNat 1) = some result ∧ info.id = .ofNat 1 ∧ LetGo log b info result := by
  have first {b : Bridge} {t : Task} (h : b.tasks[0]? = some t) : t ∈ b.tasks :=
    List.mem_of_getElem? h
  have h0 : Runs { runTimeoutSecs := 1 } [] _ := .begin
  have h1 := h0.next (.start (fun _ ht => absurd ht (by simp))
    (rfl : start _ (.ofNat 1) 0 "w1" ⟨[]⟩ (some ⟨[]⟩) (fun _ _ => .ok ()) = _))
  have h2 := h1.next (.supervise 1000 (first rfl) rfl
    (.learn .timedOut rfl rfl ⟨1000, rfl, by decide⟩))
  have h3 := h2.next (.supervise 1500 (first rfl) rfl
    (.learn .drained rfl rfl ⟨1500, rfl, by decide⟩))
  have h4 := h3.next (.conclude 1501 (first rfl) rfl rfl)
  have h5 := h4.next (.deregister (first rfl) rfl rfl)
  have h6 := h5.next (.settle (first rfl) (by simp) rfl)
  have h7 := h6.next (.settle (first rfl) (by simp) rfl)
  have told : LimitTold { runTimeoutSecs := 1 } 0 := by
    intro secs hsecs
    obtain rfl : secs = 1 := by simpa [RunSettings.runTimeout] using hsecs.symm
    decide
  exact ⟨_, _, _, _, h7, rfl, rfl, (let_go_iff_limit_told h7 (first rfl) rfl).1.mpr told⟩

/-- A run with the longest limit that can be set: its result is there at once, but it is still
registered and shows as running, and its session cannot start another one. -/
theorem registered_after_result :
    ∃ log b result, Runs { runTimeoutSecs := 18446744073709551615 } log b
      ∧ b.result? (.ofNat 1) = some result ∧ b.Holds "w1" (.ofNat 1)
      ∧ b.state? (.ofNat 1) = some .running
      ∧ b.start (.ofNat 2) 5 "w1" ⟨[]⟩ (some ⟨[]⟩) (fun _ _ => .ok ())
        = .error (.alreadyRunning "w1") := by
  have h0 : Runs { runTimeoutSecs := 18446744073709551615 } [] _ := .begin
  have h1 := h0.next (.start (fun _ ht => absurd ht (by simp))
    (rfl : start _ (.ofNat 1) 0 "w1" ⟨[]⟩ (some ⟨[]⟩) (fun _ _ => .ok ()) = _))
  exact ⟨_, _, _, h1, rfl, by decide, rfl, rfl⟩

end Bridge
end Scriptorium
