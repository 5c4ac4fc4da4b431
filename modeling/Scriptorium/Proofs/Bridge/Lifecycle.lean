import Scriptorium.Proofs.Bridge.Emissions

/-!
# How a run comes to be over

Four things tell of a run: the registry, its state, its result, and what is passed on to its
session.  When supervision is over they change one after the other, and anybody may look in between.
What can be seen is nevertheless consistent: a run whose state says that it is over is not
registered any more, so that no request reaches it; a run whose result is there has a state that
says the same; and neither the state nor the result changes any more.  All of this is read off the
phase of the run, which goes one way only (`Phase.Moves`), and from the history of the registry.
-/
namespace Scriptorium

open Run

/-! ## 1. Phases go one way -/

namespace Phase

variable {info : RunInfo} {p p' : Phase} {r : RunResult}

/-- What supervision has come to, once it is over. -/
def verdict? : Phase → Option RunResult
  | .ended r | .removed r | .settled r | .reported r => some r
  | .supervised _ | .lost => none

theorem state_of_result? (h : p.result? = some r) (hl : p ≠ .lost) : p.state = .ofResult r := by
  cases p with
  | reported r' =>
    obtain rfl := Option.some.inj h
    rfl
  | lost => exact absurd rfl hl
  | _ => exact absurd h (by simp [result?])

theorem isRemoved_of_state (h : p.state ≠ .running) : p.isRemoved = true := by
  cases p with
  | settled r => rfl
  | reported r => rfl
  | _ => exact absurd rfl h

theorem ne_running_ofResult (r : RunResult) : RunState.ofResult r ≠ .running := by
  cases r <;> simp [RunState.ofResult]

theorem Moves.isRemoved (hm : p.Moves info p') (h : p.isRemoved = true) : p'.isRemoved = true := by
  cases hm with
  | stays => exact h
  | settles r => rfl
  | reports r => rfl
  | _ => exact absurd h (by simp [Phase.isRemoved])

theorem Moves.result? (hm : p.Moves info p') (h : p.result? = some r) : p'.result? = some r := by
  cases hm with
  | stays => exact h
  | _ => exact absurd h (by simp [Phase.result?])

theorem Moves.ne_lost (hm : p.Moves info p') (h : p ≠ .lost) : p' ≠ .lost := by
  cases hm with
  | stays => exact h
  | _ => exact Phase.noConfusion

theorem Moves.state (hm : p.Moves info p') {st : RunState} (hst : st ≠ .running)
    (h : p.state = st) : p'.state = st := by
  cases hm with
  | stays => exact h
  | reports r => exact h
  | _ => exact absurd h.symm hst

end Phase

namespace Bridge

variable {settings : RunSettings} {log more : List Act} {b b' : Bridge} {t : Task} {act : Act}
variable {r : Id}

/-! ## 2. Runs stay, and their phases go on -/

/-- The runs that were started, oldest first. -/
def infos (b : Bridge) : List RunInfo := b.tasks.map (·.info)

theorem map_fst_starts_eq_infos (b : Bridge) : b.starts.map Prod.fst = b.infos := by
  simp [infos, starts, Function.comp_def]

theorem Consistent.infos_eq (h : Consistent settings log b) : b.infos = startedIn log := by
  rw [← map_fst_starts_eq_infos, h.starts_eq, List.map_map]
  exact List.map_id _

/-- Among runs with different identifiers, each is found by its own. -/
theorem task?_of_mem (hn : (b.tasks.map (·.info.id)).Nodup) (ht : t ∈ b.tasks) :
    b.task? t.info.id = some t := by
  cases hf : b.task? t.info.id with
  | none => exact absurd (List.find?_eq_none.mp hf t ht) (by simp)
  | some u =>
    have hu : u.info.id = t.info.id := by simpa using List.find?_some hf
    rw [eq_of_id_eq hn ht (List.mem_of_find?_eq_some hf) hu]

theorem Consistent.task?_eq (h : Consistent settings log b) (ht : t ∈ b.tasks) :
    b.task? t.info.id = some t :=
  task?_of_mem h.nodup ht

theorem mem_of_task? (h : b.task? r = some t) : t ∈ b.tasks ∧ t.info.id = r :=
  ⟨List.mem_of_find?_eq_some h, by simpa using List.find?_some h⟩

/-- **A run that was started stays, and goes on by one move at most.**  This is the step lemma of a
run's life; all that is said of its phases, its state and its result follows from the moves that
there are. -/
theorem Step.moves_of_mem (hc : Consistent settings log b) (h : Step b act b')
    (ht : t ∈ b.tasks) : ∃ t' ∈ b'.tasks, t'.info = t.info ∧ t.phase.Moves t.info t'.phase := by
  have hc' := hc.step h
  have hin : t.info ∈ startedIn log := hc.infos_eq ▸ List.mem_map_of_mem ht
  have hin' : t.info ∈ b'.infos := by
    rw [hc'.infos_eq, startedIn_append]
    exact List.mem_append_left _ hin
  obtain ⟨t', ht', hi⟩ := List.mem_map.mp hin'
  refine ⟨t', ht', hi, ?_⟩
  rcases h.moves hc.nodup ht' with ⟨u, hu, hui, hm⟩ | ⟨rfl, -⟩
  · obtain rfl := eq_of_id_eq hc.nodup ht hu (by rw [← hui, hi])
    exact hm
  · -- a run that starts has an identifier of its own
    have hids := hc'.ids
    rw [startedIn_append, List.map_append, List.nodup_append] at hids
    exact absurd rfl (hids.2.2 _ (List.mem_map_of_mem hin) _ (by simp [startedIn, hi]))

/-- **What every move keeps is kept as long as the bridge goes on.**  It is enough to show that no
single move takes it away. -/
theorem Steps.phase_kept {P : Phase → Prop} (hP : ∀ {info p p'}, p.Moves info p' → P p → P p')
    (hmore : Steps b more b') (h : Runs settings log b) (ht : t ∈ b.tasks) (hp : P t.phase) :
    ∃ t' ∈ b'.tasks, t'.info = t.info ∧ P t'.phase := by
  induction hmore with
  | begin => exact ⟨t, ht, rfl, hp⟩
  | next hsteps hstep ih =>
    obtain ⟨t', ht', hi, hp'⟩ := ih
    have hc := Consistent.of_runs (h.append hsteps)
    obtain ⟨t'', ht'', hi', hm⟩ := hstep.moves_of_mem hc ht'
    exact ⟨t'', ht'', hi'.trans hi, hP hm hp'⟩

theorem isRemoved_iff (h : Consistent settings log b) (ht : t ∈ b.tasks) :
    t.phase.isRemoved = true ↔ .deregistered t.info.id ∈ log := by
  have hm : (t.info, t.phase.isRemoved) ∈ b.starts := List.mem_map_of_mem ht
  rw [h.starts_eq, List.mem_map] at hm
  obtain ⟨info, -, he⟩ := hm
  obtain ⟨rfl, hd⟩ := Prod.mk.inj he
  rw [← hd, decide_eq_true_iff]

/-! ## 3. Runs that no request reaches -/

/-- What happens to one run cannot be seen at a run with another identifier. -/
theorem task?_updateTask_of_ne {id : Id} {f : Task → Task} (hne : id ≠ r)
    (hf : ∀ t, (f t).info = t.info) : (b.updateTask id f).task? r = b.task? r := by
  unfold task? updateTask
  induction b.tasks with
  | nil => rfl
  | cons u us ih =>
    simp only [List.map_cons, List.find?_cons]
    by_cases hu : u.info.id = id
    · have h₁ : (u.info.id == r) = false := by simpa [hu] using hne
      have h₂ : ((f u).info.id == r) = false := by rw [hf]; exact h₁
      simp only [if_pos hu, h₁, h₂]
      exact ih
    · simp only [hu, if_false]
      split
      · rfl
      · exact ih

/-- No session reaches the run: it is nobody's live run, and what sessions ask for leaves it as it
is. -/
structure Unreached (b : Bridge) (r : Id) : Prop where
  held : ∀ s, ¬ b.Holds s r
  active : ∀ s info, b.activeRun? s = some info → info.id ≠ r
  offered : ∀ s data, (b.offer s data).1.task? r = b.task? r
    ∧ ∀ run number, (b.offer s data).2 = some (run, number) → run ≠ r
  endedInput : ∀ s, (b.endInput s).1.task? r = b.task? r
  cancelled : ∀ s, (b.cancel s).1.task? r = b.task? r

section Unreached

variable (h : ∀ s, ¬ b.Holds s r)
include h

theorem run_ne_of_not_held {s : SessionId} {live : Registration} (hl : b.liveRun? s = some live) :
    live.run ≠ r := by
  rintro rfl
  exact h s (by simp [Holds, hl])

theorem writable?_ne_of_not_held {s : SessionId} {run : Id} (hw : b.writable? s = some run) :
    run ≠ r := by
  unfold writable? at hw
  split at hw
  · rename_i hl
    obtain rfl := Option.some.inj hw
    exact run_ne_of_not_held h hl
  · exact absurd hw (by simp)

/-- A run that its session does not hold any more gets no writes: neither does its queue change nor
is a write ever said to be there. -/
theorem offer_of_not_held (s : SessionId) (data : Bytes) :
    (b.offer s data).1.task? r = b.task? r
      ∧ ∀ run number, (b.offer s data).2 = some (run, number) → run ≠ r := by
  unfold offer
  split
  · exact ⟨rfl, fun _ _ hn => absurd hn (by simp)⟩
  · rename_i run hw
    have hne := writable?_ne_of_not_held h hw
    split
    · exact ⟨rfl, fun _ _ hn => absurd hn (by simp)⟩
    · split
      · exact ⟨rfl, fun _ _ hn => absurd hn (by simp)⟩
      · refine ⟨task?_updateTask_of_ne hne fun _ => rfl, fun run' number hn => ?_⟩
        obtain ⟨rfl, -⟩ := Prod.mk.inj (Option.some.inj hn)
        exact hne

theorem endInput_of_not_held (s : SessionId) : (b.endInput s).1.task? r = b.task? r := by
  unfold endInput
  split
  · rfl
  · rename_i run hw
    exact task?_updateTask_of_ne (writable?_ne_of_not_held h hw) fun _ => rfl

theorem cancel_of_not_held (s : SessionId) : (b.cancel s).1.task? r = b.task? r := by
  unfold cancel
  split
  · rename_i live hl
    exact task?_updateTask_of_ne (run_ne_of_not_held h hl) fun _ => rfl
  · rfl

/-- **A run that is not registered is not reached by any session.**  Writes, ends of input and
requests to stop go by the registry, and the registry has another run there or none. -/
theorem unreached_of_not_held : Unreached b r where
  held := h
  active s info ha := by
    obtain ⟨live, hl, hi⟩ := Option.bind_eq_some_iff.mp ha
    obtain ⟨t, ht, rfl⟩ := Option.map_eq_some_iff.mp hi
    rw [(mem_of_task? ht).2]
    exact run_ne_of_not_held h hl
  offered := offer_of_not_held h
  endedInput := endInput_of_not_held h
  cancelled := cancel_of_not_held h

end Unreached

theorem unreached_of_isRemoved (h : Runs settings log b) (ht : t ∈ b.tasks)
    (hr : t.phase.isRemoved = true) : Unreached b t.info.id := by
  have hc := Consistent.of_runs h
  refine unreached_of_not_held fun s hs => ?_
  exact ((hc.holds_iff_latest s _).mp hs).2 ((isRemoved_iff hc ht).mp hr)

/-! ## 4. Supervision that is over leads to a result -/

theorem infos_updateTask {id : Id} {f : Task → Task} (hf : ∀ t, (f t).info = t.info) :
    (b.updateTask id f).infos = b.infos := by
  simp only [infos, updateTask, List.map_map]
  refine List.map_congr_left fun t _ => ?_
  simp only [Function.comp_apply]
  split
  · exact hf t
  · rfl

theorem infos_deregister (b : Bridge) (info : RunInfo) : (b.deregister info).infos = b.infos := by
  unfold deregister
  split
  · split
    · exact infos_updateTask fun _ => rfl
    · rfl
  · rfl

/-- The run of an update has come to the phase that it was given. -/
theorem mem_updateTask_phase {b₀ : Bridge} (hi : b₀.infos = b.infos) (ht : t ∈ b.tasks)
    (p : Phase) : ∃ t' ∈ (b₀.updateTask t.info.id fun u => { u with phase := p }).tasks,
      t'.info = t.info ∧ t'.phase = p := by
  have hin : t.info ∈ b₀.infos := hi ▸ List.mem_map_of_mem ht
  obtain ⟨u, hu, he⟩ := List.mem_map.mp hin
  refine ⟨{ u with phase := p }, List.mem_map.mpr ⟨u, hu, ?_⟩, he, rfl⟩
  rw [if_pos (by rw [he])]

/-- The run can come to its result by steps of its own. -/
def Reports (b : Bridge) (info : RunInfo) (result : RunResult) : Prop :=
  ∃ more b' t', Steps b more b'
    ∧ (∀ act ∈ more, act = .deregistered info.id ∨ act = .worked info.id)
    ∧ t' ∈ b'.tasks ∧ t'.info = info ∧ t'.phase = .reported result

section Reports

variable {info : RunInfo} {result : RunResult}

theorem Reports.of_step (hstep : Step b act b')
    (hown : act = .deregistered info.id ∨ act = .worked info.id) (h : Reports b' info result) :
    Reports b info result := by
  obtain ⟨more, b'', t', hsteps, hmore, ht', hi, hp⟩ := h
  refine ⟨_, b'', t', (Steps.begin.next hstep).append hsteps, fun act' hact => ?_, ht', hi, hp⟩
  rcases List.mem_append.mp hact with hact | hact
  · rw [List.mem_singleton.mp hact]
    exact hown
  · exact hmore act' hact

/-- If the next phase leads to the result, so does the phase that the run is in. -/
theorem reports_of_next {b₀ : Bridge} {p : Phase} (ht : t ∈ b.tasks) (hi : b₀.infos = b.infos)
    (hn : b.nextPhase? t = some (b₀.updateTask t.info.id fun u => { u with phase := p }))
    (hlater : ∀ b' t', t' ∈ b'.tasks → t'.info = t.info → t'.phase = p →
      Reports b' t.info result) : Reports b t.info result := by
  obtain ⟨u, hu, hui, hup⟩ := mem_updateTask_phase hi ht p
  have hrest := hlater _ u hu hui hup
  cases hp : t.phase with
  | ended r => exact .of_step (.deregister ht hp hn) (.inl rfl) hrest
  | _ => exact .of_step (.settle ht (by simp [hp]) hn) (.inr rfl) hrest

/-- A run by itself comes from the end of its supervision to its result. -/
theorem reports (ht : t ∈ b.tasks) (hv : t.phase.verdict? = some result) :
    Reports b t.info result := by
  have hreported (info : RunInfo) : ∀ b t, t ∈ b.tasks → t.info = info →
      t.phase = .reported result → Reports b info result :=
    fun b t ht hi hp => ⟨[], b, t, .begin, by simp, ht, hi, hp⟩
  have hsettled (info : RunInfo) : ∀ b t, t ∈ b.tasks → t.info = info →
      t.phase = .settled result → Reports b info result := by
    rintro b t ht rfl hp
    exact reports_of_next ht rfl (by rw [nextPhase?, hp]) (hreported t.info)
  have hremoved (info : RunInfo) : ∀ b t, t ∈ b.tasks → t.info = info →
      t.phase = .removed result → Reports b info result := by
    rintro b t ht rfl hp
    exact reports_of_next ht rfl (by rw [nextPhase?, hp]) (hsettled t.info)
  cases hp : t.phase with
  | supervised s => exact absurd hv (by simp [hp, Phase.verdict?])
  | lost => exact absurd hv (by simp [hp, Phase.verdict?])
  | ended r =>
    obtain rfl : r = result := by simpa [hp, Phase.verdict?] using hv
    have hremove := infos_deregister b t.info
    exact reports_of_next ht hremove (by rw [nextPhase?, hp]) (hremoved t.info)
  | removed r =>
    obtain rfl : r = result := by simpa [hp, Phase.verdict?] using hv
    exact hremoved t.info b t ht rfl hp
  | settled r =>
    obtain rfl : r = result := by simpa [hp, Phase.verdict?] using hv
    exact hsettled t.info b t ht rfl hp
  | reported r =>
    obtain rfl : r = result := by simpa [hp, Phase.verdict?] using hv
    exact hreported t.info b t ht rfl hp

end Reports

/-! ## 5. What can be seen of a run -/

theorem Consistent.state?_eq (h : Consistent settings log b) (ht : t ∈ b.tasks) :
    b.state? t.info.id = some t.phase.state := by
  rw [state?, h.task?_eq ht, Option.map_some]

theorem Consistent.result?_eq (h : Consistent settings log b) (ht : t ∈ b.tasks) :
    b.result? t.info.id = t.phase.result? := by
  rw [result?, h.task?_eq ht, Option.bind_some]

/-- A run that has just started is on. -/
theorem state?_started {info : RunInfo} (h : Runs settings log b)
    (hstep : Step b (.started info) b') : b'.state? info.id = some .running := by
  have hc' := Consistent.of_runs (h.next hstep)
  cases hstep with
  | start hnew hs =>
    obtain ⟨script, -, -, -, -, rfl⟩ := start_eq_ok hs
    have hmem : (⟨info, false, {}, firstPhase b.settings info.started⟩ : Task)
        ∈ (b.register info).tasks := by
      rw [register_tasks]
      exact List.mem_append_right _ (List.mem_singleton_self _)
    refine (hc'.state?_eq hmem).trans (congrArg some ?_)
    unfold firstPhase
    split <;> rfl

/-- **A state that says that the run is over stays, and nobody reaches the run any more.**  The
state is only set when the run was removed from the registry, so by then all requests go past it. -/
theorem over_stays (h : Runs settings log b) (ht : t ∈ b.tasks) (hst : t.phase.state ≠ .running)
    (hmore : Steps b more b') :
    b'.state? t.info.id = some t.phase.state ∧ Unreached b' t.info.id := by
  have h' := h.append hmore
  obtain ⟨t', ht', hi, hs, hr⟩ := hmore.phase_kept
    (P := fun p => p.state = t.phase.state ∧ p.isRemoved = true)
    (fun hm hp => ⟨hm.state hst hp.1, hm.isRemoved hp.2⟩) h ht
    ⟨rfl, Phase.isRemoved_of_state hst⟩
  rw [← hi, (Consistent.of_runs h').state?_eq ht', hs]
  exact ⟨rfl, unreached_of_isRemoved h' ht' hr⟩

/-- The result of a run says what its state has said ever since it was over. -/
theorem state_eq_of_result? (h : Runs settings log b) (ht : t ∈ b.tasks) (hl : t.phase ≠ .lost)
    (hst : t.phase.state ≠ .running) (hmore : Steps b more b') {result : RunResult}
    (hr : b'.result? t.info.id = some result) : t.phase.state = .ofResult result := by
  have hc' := Consistent.of_runs (h.append hmore)
  obtain ⟨t', ht', hi, hs, hl'⟩ := hmore.phase_kept
    (P := fun p => p.state = t.phase.state ∧ p ≠ .lost)
    (fun hm hp => ⟨hm.state hst hp.1, hm.ne_lost hp.2⟩) h ht ⟨rfl, hl⟩
  rw [← hi, hc'.result?_eq ht'] at hr
  rw [← hs]
  exact Phase.state_of_result? hr hl'

/-- A run that was removed from the registry passes nothing on any more. -/
theorem silent_of_deregistered (h : Runs settings log b) (ht : t ∈ b.tasks)
    (hd : .deregistered t.info.id ∈ log) {session : SessionId} {e : Output.Event}
    (hu : Utters b act (some (session, e)) b') : e.run ≠ t.info.id := by
  have hc := Consistent.of_runs h
  intro he
  obtain ⟨u, hu, hid, -, s, hp⟩ := hu.speaker
  obtain rfl := eq_of_id_eq hc.nodup ht hu (hid.trans he)
  have hr := (isRemoved_iff hc ht).mpr hd
  rw [hp] at hr
  exact absurd hr (by simp [Phase.isRemoved])

/-- **A run is over once and for all, and all that can be seen of it agrees.**  Of a run that is
looked after, at any moment of any history: it begins as running; once its state says something
else, it says so for ever, and no session reaches the run; once the result is there, the state says
that the run is over, and whether it has completed or failed is whether the result is an outcome or
an error; when supervision is over, the run comes to the state and the result of its verdict by
itself; and it passes nothing on after it was removed from the registry. -/
theorem over_once_for_all (h : Runs settings log b) (ht : t ∈ b.tasks) (hl : t.phase ≠ .lost) :
    (∀ before b₀ b₁, Runs settings before b₀ → Step b₀ (.started t.info) b₁ →
        b₁.state? t.info.id = some .running)
      ∧ (∀ st, b.state? t.info.id = some st → st ≠ .running →
          ∀ more b', Steps b more b' → b'.state? t.info.id = some st ∧ Unreached b' t.info.id)
      ∧ (∀ result, b.result? t.info.id = some result → b.state? t.info.id ≠ some .running)
      ∧ (∀ st, b.state? t.info.id = some st → st ≠ .running →
          ∀ more b' result, Steps b more b' → b'.result? t.info.id = some result →
            (st = .completed ↔ ∃ outcome, result = .ok outcome)
              ∧ (st = .failed ↔ ∃ e, result = .error e))
      ∧ (∀ result, t.phase.verdict? = some result → ∃ more b', Steps b more b'
          ∧ (∀ act ∈ more, act = .deregistered t.info.id ∨ act = .worked t.info.id)
          ∧ b'.state? t.info.id = some (.ofResult result) ∧ b'.result? t.info.id = some result)
      ∧ (.deregistered t.info.id ∈ log → ∀ act session e b',
          Utters b act (some (session, e)) b' → e.run ≠ t.info.id) := by
  have hc := Consistent.of_runs h
  have hstate := hc.state?_eq ht
  refine ⟨fun before b₀ b₁ h₀ hstep => state?_started h₀ hstep, ?_, ?_, ?_, ?_, ?_⟩
  · intro st hst hne more b' hmore
    obtain rfl := Option.some.inj (hstate.symm.trans hst)
    exact over_stays h ht hne hmore
  · intro result hr
    rw [hc.result?_eq ht] at hr
    rw [hstate, Phase.state_of_result? hr hl]
    exact fun he => Phase.ne_running_ofResult result (Option.some.inj he)
  · intro st hst hne more b' result hmore hr
    obtain rfl := Option.some.inj (hstate.symm.trans hst)
    rw [state_eq_of_result? h ht hl hne hmore hr]
    cases result <;> simp [RunState.ofResult]
  · intro result hv
    obtain ⟨more, b', t', hmore, hown, ht', hi, hp⟩ := reports ht hv
    have hc' := Consistent.of_runs (h.append hmore)
    refine ⟨more, b', hmore, hown, ?_, ?_⟩
    · rw [← hi, hc'.state?_eq ht', hp]
      rfl
    · rw [← hi, hc'.result?_eq ht', hp]
      rfl
  · intro hd act session e b' hu
    exact silent_of_deregistered h ht hd hu

/-- A run that was cancelled has its outcome: between its removal from the registry and its result,
its state already says that it has completed, and its session is idle. -/
theorem completed_before_result :
    ∃ log b outcome, Runs {} log b ∧ b.state? (.ofNat 1) = some .completed
      ∧ b.result? (.ofNat 1) = none ∧ Unreached b (.ofNat 1)
      ∧ ∃ more b', Steps b more b' ∧ b'.result? (.ofNat 1) = some (.ok outcome) := by
  have first {b : Bridge} {t : Task} (h : b.tasks[0]? = some t) : t ∈ b.tasks :=
    List.mem_of_getElem? h
  have h0 : Runs {} [] _ := .begin
  have h1 := h0.next (.start (fun _ ht => absurd ht (by simp))
    (rfl : start _ (.ofNat 1) 0 "w1" ⟨[]⟩ (some ⟨[]⟩) (fun _ _ => .ok ()) = _))
  have h2 := h1.next (.cancel "w1")
  have h3 := h2.next (.supervise 10 (first rfl) rfl (.learn .cancelled rfl rfl rfl))
  have h4 := h3.next (.supervise 510 (first rfl) rfl
    (.learn .drained rfl rfl ⟨510, rfl, by decide⟩))
  have h5 := h4.next (.conclude 511 (first rfl) rfl rfl)
  have h6 := h5.next (.deregister (first rfl) rfl rfl)
  have h7 := h6.next (.settle (first rfl) (by simp) rfl)
  obtain ⟨-, stays, -, -, comes, -⟩ := over_once_for_all h7 (first rfl) (by simp)
  obtain ⟨more, b', hmore, -, -, hr⟩ := comes _ rfl
  exact ⟨_, _, _, h7, rfl, rfl, (stays _ rfl (by decide) [] _ .begin).2, more, b', hmore, hr⟩

end Bridge
end Scriptorium
