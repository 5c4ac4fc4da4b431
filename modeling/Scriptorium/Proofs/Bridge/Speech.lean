import Scriptorium.Proofs.Bridge.Lifecycle

/-!
# What a run has passed on is what is kept of it

`Course` says of one run that its transcript is what it has passed on.  Here it is said of a bridge
with any number of runs: `Speech` is a history of the bridge that lists what was passed on in it,
each piece with the session it went to, and `emittedBy` is what came of one run.

The runs of a bridge only share the list: in each step at most one of them comes on, and what is
passed on bears its name.  So what is kept of each run stays what the list has of that run
(`Recorded.next`), and the transcript of every outcome is made of exactly the pieces that were
passed on for the run (`Speech.written_eq`).
-/
namespace Scriptorium.Bridge

open Run

/-! ## 1. Histories with what was passed on -/

/-- From `b₀`, steps have led to `b`; meanwhile the events of the list were passed on, each to its
session. -/
inductive Speech (b₀ : Bridge) : List (SessionId × Output.Event) → Bridge → Prop
  | begin : Speech b₀ [] b₀
  | next {log : List (SessionId × Output.Event)} {b b' : Bridge} {act : Act}
      {out : Option (SessionId × Output.Event)} : Speech b₀ log b → Utters b act out b' →
      Speech b₀ (log ++ out.toList) b'

/-- What was passed on for a run. -/
def emittedBy (run : Id) (log : List (SessionId × Output.Event)) : List Output.Event :=
  (log.map Prod.snd).filter (·.run = run)

variable {settings : RunSettings} {b₀ b b' : Bridge} {act : Act} {t : Task} {run : Id}
variable {log more : List (SessionId × Output.Event)} {out : Option (SessionId × Output.Event)}

theorem emittedBy_append (run : Id) (log more : List (SessionId × Output.Event)) :
    emittedBy run (log ++ more) = emittedBy run log ++ emittedBy run more := by
  simp [emittedBy]

theorem emittedBy_eq_nil (h : ∀ x ∈ log, x.2.run ≠ run) : emittedBy run log = [] := by
  refine List.filter_eq_nil_iff.mpr fun e he => ?_
  obtain ⟨x, hx, rfl⟩ := List.mem_map.mp he
  simpa using h x hx

/-- A step in which nothing is passed on. -/
theorem Speech.quiet (h : Speech b₀ log b) (hstep : Step b act b') (hwork : act.isWork = false) :
    Speech b₀ log b' := by
  simpa using h.next (.other hstep hwork)

theorem Speech.runs (h : Speech { settings } log b) : ∃ acts, Runs settings acts b := by
  induction h with
  | begin => exact ⟨[], .begin⟩
  | next _ hu ih =>
    obtain ⟨acts, hruns⟩ := ih
    exact ⟨_, hruns.next hu.step⟩

/-! ## 2. What is kept of one run -/

/-- What is kept of a run, or was kept when it ended, is what was passed on for it. -/
def Kept (passed : List Output.Event) : Phase → Prop
  | .supervised s =>
      ∀ stream, (s.supervisor.transcript stream).text = String.join (payloadsOf stream passed)
  | .ended r | .removed r | .settled r | .reported r =>
      ∀ o, r = .ok o → ∀ stream, o.written stream = String.join (payloadsOf stream passed)
  | .lost => True

theorem kept_firstPhase (settings : RunSettings) (now : Nat) :
    Kept [] (firstPhase settings now) := by
  unfold firstPhase
  split
  · intro stream
    cases stream <;> rfl
  · trivial

/-- A run keeps what it passes on. -/
theorem Kept.goesOn {passed : List Output.Event} {s s' : Supervision} {now : Nat}
    {cancelled : Bool} {r : Reaction} (h : Kept passed (.supervised s))
    (hs : Supervision.Step now cancelled s s' r) (run : Id) :
    Kept (passed ++ (r.event? run).toList) (.supervised s') := by
  intro stream
  rw [payloadsOf_append, String.join_append, ← h stream]
  obtain ⟨-, ⟨hsup, rfl⟩ | ⟨e, -, hsup, rfl⟩⟩ := hs.watch
  · simp [hsup, Reaction.event?, payloadsOf]
  · rw [hsup]
    exact Supervisor.step_text _ _ _ run e stream

theorem Kept.ends {passed : List Output.Event} {s : Supervision} (h : Kept passed (.supervised s))
    (run : Id) (ms : Nat) :
    Kept passed (.ended (s.supervisor.outcome s.terms.ceiling run ms)) := by
  intro o ho stream
  rw [Outcome.written_eq ho]
  exact h stream

/-- What is kept of every run is what the list has of it. -/
def KeptIn (log : List (SessionId × Output.Event)) (b : Bridge) : Prop :=
  ∀ t ∈ b.tasks, Kept (emittedBy t.info.id log) t.phase

theorem KeptIn.same (h : KeptIn log b) (hs : SamePhases b b') : KeptIn log b' := by
  intro t' ht'
  obtain ⟨t, ht, hi, hp⟩ := hs t' ht'
  rw [hi, hp]
  exact h t ht

/-- One run comes on, and what is passed on bears its name. -/
theorem KeptIn.update (h : KeptIn log b) (hs : SamePhases b b') {p : Phase}
    (hp : Kept (emittedBy run (log ++ more)) p) (hmore : ∀ x ∈ more, x.2.run = run) :
    KeptIn (log ++ more) (b'.updateTask run fun u => { u with phase := p }) := by
  intro t' ht'
  obtain ⟨v, hv, rfl⟩ := List.mem_map.mp ht'
  -- every other run has what it had, for none of the new pieces bears its name
  by_cases he : v.info.id = run
  · rw [if_pos he]
    exact he ▸ hp
  · have hnone : emittedBy v.info.id more = [] :=
      emittedBy_eq_nil fun x hx hrun => he (hrun.symm.trans (hmore x hx))
    rw [if_neg he, emittedBy_append, hnone, List.append_nil]
    exact h.same hs v hv

/-! ## 3. All runs of a bridge -/

/-- What is asked of a bridge leaves every run as far as it was. -/
theorem Step.samePhases (h : Step b act b') (hwork : act.isWork = false)
    (hstart : ∀ info, act ≠ .started info) (hend : ∀ run, act ≠ .deregistered run) :
    SamePhases b b' := by
  cases h with
  | start _ _ => exact absurd rfl (hstart _)
  | refuse _ => exact .refl b
  | offer session data => exact samePhases_offer b session data
  | release run => exact samePhases_updateTask fun _ => ⟨rfl, rfl⟩
  | endInput session => exact samePhases_endInput b session
  | cancel session => exact samePhases_cancel b session
  | close session => exact samePhases_cancel (b.unsubscribe session).1 session
  | subscribe session => exact .refl b
  | unsubscribe session => exact .refl b
  | takeAll _ => exact .refl b
  | takeNext _ => exact .refl b
  | hangUp i => exact .refl b
  | deregister _ _ _ => exact absurd rfl (hend _)
  | _ => exact absurd hwork (by simp [Act.isWork])

/-- The list and the runs of a bridge agree. -/
structure Recorded (log : List (SessionId × Output.Event)) (b : Bridge) : Prop where
  known : ∀ x ∈ log, ∃ t ∈ b.tasks, t.info.id = x.2.run
  kept : KeptIn log b

namespace Recorded

/-- Only runs that are known pass anything on, and a run that is known stays known. -/
theorem known_next (h : Recorded log b) {acts : List Act} (hruns : Runs settings acts b)
    (hu : Utters b act out b') :
    ∀ x ∈ log ++ out.toList, ∃ t ∈ b'.tasks, t.info.id = x.2.run := by
  intro x hx
  have hbefore : ∃ t ∈ b.tasks, t.info.id = x.2.run := by
    rcases List.mem_append.mp hx with hx | hx
    · exact h.known x hx
    · obtain rfl := Option.mem_toList.mp hx
      obtain ⟨t, ht, hid, -⟩ := hu.speaker
      exact ⟨t, ht, hid⟩
  obtain ⟨t, ht, hid⟩ := hbefore
  obtain ⟨t', ht', hi, -⟩ := hu.step.moves_of_mem (Consistent.of_runs hruns) ht
  exact ⟨t', ht', (congrArg RunInfo.id hi).trans hid⟩

/-- A run that starts has passed nothing on, so what is kept of it is what the list has of it,
namely nothing. -/
theorem kept_started (h : Recorded log b) {info : RunInfo} (hstep : Step b (.started info) b') :
    KeptIn log b' := by
  cases hstep with
  | start hnew hs =>
    obtain ⟨script, -, -, -, rfl, rfl⟩ := start_eq_ok hs
    intro t' ht'
    rw [register_tasks] at ht'
    rcases List.mem_append.mp ht' with ht' | ht'
    · exact h.kept.same (samePhases_displace b _) t' ht'
    · obtain rfl := List.mem_singleton.mp ht'
      -- nothing can have been passed on for a run that is new
      have hunheard : ∀ x ∈ log, x.2.run ≠ _ := fun x hx he => by
        obtain ⟨t, ht, hid⟩ := h.known x hx
        exact hnew t ht (hid.trans he)
      exact emittedBy_eq_nil hunheard ▸ kept_firstPhase _ _

/-- What a run has said is kept in every phase behind the end of its supervision, in its supervisor
first and in its result later. -/
theorem kept_nextPhase? (h : Recorded log b) (ht : t ∈ b.tasks)
    (hnext : b.nextPhase? t = some b') : KeptIn log b' := by
  have hkept := h.kept t ht
  have hupdate (b₁ : Bridge) (hs : SamePhases b b₁) (p : Phase)
      (hp : Kept (emittedBy t.info.id log) p) :
      KeptIn log (b₁.updateTask t.info.id fun u => { u with phase := p }) := by
    have hall := h.kept.update hs (by rwa [List.append_nil]) (List.forall_mem_nil _)
    rwa [List.append_nil] at hall
  unfold nextPhase? at hnext
  split at hnext
  · rename_i r hr
    obtain rfl := Option.some.inj hnext
    rw [hr] at hkept
    exact hupdate _ (samePhases_deregister b t.info) (.removed r) hkept
  · rename_i r hr
    obtain rfl := Option.some.inj hnext
    rw [hr] at hkept
    exact hupdate _ (.refl b) (.settled r) hkept
  · rename_i r hr
    obtain rfl := Option.some.inj hnext
    rw [hr] at hkept
    exact hupdate _ (.refl b) (.reported r) hkept
  · exact absurd hnext (by simp)

/-- **Whatever happens to a bridge, what is kept of each run stays what was passed on for it.** -/
theorem next (h : Recorded log b) {acts : List Act} (hruns : Runs settings acts b)
    (hu : Utters b act out b') : Recorded (log ++ out.toList) b' := by
  refine ⟨h.known_next hruns hu, ?_⟩
  cases hu with
  | @supervise t s s' r now ht hp hs =>
    have hkept : Kept (emittedBy t.info.id log) (.supervised s) := hp ▸ h.kept t ht
    intro t' ht'
    rw [tasks_react] at ht'
    refine h.kept.update (.refl b) ?_ ?_ t' ht'
    · have hown : emittedBy t.info.id ((r.event? t.info.id).map (t.info.session, ·)).toList
          = (r.event? t.info.id).toList := by
        cases he : r.emitted <;> simp [Reaction.event?, emittedBy, he]
      rw [emittedBy_append, hown]
      exact hkept.goesOn hs t.info.id
    · intro x hx
      obtain ⟨e, he, rfl⟩ := Option.map_eq_some_iff.mp (Option.mem_toList.mp hx)
      obtain ⟨piece, -, rfl⟩ := Option.map_eq_some_iff.mp he
      rfl
  | @conclude t s now ht hp _ =>
    have hkept : Kept (emittedBy t.info.id log) (.supervised s) := hp ▸ h.kept t ht
    refine h.kept.update (.refl b) ?_ (by simp)
    rw [Option.toList_none, List.append_nil]
    exact hkept.ends _ _
  | write ht hw =>
    rw [Option.toList_none, List.append_nil]
    exact h.kept.same (samePhases_updateTask fun _ => ⟨rfl, rfl⟩)
  | settle ht _ hnext =>
    rw [Option.toList_none, List.append_nil]
    exact h.kept_nextPhase? ht hnext
  | other hstep hwork =>
    rw [Option.toList_none, List.append_nil]
    cases act with
    | started info => exact h.kept_started hstep
    | deregistered run =>
      cases hstep with
      | deregister ht _ hnext => exact h.kept_nextPhase? ht hnext
    | _ => exact h.kept.same (hstep.samePhases hwork (by simp) (by simp))

end Recorded

theorem Speech.recorded (h : Speech { settings } log b) : Recorded log b := by
  induction h with
  | begin => exact ⟨by simp, fun t ht => absurd ht (by simp)⟩
  | next hbefore hu ih =>
    obtain ⟨acts, hruns⟩ := hbefore.runs
    exact ih.next hruns hu

/-- **The transcript of an outcome is what was passed on for the run**, of each stream in its order,
whatever else the bridge has passed on in between. -/
theorem Speech.written_eq (h : Speech { settings } log b) {o : Outcome}
    (hr : b.result? run = some (.ok o)) (stream : Stream) :
    o.written stream = String.join (payloadsOf stream (emittedBy run log)) := by
  obtain ⟨t, ht, hres⟩ := Option.bind_eq_some_iff.mp hr
  obtain ⟨hmem, rfl⟩ := mem_of_task? ht
  have hkept := h.recorded.kept t hmem
  cases hp : t.phase with
  | reported r =>
    rw [hp] at hkept hres
    exact hkept o (Option.some.inj hres) stream
  | _ =>
    rw [hp] at hres
    exact absurd hres (by simp [Phase.result?])

end Scriptorium.Bridge
