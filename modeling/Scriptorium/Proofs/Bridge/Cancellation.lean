import Scriptorium.Proofs.Bridge.Lifecycle

/-!
# Which runs are told to stop

Three things tell a run to stop: its session cancels it, its session is closed, or a run starts in
its place.  All three find the run through the registry, and a run that is told to stop may stay
there, or be gone from it, for a long time before its supervisor notices.

What is told to whom is nevertheless a matter of the moment at which it happens (`Stops`): it is the
run that is registered then for the session that asks, and no other (`Step.tokens_eq`).  So a run is
told to stop exactly if one of the three has happened while it was registered, and a run that its
supervisor has not removed yet is registered or was told to stop (`told_iff_stopped`): no process is
left behind that nobody can stop.
-/
namespace Scriptorium.Bridge

open Run

variable {settings : RunSettings} {log : List Act} {b b' : Bridge} {act : Act} {t : Task}

/-! ## 1. Who was told to stop -/

/-- The runs that were started, oldest first, with whether each was told to stop. -/
def tokens (b : Bridge) : List (RunInfo × Bool) := b.tasks.map fun t => (t.info, t.cancelled)

theorem mem_tokens {info : RunInfo} {c : Bool} :
    (info, c) ∈ b.tokens ↔ ∃ t ∈ b.tasks, t.info = info ∧ t.cancelled = c := by
  simp [tokens]

theorem tokens_updateTask {id : Id} {f : Task → Task}
    (hf : ∀ t, (f t).info = t.info ∧ (f t).cancelled = t.cancelled) :
    (b.updateTask id f).tokens = b.tokens := by
  simp only [tokens, updateTask, List.map_map]
  refine List.map_congr_left fun t _ => ?_
  simp only [Function.comp_apply]
  split
  · rw [(hf t).1, (hf t).2]
  · rfl

@[simp] theorem tokens_detach (b : Bridge) (id : Id) : (b.detach id).tokens = b.tokens :=
  tokens_updateTask fun _ => ⟨rfl, rfl⟩

/-- The runs with one of them told to stop. -/
def withTold (told : Option Id) (tokens : List (RunInfo × Bool)) : List (RunInfo × Bool) :=
  tokens.map fun e => if told = some e.1.id then (e.1, true) else e

@[simp] theorem withTold_none (tokens : List (RunInfo × Bool)) : withTold none tokens = tokens := by
  simp [withTold]

/-- A run has been told to stop after somebody was told if it had been told before, or if it is the
one that was told now; no request takes a stop back. -/
theorem mem_withTold {told : Option Id} {tokens : List (RunInfo × Bool)} {info : RunInfo}
    {c : Bool} : (info, c) ∈ withTold told tokens ↔
      ∃ c₀, (info, c₀) ∈ tokens ∧ (c = true ↔ c₀ = true ∨ told = some info.id) := by
  simp only [withTold, List.mem_map]
  constructor
  · rintro ⟨⟨i, c₀⟩, hm, he⟩
    by_cases hi : told = some i.id
    · obtain ⟨rfl, rfl⟩ := Prod.mk.inj ((if_pos hi).symm.trans he)
      exact ⟨c₀, hm, by simp [hi]⟩
    · obtain ⟨rfl, rfl⟩ := Prod.mk.inj ((if_neg hi).symm.trans he)
      exact ⟨c₀, hm, by simp [hi]⟩
  · rintro ⟨c₀, hm, hc⟩
    refine ⟨(info, c₀), hm, ?_⟩
    by_cases hi : told = some info.id
    · have : c = true := hc.mpr (.inr hi)
      simp [hi, this]
    · have : c = c₀ := by
        rw [Bool.eq_iff_iff, hc]
        simp [hi]
      simp [hi, this]

theorem tokens_fireCancel (b : Bridge) (id : Id) :
    (b.fireCancel id).tokens = withTold (some id) b.tokens := by
  simp only [tokens, fireCancel, updateTask, withTold, List.map_map]
  refine List.map_congr_left fun t _ => ?_
  by_cases h : t.info.id = id
  · simp [h]
  · have h' : id ≠ t.info.id := fun e => h e.symm
    simp [h, h']

/-- A request to cancel tells the live run of its session and nobody else, whatever the other
sessions are doing. -/
theorem tokens_cancel (b : Bridge) (session : SessionId) :
    (b.cancel session).1.tokens = withTold ((b.liveRun? session).map (·.run)) b.tokens := by
  unfold cancel
  split
  · rename_i live hl
    rw [hl]
    exact tokens_fireCancel b live.run
  · rename_i hl
    rw [hl]
    exact (withTold_none _).symm

/-- To let go of a session's run, as for a new run in its place, is to tell it to stop just as a
request to cancel does. -/
theorem tokens_displace (b : Bridge) (session : SessionId) :
    (b.displace session).tokens = withTold ((b.liveRun? session).map (·.run)) b.tokens := by
  unfold displace
  split
  · rename_i live hl
    rw [hl, tokens_detach]
    exact tokens_fireCancel b live.run
  · rename_i hl
    rw [hl]
    exact (withTold_none _).symm

theorem tokens_register (b : Bridge) (info : RunInfo) :
    (b.register info).tokens
      = withTold ((b.liveRun? info.session).map (·.run)) b.tokens ++ [(info, false)] := by
  rw [← tokens_displace, tokens, register_tasks, List.map_append]
  rfl

/-- A write to the input of a run tells nobody to stop, whether or not it is taken. -/
theorem tokens_offer (b : Bridge) (session : SessionId) (data : Bytes) :
    (b.offer session data).1.tokens = b.tokens := by
  unfold offer
  split
  · rfl
  · split
    · rfl
    · split
      · rfl
      · exact tokens_updateTask fun _ => ⟨rfl, rfl⟩

theorem tokens_endInput (b : Bridge) (session : SessionId) :
    (b.endInput session).1.tokens = b.tokens := by
  unfold endInput
  split
  · rfl
  · exact tokens_detach b _

theorem tokens_deregister (b : Bridge) (info : RunInfo) :
    (b.deregister info).tokens = b.tokens := by
  unfold deregister
  split
  · split
    · exact tokens_detach b _
    · rfl
  · rfl

theorem tokens_react (b : Bridge) (info : RunInfo) (next : Supervision × Reaction) :
    (b.react info next).tokens = b.tokens := by
  rw [tokens, tasks_react]
  exact tokens_updateTask fun _ => ⟨rfl, rfl⟩

/-- A run that goes on from the end of its supervision to its result tells nobody to stop; by then
its own token is of no use any more. -/
theorem tokens_nextPhase? (h : b.nextPhase? t = some b') : b'.tokens = b.tokens := by
  unfold nextPhase? at h
  split at h
  · obtain rfl := Option.some.inj h
    have hd := tokens_deregister b t.info
    rw [← hd]
    exact tokens_updateTask fun _ => ⟨rfl, rfl⟩
  · obtain rfl := Option.some.inj h
    exact tokens_updateTask fun _ => ⟨rfl, rfl⟩
  · obtain rfl := Option.some.inj h
    exact tokens_updateTask fun _ => ⟨rfl, rfl⟩
  · exact absurd h (by simp)

/-! ## 2. What a step does -/

/-- The session whose live run is told to stop. -/
def Act.stops? : Act → Option SessionId
  | .cancelled session | .closed session => some session
  | .started info => some info.session
  | _ => none

/-- The run that is told to stop. -/
def told? (b : Bridge) (act : Act) : Option Id :=
  act.stops?.bind fun session => (b.liveRun? session).map (·.run)

/-- The run that starts, which nobody has told to stop. -/
def Act.begun : Act → List (RunInfo × Bool)
  | .started info => [(info, false)]
  | _ => []

/-- **What a step does to the requests to stop.**  At most one run is told to stop: the one that is
registered for the session that asks for it.  A run that starts was not told to stop. -/
theorem Step.tokens_eq (h : Step b act b') :
    b'.tokens = withTold (b.told? act) b.tokens ++ act.begun := by
  have quiet {act : Act} (hs : act.stops? = none) (hb : act.begun = [])
      (he : b'.tokens = b.tokens) : b'.tokens = withTold (b.told? act) b.tokens ++ act.begun := by
    simp [told?, hs, hb, he]
  cases h with
  | start _ hs =>
    obtain ⟨script, -, -, -, -, rfl⟩ := start_eq_ok hs
    exact tokens_register b _
  | cancel session => exact (tokens_cancel b session).trans (List.append_nil _).symm
  | close session =>
    exact (tokens_cancel (b.unsubscribe session).1 session).trans (List.append_nil _).symm
  | refuse _ => exact quiet rfl rfl rfl
  | offer session data => exact quiet rfl rfl (tokens_offer b session data)
  | release run => exact quiet rfl rfl (tokens_updateTask fun _ => ⟨rfl, rfl⟩)
  | endInput session => exact quiet rfl rfl (tokens_endInput b session)
  | subscribe session => exact quiet rfl rfl rfl
  | unsubscribe session => exact quiet rfl rfl rfl
  | takeAll _ => exact quiet rfl rfl rfl
  | takeNext _ => exact quiet rfl rfl rfl
  | hangUp i => exact quiet rfl rfl rfl
  | supervise now _ _ _ => exact quiet rfl rfl (tokens_react b _ _)
  | conclude now _ _ _ => exact quiet rfl rfl (tokens_updateTask fun _ => ⟨rfl, rfl⟩)
  | write _ _ => exact quiet rfl rfl (tokens_updateTask fun _ => ⟨rfl, rfl⟩)
  | deregister _ _ hn => exact quiet rfl rfl (tokens_nextPhase? hn)
  | settle _ _ hn => exact quiet rfl rfl (tokens_nextPhase? hn)

/-- What happens tells the run to stop: while it is registered for its session, the session cancels
it or is closed, or another run starts in its place. -/
inductive Stops (b : Bridge) (info : RunInfo) : Act → Prop
  | cancelled : b.Holds info.session info.id → Stops b info (.cancelled info.session)
  | closed : b.Holds info.session info.id → Stops b info (.closed info.session)
  | replaced {next : RunInfo} : b.Holds info.session info.id → next.session = info.session →
      b.settings.concurrentRuns = .replace → Stops b info (.started next)

theorem Stops.holds {info : RunInfo} (h : Stops b info act) : b.Holds info.session info.id := by
  cases h with
  | cancelled hh => exact hh
  | closed hh => exact hh
  | replaced hh _ _ => exact hh

/-- It is the session of the run that asks. -/
theorem Stops.asks {info : RunInfo} (h : Stops b info act) : act.stops? = some info.session := by
  cases h with
  | cancelled _ => rfl
  | closed _ => rfl
  | replaced _ hs _ => exact congrArg some hs

/-- A session that has a run may start another one only if it may replace its run. -/
theorem Step.replaces {next : RunInfo} {r : Id} (hc : Consistent settings log b)
    (h : Step b (.started next) b') (hh : b.Holds next.session r) :
    b.settings.concurrentRuns = .replace := by
  cases h with
  | start _ hs =>
    obtain ⟨-, hreject, -, -, -⟩ := start_view hs
    cases hp : b.settings.concurrentRuns with
    | replace => rfl
    | reject =>
      have hheld := (hc.holds_iff next.session r).mp hh
      exact absurd (List.mem_map_of_mem hheld) (hreject hp)

/-- **The run that a step tells to stop is the one that it `Stops`.**  A stop is told in three ways:
somebody asks for it, a session goes away, or another run takes the place of this one. -/
theorem Step.told?_iff (hc : Consistent settings log b) (h : Step b act b') (ht : t ∈ b.tasks) :
    b.told? act = some t.info.id ↔ Stops b t.info act := by
  have hin : t.info ∈ startedIn log := hc.infos_eq ▸ List.mem_map_of_mem ht
  constructor
  · intro htold
    obtain ⟨session, hs, hh⟩ := Option.bind_eq_some_iff.mp htold
    have hsession : session = t.info.session :=
      hc.owner hin ((hc.holds_iff_latest _ _).mp hh).1
    rw [hsession] at hs hh
    cases act with
    | cancelled s =>
      obtain rfl := Option.some.inj hs
      exact .cancelled hh
    | closed s =>
      obtain rfl := Option.some.inj hs
      exact .closed hh
    | started next =>
      have hnext : next.session = t.info.session := Option.some.inj hs
      exact .replaced hh hnext (h.replaces hc (hnext ▸ hh))
    | _ => exact absurd hs (by simp [Act.stops?])
  · intro hstops
    exact Option.bind_eq_some_iff.mpr ⟨_, hstops.asks, hstops.holds⟩

/-- **A run that is there before a step is there afterwards, and was told to stop if it had been
before or is now.**  So it is enough to look at the moments at which somebody tells it; the token of
a run is never reset and never handed to another one. -/
theorem Step.told (hc : Consistent settings log b) (h : Step b act b') (ht : t ∈ b.tasks) :
    ∃ t' ∈ b'.tasks, t'.info = t.info
      ∧ (t'.cancelled = true ↔ t.cancelled = true ∨ Stops b t.info act) := by
  obtain ⟨t', ht', hi, -⟩ := h.moves_of_mem hc ht
  refine ⟨t', ht', hi, ?_⟩
  have hids : (b'.tasks.map (·.info.id)).Nodup := (hc.step h).nodup
  have hmem : (t'.info, t.cancelled || decide (b.told? act = some t.info.id)) ∈ b'.tokens := by
    rw [h.tokens_eq]
    refine List.mem_append_left _ (mem_withTold.mpr ⟨t.cancelled, ?_, by simp [hi]⟩)
    exact mem_tokens.mpr ⟨t, ht, hi.symm, rfl⟩
  obtain ⟨u, hu, hui, huc⟩ := mem_tokens.mp hmem
  obtain rfl := eq_of_id_eq hids ht' hu (by rw [hui])
  rw [huc, ← h.told?_iff hc ht]
  simp

/-! ## 3. Histories -/

/-- At some moment of a history the run was told to stop. -/
def Stopped (settings : RunSettings) (log : List Act) (b : Bridge) (info : RunInfo) : Prop :=
  ∃ before b₀ act b₁ after, log = before ++ act :: after ∧ Runs settings before b₀
    ∧ Step b₀ act b₁ ∧ Steps b₁ after b ∧ Stops b₀ info act

theorem Stopped.next {info : RunInfo} (hs : Stopped settings log b info) (h : Step b act b') :
    Stopped settings (log ++ [act]) b' info := by
  obtain ⟨before, b₀, stop, b₁, after, rfl, hbefore, hstep, hafter, hstops⟩ := hs
  exact ⟨before, b₀, stop, b₁, after ++ [act], by simp, hbefore, hstep, hafter.next h, hstops⟩

theorem Stopped.now {info : RunInfo} (hruns : Runs settings log b) (h : Step b act b')
    (hs : Stops b info act) : Stopped settings (log ++ [act]) b' info :=
  ⟨log, b, act, b', [], rfl, hruns, h, .begin, hs⟩

/-- A run that was told to stop stays so. -/
theorem Steps.told_kept {more : List Act} (hmore : Steps b more b') (h : Runs settings log b)
    (ht : t ∈ b.tasks) (hc : t.cancelled = true) :
    ∃ t' ∈ b'.tasks, t'.info = t.info ∧ t'.cancelled = true := by
  induction hmore with
  | begin => exact ⟨t, ht, rfl, hc⟩
  | next hsteps hstep ih =>
    obtain ⟨t', ht', hi, hc'⟩ := ih
    obtain ⟨t'', ht'', hi', htold⟩ := hstep.told (.of_runs (h.append hsteps)) ht'
    exact ⟨t'', ht'', hi'.trans hi, htold.mpr (.inl hc')⟩

/-- What is registered is a run that was started. -/
theorem Consistent.mem_of_holds (hc : Consistent settings log b) {info : RunInfo}
    (hh : b.Holds info.session info.id) : ∃ t ∈ b.tasks, t.info.id = info.id := by
  have hm := ((hc.holds_iff_latest _ _).mp hh).1.mem
  obtain ⟨started, hin, -, hid⟩ := mem_startedFor.mp hm
  rw [← hc.infos_eq] at hin
  obtain ⟨t, ht, rfl⟩ := List.mem_map.mp hin
  exact ⟨t, ht, hid⟩

/-- What is registered stays so, until it is removed or a run starts in its place. -/
theorem Consistent.holds_next (hc : Consistent settings log b) (h : Step b act b')
    {s : SessionId} {r : Id} (hh : b.Holds s r) :
    b'.Holds s r ∨ act = .deregistered r ∨ ∃ next, act = .started next ∧ next.session = s := by
  have hc' := hc.step h
  obtain ⟨hl, hd⟩ := (hc.holds_iff_latest s r).mp hh
  rw [hc'.holds_iff_latest]
  by_cases hq : act.isQuiet = true
  · left
    rw [mem_quiet hq, Latest, startedFor_congr (startedIn_quiet hq)]
    exact ⟨hl, hd⟩
  · cases act with
    | started next =>
      by_cases hs : next.session = s
      · exact .inr (.inr ⟨next, rfl, hs⟩)
      · exact .inl ⟨latest_started.mpr (.inr ⟨hs, hl⟩), by simpa using hd⟩
    | deregistered r' =>
      by_cases hr : r' = r
      · exact .inr (.inl (hr ▸ rfl))
      · left
        rw [Latest, startedFor_congr (startedIn_deregistered log r')]
        refine ⟨hl, ?_⟩
        simpa [hd] using fun e : r = r' => hr e.symm
    | _ => exact absurd rfl hq

/-- A run that has just started was not told to stop. -/
theorem Step.not_told_of_started (hc : Consistent settings log b)
    (h : Step b (.started t.info) b') (ht : t ∈ b'.tasks) : t.cancelled = false := by
  have hnew : (t.info, false) ∈ b'.tokens := by
    rw [h.tokens_eq]
    exact List.mem_append_right _ (List.mem_singleton_self _)
  obtain ⟨u, hu, hi, hf⟩ := mem_tokens.mp hnew
  obtain rfl := eq_of_id_eq (hc.step h).nodup ht hu (by rw [hi])
  exact hf

/-- **A run was told to stop exactly if it was stopped**: one of the three ways to do so has
happened while it was registered. -/
theorem told_iff (h : Runs settings log b) (ht : t ∈ b.tasks) :
    t.cancelled = true ↔ Stopped settings log b t.info := by
  constructor
  · intro hc
    induction h generalizing t with
    | begin => exact absurd ht (by simp)
    | next hruns hstep ih =>
      have hcons := Consistent.of_runs hruns
      rcases hstep.moves hcons.nodup ht with ⟨u, hu, hi, -⟩ | ⟨rfl, -⟩
      · obtain ⟨u', hu', hui, htold⟩ := hstep.told hcons hu
        obtain rfl := eq_of_id_eq (hcons.step hstep).nodup ht hu' (by rw [hi, hui])
        rw [hi]
        rcases htold.mp hc with hc | hstops
        · exact (ih hu hc).next hstep
        · exact .now hruns hstep hstops
      · have hnot := hstep.not_told_of_started hcons ht
        exact absurd (hnot.symm.trans hc) (by simp)
  · rintro ⟨before, b₀, act, b₁, after, rfl, hbefore, hstep, hafter, hstops⟩
    have hcons := Consistent.of_runs h
    have hcons₀ := Consistent.of_runs hbefore
    -- the run of the moment is the one that is there now
    obtain ⟨t₀, ht₀, hid⟩ := hcons₀.mem_of_holds hstops.holds
    obtain ⟨t₁, ht₁, hi₁, htold⟩ := hstep.told hcons₀ ht₀
    obtain ⟨t', ht', hi', -⟩ := hafter.phase_kept (P := fun _ => True) (fun _ h => h)
      (hbefore.next hstep) ht₁ trivial
    obtain rfl := eq_of_id_eq hcons.nodup ht ht' (by rw [hi', hi₁, hid])
    have hinfo : t₀.info = t'.info := by rw [hi', hi₁]
    have hc₁ : t₁.cancelled = true := htold.mpr (.inr (hinfo ▸ hstops))
    obtain ⟨t'', ht'', hi'', hc''⟩ := hafter.told_kept (hbefore.next hstep) ht₁ hc₁
    obtain rfl := eq_of_id_eq hcons.nodup ht ht'' (by rw [hi'', hi'])
    exact hc''

/-- **No run is left behind.**  A run that its supervisor has not removed is registered for its
session, or was told to stop. -/
theorem registered_or_told (h : Runs settings log b) (ht : t ∈ b.tasks)
    (hd : .deregistered t.info.id ∉ log) :
    b.Holds t.info.session t.info.id ∨ t.cancelled = true := by
  induction h generalizing t with
  | begin => exact absurd ht (by simp)
  | @next log b b' act hruns hstep ih =>
    have hcons := Consistent.of_runs hruns
    have hcons' := hcons.step hstep
    obtain ⟨hd, hact⟩ : Act.deregistered t.info.id ∉ log ∧ act ≠ .deregistered t.info.id := by
      simpa [eq_comm] using hd
    rcases hstep.moves hcons.nodup ht with ⟨u, hu, hi, -⟩ | ⟨rfl, -⟩
    · obtain ⟨u', hu', hui, htold⟩ := hstep.told hcons hu
      obtain rfl := eq_of_id_eq hcons'.nodup ht hu' (by rw [hi, hui])
      rw [hi] at hd hact ⊢
      rcases ih hu hd with hh | hc
      · rcases hcons.holds_next hstep hh with hh' | hremoved | ⟨next, rfl, hs⟩
        · exact .inl hh'
        · exact absurd hremoved hact
        · -- the run that starts in its place tells it to stop
          have hp := hstep.replaces hcons (hs ▸ hh)
          exact .inr (htold.mpr (.inr (.replaced hh hs hp)))
      · exact .inr (htold.mpr (.inl hc))
    · left
      rw [hcons'.holds_iff_latest]
      exact ⟨latest_started.mpr (.inl ⟨rfl, rfl⟩), by simpa using hd⟩

/-! ## 4. Nobody is forgotten, and nobody else is hit -/

/-- **Requests to stop reach the run that they are meant for, and no run is left behind.**  After
any history: a run that its supervisor has not removed is registered for its own session or was told
to stop; it was told to stop exactly if, at some moment at which it was registered, its session
cancelled it or was closed, or, where runs may be replaced, another run of its session started; and
whatever happens next, a run is told to stop by that only if it is its turn in this sense, so that
neither a run of another session nor a later run of the same session is hit. -/
theorem told_iff_stopped (h : Runs settings log b) (ht : t ∈ b.tasks) :
    (.deregistered t.info.id ∉ log →
        b.Holds t.info.session t.info.id ∨ t.cancelled = true)
      ∧ (t.cancelled = true ↔ Stopped settings log b t.info)
      ∧ ∀ act b', Step b act b' → ∃ t' ∈ b'.tasks, t'.info = t.info
          ∧ (t'.cancelled = true ↔ t.cancelled = true ∨ Stops b t.info act) :=
  ⟨registered_or_told h ht, told_iff h ht, fun _ _ hstep => hstep.told (.of_runs h) ht⟩

/-- Two sessions with a run each, of which one starts another run: its first run is not registered
any more and was told to stop, and a request to stop from this session now is for its second run;
the run of the other session was not told to stop, nor is it now. -/
theorem replaced_told_neighbour_spared :
    ∃ log b t₁ t₂, Runs { concurrentRuns := .replace } log b ∧ t₁ ∈ b.tasks ∧ t₂ ∈ b.tasks
      ∧ t₁.info.session = "w1" ∧ t₂.info.session = "w2"
      ∧ ¬ b.Holds "w1" t₁.info.id ∧ Stopped { concurrentRuns := .replace } log b t₁.info
      ∧ ¬ Stopped { concurrentRuns := .replace } log b t₂.info
      ∧ ∀ b', Step b (.cancelled "w1") b' → ∃ t' ∈ b'.tasks, t'.info = t₂.info
          ∧ t'.cancelled = false := by
  have at_ {b : Bridge} {t : Task} (i : Nat) (h : b.tasks[i]? = some t) : t ∈ b.tasks :=
    List.mem_of_getElem? h
  have h0 : Runs { concurrentRuns := .replace } [] _ := .begin
  have h1 := h0.next (.start (fun _ ht => absurd ht (by simp))
    (rfl : start _ (.ofNat 1) 0 "w1" ⟨[]⟩ (some ⟨[]⟩) (fun _ _ => .ok ()) = _))
  have h2 := h1.next (.start (by decide)
    (rfl : start _ (.ofNat 2) 5 "w2" ⟨[]⟩ (some ⟨[]⟩) (fun _ _ => .ok ()) = _))
  have h3 := h2.next (.start (by decide)
    (rfl : start _ (.ofNat 3) 7 "w1" ⟨[]⟩ (some ⟨[]⟩) (fun _ _ => .ok ()) = _))
  have first := told_iff_stopped h3 (at_ 0 rfl)
  have second := told_iff_stopped h3 (at_ 1 rfl)
  refine ⟨_, _, _, _, h3, at_ 0 rfl, at_ 1 rfl, rfl, rfl, by decide, first.2.1.mp rfl,
    fun hs => absurd (second.2.1.mpr hs) (by decide), fun b' hstep => ?_⟩
  obtain ⟨t', ht', hi, htold⟩ := second.2.2 _ b' hstep
  refine ⟨t', ht', hi, Bool.eq_false_iff.mpr fun hc => ?_⟩
  rcases htold.mp hc with hc | hstops
  · exact absurd hc (by decide)
  · exact absurd (Option.some.inj hstops.asks) (by decide)
end Scriptorium.Bridge
