import Mathlib.Data.Finset.Card
import Scriptorium.Proofs.Bridge.Steps

/-!
# The registry holds the latest run of each session

The registry is a list of sessions with their runs, and its entries come and go at different
times: a run that starts takes the place of the one before it, whose supervisor may come to remove
it much later.  What the registry holds is nevertheless a matter of the history alone: run `r` of
session `s` is held exactly as long as it is the latest run of `s` and its supervisor has not
removed it (`registry_holds_latest`).

Only two kinds of steps matter, a start and a removal.  All others leave the two views alone that
the invariant is about: the runs that were started, with whether each was removed
(`starts`), and the sessions with the runs that are held for them (`held`).  Section 2 says what
each step does to them, and from there on the module is about these lists and histories.
-/
namespace Scriptorium

/-- Whether the supervisor of a run has removed it from the registry. -/
def Phase.isRemoved : Phase → Bool
  | .removed _ | .settled _ | .reported _ => true
  | _ => false

namespace Bridge

open Run

/-! ## 1. Two views of a bridge -/

/-- The runs that were started, oldest first, with whether each was removed from the registry. -/
def starts (b : Bridge) : List (RunInfo × Bool) := b.tasks.map fun t => (t.info, t.phase.isRemoved)

/-- The sessions with the runs that the registry holds for them. -/
def held (b : Bridge) : List (SessionId × Id) := b.registry.map fun r => (r.session, r.run)

/-- The registry holds run `r` for session `s`. -/
def Holds (b : Bridge) (s : SessionId) (r : Id) : Prop := (b.liveRun? s).map (·.run) = some r

instance (b : Bridge) (s : SessionId) (r : Id) : Decidable (b.Holds s r) :=
  inferInstanceAs (Decidable (_ = _))

theorem map_fst_starts (b : Bridge) : b.starts.map (·.1.id) = b.tasks.map (·.info.id) := by
  simp [starts, Function.comp_def]

/-- The starts that a registry is read off from stay the same if neither what is known of a run nor
whether it was removed is changed. -/
theorem starts_updateTask {b : Bridge} {id : Id} {f : Task → Task}
    (hf : ∀ t ∈ b.tasks, t.info.id = id →
      (f t).info = t.info ∧ (f t).phase.isRemoved = t.phase.isRemoved) :
    (b.updateTask id f).starts = b.starts := by
  simp only [starts, updateTask, List.map_map]
  refine List.map_congr_left fun t ht => ?_
  by_cases h : t.info.id = id
  · obtain ⟨hi, hp⟩ := hf t ht h
    simp [h, hi, hp]
  · simp [h]

@[simp] theorem held_updateTask (b : Bridge) (id : Id) (f : Task → Task) :
    (b.updateTask id f).held = b.held := rfl

@[simp] theorem starts_detach (b : Bridge) (id : Id) : (b.detach id).starts = b.starts :=
  starts_updateTask fun _ _ _ => ⟨rfl, rfl⟩

@[simp] theorem starts_fireCancel (b : Bridge) (id : Id) : (b.fireCancel id).starts = b.starts :=
  starts_updateTask fun _ _ _ => ⟨rfl, rfl⟩

@[simp] theorem held_detach (b : Bridge) (id : Id) : (b.detach id).held = b.held := rfl

@[simp] theorem held_fireCancel (b : Bridge) (id : Id) : (b.fireCancel id).held = b.held := rfl

/-- Among runs with different identifiers, the one with the identifier of `t` is `t`. -/
theorem eq_of_id_eq {b : Bridge} (hn : (b.tasks.map (·.info.id)).Nodup) {t u : Task}
    (ht : t ∈ b.tasks) (hu : u ∈ b.tasks) (h : u.info.id = t.info.id) : u = t :=
  List.inj_on_of_nodup_map hn hu ht h

/-- A change of one run that leaves open whether it was removed is not seen. -/
theorem starts_updateTask_of_mem {b : Bridge} (hn : (b.tasks.map (·.info.id)).Nodup) {t : Task}
    (ht : t ∈ b.tasks) {f : Task → Task} (hi : (f t).info = t.info)
    (hp : (f t).phase.isRemoved = t.phase.isRemoved) :
    (b.updateTask t.info.id f).starts = b.starts := by
  refine starts_updateTask fun u hu h => ?_
  rw [eq_of_id_eq hn ht hu h]
  exact ⟨hi, hp⟩

/-! ## 2. What each step does to the views -/

/-- What happens that is neither a start nor a removal. -/
def Act.isQuiet : Act → Bool
  | .started _ | .deregistered _ => false
  | _ => true

/-- Neither view has changed, nor have the settings. -/
structure SameView (b b' : Bridge) : Prop where
  settings : b'.settings = b.settings
  starts : b'.starts = b.starts
  held : b'.held = b.held

theorem sameView_cancel (b : Bridge) (session : SessionId) :
    SameView b (b.cancel session).1 := by
  unfold cancel
  split
  · exact ⟨rfl, starts_fireCancel _ _, rfl⟩
  · exact ⟨rfl, rfl, rfl⟩

theorem sameView_closeSession (b : Bridge) (session : SessionId) :
    SameView b (b.closeSession session) :=
  have h := sameView_cancel (b.unsubscribe session).1 session
  ⟨h.settings, h.starts, h.held⟩

theorem sameView_displace (b : Bridge) (session : SessionId) :
    SameView b (b.displace session) := by
  unfold displace
  split
  · exact ⟨rfl, by simp, rfl⟩
  · exact ⟨rfl, rfl, rfl⟩

/-- A write cannot be seen in the registry: the same runs are held, and the same have been started.
-/
theorem sameView_offer (b : Bridge) (session : SessionId) (data : Bytes) :
    SameView b (b.offer session data).1 := by
  unfold offer
  split
  · exact ⟨rfl, rfl, rfl⟩
  · split
    · exact ⟨rfl, rfl, rfl⟩
    · split
      · exact ⟨rfl, rfl, rfl⟩
      · exact ⟨rfl, starts_updateTask fun _ _ _ => ⟨rfl, rfl⟩, rfl⟩

/-- That the input of a run was ended is marked in the registry, but the run is held as before. -/
theorem sameView_endInput (b : Bridge) (session : SessionId) :
    SameView b (b.endInput session).1 := by
  unfold endInput
  split
  · exact ⟨rfl, rfl, rfl⟩
  · rename_i run _
    refine ⟨rfl, starts_detach b run, ?_⟩
    simp only [held, List.map_map]
    refine List.map_congr_left fun r _ => ?_
    simp only [Function.comp_apply]
    split <;> rfl

theorem sameView_react {b : Bridge} (hn : (b.tasks.map (·.info.id)).Nodup) {t : Task}
    (ht : t ∈ b.tasks) {s : Supervision} (hp : t.phase = .supervised s)
    (next : Supervision × Reaction) : SameView b (b.react t.info next) := by
  have h : SameView b (b.setSupervision t.info.id next.1) :=
    ⟨rfl, starts_updateTask_of_mem hn ht rfl (by rw [hp]; rfl), rfl⟩
  unfold react deliver
  split
  · exact ⟨h.settings, h.starts, h.held⟩
  · exact h

/-- **Only a start and a removal change the views.**  All other steps may do what they want with
writers, supervision and channels: the registry and what was started stay. -/
theorem Step.sameView {b b' : Bridge} {act : Act} (hn : (b.tasks.map (·.info.id)).Nodup)
    (h : Step b act b') (hq : act.isQuiet = true) : SameView b b' := by
  cases h with
  | start _ _ => exact absurd hq (by simp [Act.isQuiet])
  | refuse _ => exact ⟨rfl, rfl, rfl⟩
  | offer session data => exact sameView_offer b session data
  | release run => exact ⟨rfl, starts_updateTask fun _ _ _ => ⟨rfl, rfl⟩, rfl⟩
  | endInput session => exact sameView_endInput b session
  | cancel session => exact sameView_cancel b session
  | close session => exact sameView_closeSession b session
  | subscribe session => exact ⟨rfl, rfl, rfl⟩
  | unsubscribe session => exact ⟨rfl, rfl, rfl⟩
  | takeAll _ => exact ⟨rfl, rfl, rfl⟩
  | takeNext _ => exact ⟨rfl, rfl, rfl⟩
  | hangUp i => exact ⟨rfl, rfl, rfl⟩
  | supervise now ht hp _ => exact sameView_react hn ht hp _
  | conclude now ht hp _ => exact ⟨rfl, starts_updateTask_of_mem hn ht rfl (by rw [hp]; rfl), rfl⟩
  | write ht _ => exact ⟨rfl, starts_updateTask_of_mem hn ht rfl rfl, rfl⟩
  | deregister _ _ _ => exact absurd hq (by simp [Act.isQuiet])
  | @settle t b' ht hp h =>
    unfold nextPhase? at h
    split at h
    · rename_i r hr
      exact absurd hr (hp r)
    · rename_i r hr
      obtain rfl := Option.some.inj h
      exact ⟨rfl, starts_updateTask_of_mem hn ht rfl (by rw [hr]; rfl), rfl⟩
    · rename_i r hr
      obtain rfl := Option.some.inj h
      exact ⟨rfl, starts_updateTask_of_mem hn ht rfl (by rw [hr]; rfl), rfl⟩
    · exact absurd h (by simp)

theorem liveRun?_isSome (b : Bridge) (session : SessionId) :
    (b.liveRun? session).isSome = true ↔ session ∈ b.held.map Prod.fst := by
  simp [liveRun?, held, List.find?_isSome]

@[simp] theorem firstPhase_isRemoved (settings : RunSettings) (now : Nat) :
    (firstPhase settings now).isRemoved = false := by
  unfold firstPhase
  split <;> rfl

section Start

variable {α : Type} {b b' : Bridge} {id : Id} {now : Nat} {session : SessionId}
variable {requested : Path} {found : Option Path} {spawn : Path → Path → Except OsError α}
variable {info : RunInfo} {a : α}

/-- A start that succeeds was permitted, and registers the new run. -/
theorem start_eq_ok (h : b.start id now session requested found spawn = .ok (b', info, a)) :
    ∃ script, found = some script ∧ b.permit session = .ok ()
      ∧ spawn script (directoryOf script) = .ok a
      ∧ info = ⟨id, session, script, directoryOf script, now⟩ ∧ b' = b.register info := by
  unfold start at h
  split at h
  · exact absurd h (by simp)
  · rename_i script
    obtain ⟨⟨⟩, hp, h⟩ := bind_eq_ok.mp h
    split at h
    · exact absurd h (by simp)
    · rename_i hspawn
      obtain ⟨rfl, rfl, rfl⟩ : b.register _ = b' ∧ _ = info ∧ _ = a := by simpa using h
      exact ⟨script, rfl, hp, hspawn, rfl, rfl⟩

theorem permit_eq_ok (h : b.permit session = .ok ()) (hp : b.settings.concurrentRuns = .reject) :
    session ∉ b.held.map Prod.fst := by
  intro hbusy
  simp [permit, hp, (liveRun?_isSome b session).mpr hbusy] at h

theorem register_tasks (b : Bridge) (info : RunInfo) :
    (b.register info).tasks = (b.displace info.session).tasks
      ++ [⟨info, false, {}, firstPhase b.settings info.started⟩] := by
  simp only [register, (sameView_displace b info.session).settings]

/-- What a start that succeeds does: nothing is held for a busy session under the policy that
rejects, and the new run is held in place of the one before it. -/
theorem start_view (h : b.start id now session requested found spawn = .ok (b', info, a)) :
    info.id = id
      ∧ (b.settings.concurrentRuns = .reject → info.session ∉ b.held.map Prod.fst)
      ∧ b'.settings = b.settings
      ∧ b'.starts = b.starts ++ [(info, false)]
      ∧ b'.held = (info.session, info.id) :: b.held.filter (·.1 != info.session) := by
  obtain ⟨script, -, hp, -, rfl, rfl⟩ := start_eq_ok h
  have hsame := sameView_displace b session
  refine ⟨rfl, permit_eq_ok hp, hsame.settings, ?_, ?_⟩
  · rw [← hsame.starts, starts, register_tasks, List.map_append]
    simp [starts]
  · have hheld : (b.displace session).held.filter (·.1 != session)
        = ((b.displace session).otherRuns session).map fun r => (r.session, r.run) := by
      simp only [held, otherRuns, List.filter_map]
      rfl
    rw [← hsame.held, hheld]
    rfl

end Start

/-- The settings that a bridge was made with stay, whatever its runs do. -/
theorem nextPhase?_settings {b b' : Bridge} {t : Task} (h : b.nextPhase? t = some b') :
    b'.settings = b.settings := by
  unfold nextPhase? at h
  split at h
  · obtain rfl := Option.some.inj h
    unfold deregister
    split
    · split <;> rfl
    · rfl
  · obtain rfl := Option.some.inj h
    rfl
  · obtain rfl := Option.some.inj h
    rfl
  · exact absurd h (by simp)

/-- What a removal does: the run counts as removed, and the entry of its session goes if it is
still its own. -/
theorem nextPhase?_view {b b' : Bridge} {t : Task} {r : RunResult} (ht : t ∈ b.tasks)
    (hp : t.phase = .ended r) (h : b.nextPhase? t = some b') :
    (t.info, false) ∈ b.starts
      ∧ b'.starts = b.starts.map (fun e => if e.1.id = t.info.id then (e.1, true) else e)
      ∧ ((b.Holds t.info.session t.info.id
            ∧ b'.held = b.held.filter (·.1 != t.info.session))
          ∨ (¬ b.Holds t.info.session t.info.id ∧ b'.held = b.held)) := by
  have hstarts : ∀ b₀ : Bridge, b₀.starts = b.starts →
      (b₀.updateTask t.info.id fun t => { t with phase := .removed r }).starts
        = b.starts.map (fun e => if e.1.id = t.info.id then (e.1, true) else e) := by
    intro b₀ h₀
    rw [← h₀]
    simp only [starts, updateTask, List.map_map]
    refine List.map_congr_left fun u _ => ?_
    by_cases hu : u.info.id = t.info.id <;> simp [hu, Phase.isRemoved]
  unfold nextPhase? at h
  rw [hp] at h
  obtain rfl := Option.some.inj h
  refine ⟨List.mem_map.mpr ⟨t, ht, by rw [hp]; rfl⟩, ?_, ?_⟩
  · refine hstarts _ ?_
    unfold deregister
    split
    · split
      · exact starts_detach b t.info.id
      · rfl
    · rfl
  · rw [held_updateTask]
    unfold Holds deregister
    cases hlive : b.liveRun? t.info.session with
    | none => exact .inr ⟨by simp, rfl⟩
    | some live =>
      by_cases hr : live.run = t.info.id
      · refine .inl ⟨by simp [hr], ?_⟩
        simp only [hr, if_true, held, otherRuns, List.filter_map]
        rfl
      · exact .inr ⟨by simpa using hr, by simp [hr]⟩

/-! ## 3. What a history says -/

/-- The runs that were started, oldest first. -/
def startedIn (log : List Act) : List RunInfo :=
  log.filterMap fun
    | .started info => some info
    | _ => none

/-- The runs that were started for a session, oldest first. -/
def startedFor (log : List Act) (s : SessionId) : List Id :=
  ((startedIn log).filter (·.session = s)).map (·.id)

/-- The run `r` is the one that was started last for `s`. -/
def Latest (log : List Act) (s : SessionId) (r : Id) : Prop := (startedFor log s).getLast? = some r

theorem startedIn_append (log more : List Act) :
    startedIn (log ++ more) = startedIn log ++ startedIn more :=
  List.filterMap_append

theorem startedFor_append (log more : List Act) (s : SessionId) :
    startedFor (log ++ more) s = startedFor log s ++ startedFor more s := by
  simp [startedFor, startedIn_append]

theorem startedIn_quiet {log : List Act} {act : Act} (hq : act.isQuiet = true) :
    startedIn (log ++ [act]) = startedIn log := by
  rw [startedIn_append]
  cases act <;> simp_all [Act.isQuiet, startedIn]

theorem startedIn_deregistered (log : List Act) (r : Id) :
    startedIn (log ++ [.deregistered r]) = startedIn log := by
  simp [startedIn]

theorem startedFor_congr {log log' : List Act} (h : startedIn log' = startedIn log)
    (s : SessionId) : startedFor log' s = startedFor log s := by
  simp only [startedFor, h]

theorem startedFor_started (log : List Act) (info : RunInfo) (s : SessionId) :
    startedFor (log ++ [.started info]) s
      = startedFor log s ++ if info.session = s then [info.id] else [] := by
  rw [startedFor_append]
  by_cases h : info.session = s <;> simp [startedFor, startedIn, h]

theorem mem_startedFor {log : List Act} {s : SessionId} {r : Id} :
    r ∈ startedFor log s ↔ ∃ info ∈ startedIn log, info.session = s ∧ info.id = r := by
  simp [startedFor, and_assoc]

theorem Latest.mem {log : List Act} {s : SessionId} {r : Id} (h : Latest log s r) :
    r ∈ startedFor log s :=
  List.mem_of_getLast? h

theorem Latest.unique {log : List Act} {s : SessionId} {r r' : Id} (h : Latest log s r)
    (h' : Latest log s r') : r = r' :=
  Option.some.inj (h.symm.trans h')

theorem latest_started {log : List Act} {info : RunInfo} {s : SessionId} {r : Id} :
    Latest (log ++ [.started info]) s r
      ↔ (info.session = s ∧ r = info.id) ∨ (info.session ≠ s ∧ Latest log s r) := by
  unfold Latest
  rw [startedFor_started]
  by_cases h : info.session = s
  · simp [h, eq_comm]
  · simp [h]

theorem mem_quiet {log : List Act} {act : Act} (hq : act.isQuiet = true) (r : Id) :
    .deregistered r ∈ log ++ [act] ↔ .deregistered r ∈ log := by
  cases act <;> simp_all [Act.isQuiet]

/-! ## 4. The invariant -/

/-- What the views of a bridge have to do with its history. -/
structure Consistent (settings : RunSettings) (log : List Act) (b : Bridge) : Prop where
  settings_eq : b.settings = settings
  starts_eq : b.starts
    = (startedIn log).map fun info => (info, decide (.deregistered info.id ∈ log))
  ids : ((startedIn log).map (·.id)).Nodup
  known : ∀ r, .deregistered r ∈ log → r ∈ (startedIn log).map (·.id)
  once : ∀ r, log.count (.deregistered r) ≤ 1
  sessions : (b.held.map Prod.fst).Nodup
  held_iff : ∀ s r, (s, r) ∈ b.held ↔ Latest log s r ∧ .deregistered r ∉ log
  rejected : settings.concurrentRuns = .reject →
    ∀ s, ∀ r ∈ startedFor log s, .deregistered r ∉ log → Latest log s r

namespace Consistent

variable {settings : RunSettings} {log : List Act} {b b' : Bridge}

theorem nodup (h : Consistent settings log b) : (b.tasks.map (·.info.id)).Nodup := by
  rw [← map_fst_starts, h.starts_eq, List.map_map]
  exact h.ids

theorem begin : Consistent settings [] { settings } where
  settings_eq := rfl
  starts_eq := rfl
  ids := List.nodup_nil
  known r h := absurd h (by simp)
  once r := by simp
  sessions := List.nodup_nil
  held_iff s r := by simp [held, Latest, startedFor, startedIn]
  rejected _ s r hr := absurd hr (by simp [startedFor, startedIn])

/-- What is held for a session is found for it. -/
theorem holds_iff (h : Consistent settings log b) (s : SessionId) (r : Id) :
    b.Holds s r ↔ (s, r) ∈ b.held := by
  have hn : (b.registry.map (·.session)).Nodup := by
    simpa [held, Function.comp_def] using h.sessions
  unfold Holds liveRun?
  constructor
  · intro hl
    obtain ⟨live, hf, rfl⟩ := Option.map_eq_some_iff.mp hl
    have hs : live.session = s := by simpa using List.find?_some hf
    exact List.mem_map.mpr ⟨live, List.mem_of_find?_eq_some hf, by rw [hs]⟩
  · intro hm
    obtain ⟨live, hmem, he⟩ := List.mem_map.mp hm
    obtain ⟨rfl, rfl⟩ := Prod.mk.inj he
    cases hf : b.registry.find? (·.session == live.session) with
    | none => exact absurd (List.find?_eq_none.mp hf live hmem) (by simp)
    | some other =>
      have ho : other.session = live.session := by simpa using List.find?_some hf
      rw [List.inj_on_of_nodup_map hn (List.mem_of_find?_eq_some hf) hmem ho]
      rfl

/-- A step that neither starts nor removes a run. -/
theorem quiet (h : Consistent settings log b) {act : Act} (hq : act.isQuiet = true)
    (hv : SameView b b') :
    Consistent settings (log ++ [act]) b' := by
  have hin : startedIn (log ++ [act]) = startedIn log := startedIn_quiet hq
  have hdereg : ∀ r, .deregistered r ∈ log ++ [act] ↔ .deregistered r ∈ log := mem_quiet hq
  have hfor := startedFor_congr hin
  refine ⟨hv.settings.trans h.settings_eq, ?_, ?_, ?_, ?_, ?_, ?_, ?_⟩
  · rw [hv.starts, h.starts_eq, hin]
    simp only [hdereg]
  · rw [hin]; exact h.ids
  · intro r hr
    rw [hin]
    exact h.known r ((hdereg r).mp hr)
  · intro r
    have : act ≠ .deregistered r := by
      rintro rfl
      exact absurd hq (by simp [Act.isQuiet])
    rw [List.count_append, List.count_singleton, if_neg (by simpa using this)]
    exact h.once r
  · rw [hv.held]; exact h.sessions
  · intro s r
    rw [hv.held, h.held_iff, hdereg, Latest, Latest, hfor]
  · intro hp s r hr hd
    rw [Latest, hfor]
    rw [hfor] at hr
    exact h.rejected hp s r hr (fun hm => hd ((hdereg r).mpr hm))

theorem ids_started (h : Consistent settings log b) {info : RunInfo}
    (hfresh : info.id ∉ (startedIn log).map (·.id)) :
    ((startedIn (log ++ [.started info])).map (·.id)).Nodup := by
  rw [startedIn_append, List.map_append]
  refine List.nodup_append.mpr ⟨h.ids, by simp [startedIn], ?_⟩
  rintro a ha c hc rfl
  obtain rfl : a = info.id := by simpa [startedIn] using hc
  exact hfresh ha

/-- The new run is held for its session, and the other sessions have what they had. -/
theorem held_started (h : Consistent settings log b) {info : RunInfo}
    (hnew : Act.deregistered info.id ∉ log)
    (hheld : b'.held = (info.session, info.id) :: b.held.filter (·.1 != info.session))
    (s : SessionId) (r : Id) :
    (s, r) ∈ b'.held ↔ Latest (log ++ [.started info]) s r ∧ Act.deregistered r ∉ log := by
  rw [hheld, latest_started, List.mem_cons, Prod.mk.injEq, List.mem_filter, h.held_iff]
  by_cases hs : info.session = s
  · subst hs
    constructor
    · rintro (⟨-, rfl⟩ | ⟨-, hne⟩)
      · exact ⟨.inl ⟨rfl, rfl⟩, hnew⟩
      · exact absurd hne (by simp)
    · rintro ⟨⟨-, rfl⟩ | ⟨hne, -⟩, -⟩
      · exact .inl ⟨rfl, rfl⟩
      · exact absurd rfl hne
  · have hs' : s ≠ info.session := fun e => hs e.symm
    simp [hs, hs']

/-- A session that may start a run has no other one that was not removed. -/
theorem rejected_started (h : Consistent settings log b) {info : RunInfo}
    (hp : settings.concurrentRuns = .reject) (hidle : info.session ∉ b.held.map Prod.fst)
    (s : SessionId) (r : Id) (hr : r ∈ startedFor (log ++ [.started info]) s)
    (hd : Act.deregistered r ∉ log) : Latest (log ++ [.started info]) s r := by
  rw [startedFor_started, List.mem_append] at hr
  rw [latest_started]
  by_cases hs : info.session = s
  · refine .inl ⟨hs, ?_⟩
    rcases hr with hr | hr
    · -- the session was idle, so each of its earlier runs had been removed
      have hlast := h.rejected hp s r hr hd
      exact absurd (List.mem_map.mpr ⟨(s, r), (h.held_iff s r).mpr ⟨hlast, hd⟩, hs.symm⟩) hidle
    · simpa [hs] using hr
  · refine .inr ⟨hs, h.rejected hp s r ?_ hd⟩
    simpa [hs] using hr

/-- A run that starts takes the place of the one before it. -/
theorem started (h : Consistent settings log b) {info : RunInfo}
    (hfresh : info.id ∉ (startedIn log).map (·.id))
    (hreject : settings.concurrentRuns = .reject → info.session ∉ b.held.map Prod.fst)
    (hset : b'.settings = b.settings) (hstarts : b'.starts = b.starts ++ [(info, false)])
    (hheld : b'.held = (info.session, info.id) :: b.held.filter (·.1 != info.session)) :
    Consistent settings (log ++ [.started info]) b' := by
  have hdereg : ∀ r, Act.deregistered r ∈ log ++ [.started info] ↔ .deregistered r ∈ log := by
    simp
  have hnew : Act.deregistered info.id ∉ log := fun hm => hfresh (h.known _ hm)
  refine ⟨hset.trans h.settings_eq, ?_, h.ids_started hfresh, ?_, ?_, ?_, ?_, ?_⟩
  · rw [hstarts, h.starts_eq, startedIn_append, List.map_append]
    simp [hnew, startedIn]
  · intro r hr
    rw [startedIn_append, List.map_append]
    exact List.mem_append_left _ (h.known r ((hdereg r).mp hr))
  · intro r
    simpa using h.once r
  · rw [hheld, List.map_cons, List.nodup_cons]
    exact ⟨by simp, h.sessions.sublist (List.filter_sublist.map _)⟩
  · intro s r
    rw [hdereg]
    exact h.held_started hnew hheld s r
  · intro hp s r hr hd
    rw [hdereg] at hd
    exact h.rejected_started hp (hreject hp) s r hr hd

/-- A run that is removed had started, and was not removed before. -/
theorem of_mem_starts (h : Consistent settings log b) {info : RunInfo}
    (hmem : (info, false) ∈ b.starts) : info ∈ startedIn log ∧ .deregistered info.id ∉ log := by
  rw [h.starts_eq, List.mem_map] at hmem
  obtain ⟨other, ho, he⟩ := hmem
  obtain ⟨rfl, hd⟩ := Prod.mk.inj he
  exact ⟨ho, of_decide_eq_false hd⟩

/-- An identifier belongs to one session. -/
theorem owner (h : Consistent settings log b) {info : RunInfo} (hin : info ∈ startedIn log)
    {s : SessionId} (hl : Latest log s info.id) : s = info.session := by
  obtain ⟨other, ho, hs, hid⟩ := mem_startedFor.mp hl.mem
  rw [← hs, List.inj_on_of_nodup_map h.ids ho hin hid]

/-- A run is removed from the registry once at most: the next removal is not one that has already
been. -/
theorem count_deregistered (h : Consistent settings log b) {id : Id}
    (hnew : .deregistered id ∉ log) (r : Id) :
    (log ++ [Act.deregistered id]).count (.deregistered r) ≤ 1 := by
  rw [List.count_append, List.count_singleton]
  by_cases hr : r = id
  · rw [hr, List.count_eq_zero.mpr hnew]
    simp
  · have : (Act.deregistered id == Act.deregistered r) = false := by
      simpa using fun e => hr e.symm
    simpa [this] using h.once r

/-- After a removal everything is held that was held before, but for the run that was removed. -/
theorem held_removed (h : Consistent settings log b) {info : RunInfo} (hin : info ∈ startedIn log)
    (hheld : (b.Holds info.session info.id ∧ b'.held = b.held.filter (·.1 != info.session))
      ∨ (¬ b.Holds info.session info.id ∧ b'.held = b.held)) (s : SessionId) (r : Id) :
    (s, r) ∈ b'.held ↔ (s, r) ∈ b.held ∧ r ≠ info.id := by
  rw [h.holds_iff] at hheld
  rcases hheld with ⟨hm, hh⟩ | ⟨hm, hh⟩
  · rw [hh, List.mem_filter]
    refine and_congr_right fun hsr => ?_
    have hs : s = info.session ↔ r = info.id := by
      constructor
      · rintro rfl
        exact ((h.held_iff _ _).mp hsr).1.unique ((h.held_iff _ _).mp hm).1
      · rintro rfl
        exact h.owner hin ((h.held_iff _ _).mp hsr).1
    simp [hs]
  · rw [hh]
    refine ⟨fun hsr => ⟨hsr, ?_⟩, And.left⟩
    rintro rfl
    obtain rfl := h.owner hin ((h.held_iff _ _).mp hsr).1
    exact hm hsr

/-- A run that is removed is the one of its session, or no longer held. -/
theorem deregistered (h : Consistent settings log b) {info : RunInfo}
    (hmem : (info, false) ∈ b.starts) (hset : b'.settings = b.settings)
    (hstarts : b'.starts
      = b.starts.map (fun e => if e.1.id = info.id then (e.1, true) else e))
    (hheld : (b.Holds info.session info.id ∧ b'.held = b.held.filter (·.1 != info.session))
      ∨ (¬ b.Holds info.session info.id ∧ b'.held = b.held)) :
    Consistent settings (log ++ [.deregistered info.id]) b' := by
  obtain ⟨hin, hnew⟩ := h.of_mem_starts hmem
  have hfor := startedFor_congr (startedIn_deregistered log info.id)
  have hdereg : ∀ r, Act.deregistered r ∈ log ++ [.deregistered info.id]
      ↔ .deregistered r ∈ log ∨ r = info.id := by
    simp
  refine ⟨hset.trans h.settings_eq, ?_, ?_, ?_, h.count_deregistered hnew, ?_, ?_, ?_⟩
  · rw [hstarts, h.starts_eq, startedIn_deregistered, List.map_map]
    refine List.map_congr_left fun other _ => ?_
    by_cases ho : other.id = info.id <;> simp [ho]
  · rw [startedIn_deregistered]; exact h.ids
  · intro r hr
    rw [startedIn_deregistered]
    rcases (hdereg r).mp hr with hr | rfl
    · exact h.known r hr
    · exact List.mem_map.mpr ⟨info, hin, rfl⟩
  · rcases hheld with ⟨-, hh⟩ | ⟨-, hh⟩
    · rw [hh]
      exact h.sessions.sublist (List.filter_sublist.map _)
    · rw [hh]; exact h.sessions
  · intro s r
    rw [Latest, hfor, hdereg, not_or, ← and_assoc, ← Latest, ← h.held_iff]
    exact h.held_removed hin hheld s r
  · intro hp s r hr hd
    rw [Latest, hfor]
    rw [hfor] at hr
    exact h.rejected hp s r hr fun hm => hd ((hdereg r).mpr (.inl hm))

/-- **Each step keeps the views and the history together.**  This is the step lemma behind all that
is said of the registry. -/
theorem step (h : Consistent settings log b) {act : Act} (hstep : Step b act b') :
    Consistent settings (log ++ [act]) b' := by
  by_cases hq : act.isQuiet = true
  · exact h.quiet hq (hstep.sameView h.nodup hq)
  · cases hstep with
    | start hfresh hs =>
      obtain ⟨rfl, hreject, hset, hstarts, hheld⟩ := start_view hs
      refine h.started ?_ ?_ hset hstarts hheld
      · intro hm
        have hids : (startedIn log).map (·.id) = b.tasks.map (·.info.id) := by
          rw [← map_fst_starts, h.starts_eq, List.map_map]
          rfl
        rw [hids] at hm
        obtain ⟨t, ht, he⟩ := List.mem_map.mp hm
        exact hfresh t ht he
      · rw [← h.settings_eq]
        exact hreject
    | deregister ht hp hs =>
      obtain ⟨hmem, hstarts, hheld⟩ := nextPhase?_view ht hp hs
      exact h.deregistered hmem (nextPhase?_settings hs) hstarts hheld
    | _ => exact absurd rfl hq

/-- What has happened to a bridge and what it holds go together. -/
theorem of_runs (h : Runs settings log b) : Consistent settings log b := by
  induction h with
  | begin => exact .begin
  | next _ hstep ih => exact ih.step hstep

theorem holds_iff_latest (h : Consistent settings log b) (s : SessionId) (r : Id) :
    b.Holds s r ↔ Latest log s r ∧ .deregistered r ∉ log :=
  (h.holds_iff s r).trans (h.held_iff s r)

/-- A run that is not held any more is never held again. -/
theorem not_holds_later (h : Consistent settings log b) {more : List Act}
    (h' : Consistent settings (log ++ more) b') {s : SessionId} {r : Id}
    (hr : r ∈ startedFor log s) (hn : ¬ b.Holds s r) : ¬ b'.Holds s r := by
  rw [h'.holds_iff_latest]
  rintro ⟨hl, hd⟩
  refine hn ((h.holds_iff_latest s r).mpr ⟨?_, fun hm => hd (List.mem_append_left _ hm)⟩)
  have hnodup : (startedFor (log ++ more) s).Nodup :=
    h'.ids.sublist (List.filter_sublist.map _)
  rw [startedFor_append, List.nodup_append] at hnodup
  rw [Latest, startedFor_append] at hl
  rcases List.eq_nil_or_concat (startedFor more s) with he | ⟨rest, last, he⟩
  · rw [he, List.append_nil] at hl
    exact hl
  · rw [he, List.concat_eq_append, ← List.append_assoc, List.getLast?_concat] at hl
    obtain rfl := Option.some.inj hl
    exact absurd rfl (hnodup.2.2 _ hr _ (by simp [he]))

/-- The number of runs that are held is the number of sessions that have one. -/
theorem activeCount_eq (h : Consistent settings log b) :
    ∃ S : Finset SessionId, (∀ s, s ∈ S ↔ ∃ r, Latest log s r ∧ .deregistered r ∉ log)
      ∧ b.activeCount = S.card := by
  refine ⟨(b.held.map Prod.fst).toFinset, fun s => ?_, ?_⟩
  · simp only [List.mem_toFinset, ← h.held_iff]
    constructor
    · intro hm
      obtain ⟨⟨s, r⟩, hsr, rfl⟩ := List.mem_map.mp hm
      exact ⟨r, hsr⟩
    · rintro ⟨r, hsr⟩
      exact List.mem_map.mpr ⟨(s, r), hsr, rfl⟩
  · rw [List.toFinset_card_of_nodup h.sessions]
    simp [activeCount, held]

end Consistent

/-! ## 5. The registry -/

/-- **The registry holds the latest run of each session, until its supervisor removes it.**  After
any history: what is held, and with it the number of live runs, is what the history says; a run
that is removed leaves every other run where it is; a run is removed once, and one that is no
longer held never comes back; and under the policy that rejects, a session has at most one run
that was not removed. -/
theorem registry_holds_latest {settings : RunSettings} {log : List Act} {b : Bridge}
    (h : Runs settings log b) :
    (∀ s r, b.Holds s r ↔ Latest log s r ∧ .deregistered r ∉ log)
      ∧ (∀ r b', Step b (.deregistered r) b' →
          ∀ s r', r' ≠ r → (b'.Holds s r' ↔ b.Holds s r'))
      ∧ (∀ r, log.count (.deregistered r) ≤ 1)
      ∧ (∀ more b', Steps b more b' →
          ∀ s, ∀ r ∈ startedFor log s, ¬ b.Holds s r → ¬ b'.Holds s r)
      ∧ (settings.concurrentRuns = .reject → ∀ s, ∀ r ∈ startedFor log s, ∀ r' ∈ startedFor log s,
          .deregistered r ∉ log → .deregistered r' ∉ log → r = r')
      ∧ ∃ S : Finset SessionId, (∀ s, s ∈ S ↔ ∃ r, Latest log s r ∧ .deregistered r ∉ log)
          ∧ b.activeCount = S.card := by
  have hc := Consistent.of_runs h
  refine ⟨hc.holds_iff_latest, ?_, hc.once, ?_, ?_, hc.activeCount_eq⟩
  · intro r b' hstep s r' hne
    rw [(hc.step hstep).holds_iff_latest, hc.holds_iff_latest, Latest, Latest,
      startedFor_congr (startedIn_deregistered log r)]
    simp [hne]
  · intro more b' hmore s r hr hn
    exact hc.not_holds_later (.of_runs (h.append hmore)) hr hn
  · intro hp s r hr r' hr' hd hd'
    exact (hc.rejected hp s r hr hd).unique (hc.rejected hp s r' hr' hd')

/-- A run that was replaced and comes to its end after its successor has started: what removes it
leaves the successor registered. -/
theorem stale_removal_leaves_successor :
    ∃ log b, Runs { concurrentRuns := .replace } log b
      ∧ .deregistered (.ofNat 1) ∈ log ∧ ¬ b.Holds "w1" (.ofNat 1) ∧ b.Holds "w1" (.ofNat 2) := by
  have first {b : Bridge} {t : Task} (h : b.tasks[0]? = some t) : t ∈ b.tasks :=
    List.mem_of_getElem? h
  have h0 : Runs { concurrentRuns := .replace } [] _ := .begin
  have h1 := h0.next (.start (fun _ ht => absurd ht (by simp))
    (rfl : start _ (.ofNat 1) 0 "w1" ⟨[]⟩ (some ⟨[]⟩) (fun _ _ => .ok ()) = _))
  have h2 := h1.next (.start (by decide)
    (rfl : start _ (.ofNat 2) 5 "w1" ⟨[]⟩ (some ⟨[]⟩) (fun _ _ => .ok ()) = _))
  have h3 := h2.next (.supervise 10 (first rfl) rfl (.learn .cancelled rfl rfl rfl))
  have h4 := h3.next (.supervise 510 (first rfl) rfl
    (.learn .drained rfl rfl ⟨510, rfl, by decide⟩))
  have h5 := h4.next (.conclude 511 (first rfl) rfl rfl)
  have h6 := h5.next (.deregister (first rfl) rfl rfl)
  have all := registry_holds_latest h6
  refine ⟨_, _, h6, by decide, ?_, (all.1 "w1" (.ofNat 2)).mpr ⟨rfl, by decide⟩⟩
  rw [all.1]
  exact fun h => h.2 (by decide)

end Bridge
end Scriptorium
