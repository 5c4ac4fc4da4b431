import Scriptorium.Proofs.Bridge.Turns

/-!
# Sessions are independent of each other

The runs of all sessions stand in one list, so do their registrations and their channels, and every
operation finds what it is about by looking it up there.  `Scene.only` is what is left of a scene if
everything is left away that belongs to other sessions.  It makes no difference to a session whether
a turn of its own is performed in the scene or in what is left of it (`perform_only`), and a turn of
another session leaves what is left as it is (`only_perform_of_ne`).

So a session cannot tell whether there are others: whatever they do, in whatever order, the answers
that it gets, its channels, its registered run and all its runs are the same as if it had been
alone from the beginning (`as_if_alone`).
-/
namespace Scriptorium.Bridge

open Run Output

/-! ## 1. What belongs to a session -/

/-- What of a bridge belongs to a session whose channels are at the places `ps`. -/
def only (b : Bridge) (ps : List Nat) (s : SessionId) : Bridge where
  settings := b.settings
  router := b.router.only ps s
  registry := b.registry.filter (·.session = s)
  tasks := b.tasks.filter (·.info.session = s)

/-- What belongs to a session can be told from the rest: runs have different identifiers, the run
that is registered for a session is its own, and so are its channels. -/
structure Parted (b : Bridge) (ps : List Nat) (s : SessionId) : Prop where
  ids : (b.tasks.map (·.info.id)).Nodup
  live : ∀ other r, b.Holds other r → ∀ t ∈ b.tasks, t.info.id = r → t.info.session = other
  owns : b.router.Owns ps s

variable {b b' : Bridge} {ps : List Nat} {s s' : SessionId} {t : Task} {run : Id}

@[simp] theorem liveRun?_only (b : Bridge) (ps : List Nat) (s : SessionId) :
    (b.only ps s).liveRun? s = b.liveRun? s := by
  simp only [liveRun?, only, List.find?_filter]
  refine congrArg (fun p => List.find? p b.registry) (funext fun r => ?_)
  by_cases h : r.session = s <;> simp [h]

@[simp] theorem writable?_only (b : Bridge) (ps : List Nat) (s : SessionId) :
    (b.only ps s).writable? s = b.writable? s := by
  simp only [writable?, liveRun?_only]

theorem holds_of_liveRun? {live : Registration} (h : b.liveRun? s = some live) :
    b.Holds s live.run := by
  simp [Holds, h]

theorem holds_of_writable? (h : b.writable? s = some run) : b.Holds s run := by
  unfold writable? at h
  split at h
  · rename_i hl
    obtain rfl := Option.some.inj h
    exact holds_of_liveRun? hl
  · exact absurd h (by simp)

theorem mem_tasks_only : t ∈ (b.only ps s).tasks ↔ t ∈ b.tasks ∧ t.info.session = s := by
  simp [only]

/-- A run is found if it belongs to the session. -/
theorem Parted.task?_only (h : Parted b ps s) (run : Id) :
    (b.only ps s).task? run = (b.task? run).filter (·.info.session = s) := by
  cases hf : (b.only ps s).task? run with
  | none =>
    refine (Option.filter_eq_none_iff.mpr fun t ht => ?_).symm
    obtain ⟨ht, hid⟩ := mem_of_task? ht
    intro hs
    have hmem : t ∈ (b.only ps s).tasks := mem_tasks_only.mpr ⟨ht, of_decide_eq_true hs⟩
    exact List.find?_eq_none.mp hf t hmem (beq_iff_eq.mpr hid)
  | some t =>
    obtain ⟨ht, rfl⟩ := mem_of_task? hf
    obtain ⟨ht, hs⟩ := mem_tasks_only.mp ht
    rw [task?_of_mem h.ids ht]
    simp [Option.filter, hs]

/-- The run that is registered for the session is found. -/
theorem Parted.task?_only_of_holds (h : Parted b ps s) (hh : b.Holds s run) :
    (b.only ps s).task? run = b.task? run := by
  rw [h.task?_only]
  cases hf : b.task? run with
  | none => rfl
  | some t =>
    obtain ⟨ht, hid⟩ := mem_of_task? hf
    simp [Option.filter, h.live s run hh t ht hid]

/-- What is changed of a run is changed of what is left of it. -/
theorem only_updateTask (b : Bridge) (ps : List Nat) (s : SessionId) (id : Id) {f : Task → Task}
    (hf : ∀ t, (f t).info = t.info) :
    (b.updateTask id f).only ps s = (b.only ps s).updateTask id f := by
  simp only [only, updateTask, List.filter_map, Bridge.mk.injEq, true_and]
  refine congrArg _ (List.filter_congr fun t _ => ?_)
  simp only [Function.comp_apply]
  split
  · rw [hf]
  · rfl

/-- A run of another session is not left. -/
theorem updateTask_only_of_ne {f : Task → Task}
    (hne : ∀ t ∈ b.tasks, t.info.id = run → t.info.session ≠ s) :
    (b.only ps s).updateTask run f = b.only ps s := by
  refine Scene.updateTask_of_not_mem fun t ht hid => ?_
  obtain ⟨ht, hs⟩ := mem_tasks_only.mp ht
  exact hne t ht hid hs

theorem Parted.ne_of_holds (h : Parted b ps s) (hne : s' ≠ s) (hh : b.Holds s' run) :
    ∀ t ∈ b.tasks, t.info.id = run → t.info.session ≠ s := by
  rintro t ht hid rfl
  exact hne (h.live s' run hh t ht hid).symm

theorem Parted.ne_of_mem (h : Parted b ps s) (ht : t ∈ b.tasks) (hne : t.info.session ≠ s) :
    ∀ u ∈ b.tasks, u.info.id = t.info.id → u.info.session ≠ s := by
  intro u hu hid
  rwa [eq_of_id_eq h.ids ht hu hid]

/-! ## 2. What sessions ask for -/

theorem only_displace (b : Bridge) (ps : List Nat) (s : SessionId) :
    (b.displace s).only ps s = (b.only ps s).displace s := by
  unfold displace
  rw [liveRun?_only]
  split
  · simp only [detach, fireCancel, only_updateTask, implies_true]
  · rfl

theorem Parted.only_displace_of_ne (h : Parted b ps s) (hne : s' ≠ s) :
    (b.displace s').only ps s = b.only ps s := by
  unfold displace
  split
  · rename_i live hl
    have hother := h.ne_of_holds hne (holds_of_liveRun? hl)
    simp only [detach, fireCancel, only_updateTask, implies_true, updateTask_only_of_ne hother]
  · rfl

theorem filter_otherRuns_self (b : Bridge) (s : SessionId) :
    (b.otherRuns s).filter (·.session = s) = [] :=
  filter_eq_of_filter_ne Registration.session b.registry s

theorem filter_otherRuns_of_ne (b : Bridge) (hne : s' ≠ s) :
    (b.otherRuns s').filter (·.session = s) = b.registry.filter (·.session = s) :=
  filter_eq_of_ne Registration.session b.registry hne

theorem otherRuns_only (b : Bridge) (ps : List Nat) (s : SessionId) :
    (b.only ps s).otherRuns s = [] :=
  filter_ne_of_filter_eq Registration.session b.registry s

theorem only_register (b : Bridge) (ps : List Nat) (info : RunInfo) :
    (b.register info).only ps info.session = (b.only ps info.session).register info := by
  have hd := only_displace b ps info.session
  simp only [register, ← hd, otherRuns_only]
  simp only [only, List.filter_cons, decide_true, if_true, filter_otherRuns_self,
    List.filter_append, List.filter_nil]

theorem Parted.only_register_of_ne (h : Parted b ps s) {info : RunInfo}
    (hne : info.session ≠ s) : (b.register info).only ps s = b.only ps s := by
  rw [← h.only_displace_of_ne hne]
  simp [register, only, filter_otherRuns_of_ne _ hne, hne]

/-- A start comes to the same. -/
theorem run_launch_only {σ α : Type} (host : Host σ α) (b : Bridge) (ps : List Nat) (system : σ)
    (id : Id) (now : Nat) (s : SessionId) (requested : Path) :
    (launch host id now s requested).run (b.only ps s, system)
      = match (launch host id now s requested).run (b, system) with
        | .ok r (b', system') => .ok r (b'.only ps s, system')
        | .error e (b', system') => .error e (b'.only ps s, system') := by
  have hbusy : (b.only ps s).Busy s ↔ b.Busy s := by
    rw [Busy, Busy, liveRun?_only]
    rfl
  have hl := launches host b system id now s requested
  have hl' := launches host (b.only ps s) system id now s requested
  generalize (launch host id now s requested).run (b, system) = r at hl
  refine hl'.unique ?_
  cases hl with
  | notFound hs => exact .notFound hs
  | busy hs hb => exact .busy hs (hbusy.mpr hb)
  | notSpawned hs hb hc => exact .notSpawned hs (mt hbusy.mp hb) hc
  | notPiped hs hb hc hp => exact .notPiped hs (mt hbusy.mp hb) hc hp
  | started hs hb hc hp =>
    simp only
    rw [only_register b ps ⟨id, s, _, _, now⟩]
    exact .started hs (mt hbusy.mp hb) hc hp

/-- A write of a session means the same in the session's own part of the bridge: it goes to the same
run, gets the same number, and changes nothing but what this part holds. -/
theorem Parted.only_offer (h : Parted b ps s) (data : Bytes) :
    (b.only ps s).offer s data = ((b.offer s data).1.only ps s, (b.offer s data).2) := by
  unfold offer
  rw [writable?_only]
  cases hw : b.writable? s with
  | none => rfl
  | some run =>
    simp only [h.task?_only_of_holds (holds_of_writable? hw)]
    split
    · rfl
    · split
      · rfl
      · simp only [only_updateTask, implies_true]

/-- A write of another session cannot be seen in this session's part, since it goes to a run that is
not in it. -/
theorem Parted.only_offer_of_ne (h : Parted b ps s) (hne : s' ≠ s) (data : Bytes) :
    (b.offer s' data).1.only ps s = b.only ps s := by
  unfold offer
  split
  · rfl
  · rename_i run hw
    split
    · rfl
    · split
      · rfl
      · simp only [only_updateTask, implies_true,
          updateTask_only_of_ne (h.ne_of_holds hne (holds_of_writable? hw))]

/-- Ending the input means the same in the session's own part of the bridge, and the answer is the
same. -/
theorem Parted.only_endInput (h : Parted b ps s) :
    (b.only ps s).endInput s = ((b.endInput s).1.only ps s, (b.endInput s).2) := by
  unfold endInput
  rw [writable?_only]
  cases hw : b.writable? s with
  | none => rfl
  | some run =>
    simp only [h.task?_only_of_holds (holds_of_writable? hw)]
    have hd : (b.detach run).only ps s = (b.only ps s).detach run := by
      simp only [detach, only_updateTask, implies_true]
    rw [← hd]
    simp only [only, List.filter_map, Prod.mk.injEq, Bridge.mk.injEq, true_and, and_true]
    refine congrArg _ (List.filter_congr fun r _ => ?_)
    simp only [Function.comp_apply]
    split <;> rfl

/-- What is changed of the registration of another session is not left. -/
theorem filter_map_registry_of_ne (rs : List Registration) (hne : s' ≠ s)
    {f : Registration → Registration} (hf : ∀ r, (f r).session = r.session) :
    (rs.map fun r => if r.session == s' then f r else r).filter (·.session = s)
      = rs.filter (·.session = s) := by
  have hsame : (fun r => decide (r.session = s))
      ∘ (fun r : Registration => if r.session == s' then f r else r)
        = fun r => decide (r.session = s) := by
    funext r
    simp only [Function.comp_apply]
    split
    · rw [hf]
    · rfl
  rw [List.filter_map, hsame]
  refine (List.map_congr_left fun r hr => ?_).trans (List.map_id _)
  have hs : r.session = s := by simpa using (List.mem_filter.mp hr).2
  exact if_neg (by simpa [hs] using hne.symm)

/-- That another session ends the input of its run cannot be seen in this session's part. -/
theorem Parted.only_endInput_of_ne (h : Parted b ps s) (hne : s' ≠ s) :
    (b.endInput s').1.only ps s = b.only ps s := by
  unfold endInput
  split
  · rfl
  · rename_i run hw
    have hd : (b.detach run).only ps s = b.only ps s := by
      simp only [detach, only_updateTask, implies_true,
        updateTask_only_of_ne (h.ne_of_holds hne (holds_of_writable? hw))]
    rw [← hd]
    simp only [only, Bridge.mk.injEq, true_and, and_true]
    exact filter_map_registry_of_ne b.registry hne fun _ => rfl

theorem only_cancel (b : Bridge) (ps : List Nat) (s : SessionId) :
    (b.only ps s).cancel s = ((b.cancel s).1.only ps s, (b.cancel s).2) := by
  unfold cancel
  rw [liveRun?_only]
  split
  · simp only [fireCancel, only_updateTask, implies_true]
  · rfl

theorem Parted.only_cancel_of_ne (h : Parted b ps s) (hne : s' ≠ s) :
    (b.cancel s').1.only ps s = b.only ps s := by
  unfold cancel
  split
  · rename_i live hl
    simp only [fireCancel, only_updateTask, implies_true,
      updateTask_only_of_ne (h.ne_of_holds hne (holds_of_liveRun? hl))]
  · rfl

theorem only_unsubscribe (b : Bridge) (ps : List Nat) (s : SessionId) :
    (b.only ps s).unsubscribe s = ((b.unsubscribe s).1.only ps s, (b.unsubscribe s).2) := by
  simp only [unsubscribe, only, Router.only_unsubscribe, Router.unsubscribe_only]

theorem only_unsubscribe_of_ne (b : Bridge) (ps : List Nat) (hne : s' ≠ s) :
    (b.unsubscribe s').1.only ps s = b.only ps s := by
  simp only [unsubscribe, only, Router.only_unsubscribe_of_ne b.router ps hne]

theorem Parted.only_subscribe (h : Parted b ps s) :
    ((b.only ps s).subscribe s).1
      = (b.subscribe s).1.only (ps ++ [b.router.channels.length]) s := by
  simp only [subscribe, only, h.owns.only_subscribe]

theorem Parted.only_subscribe_of_ne (h : Parted b ps s) (hne : s' ≠ s) :
    (b.subscribe s').1.only ps s = b.only ps s := by
  simp only [subscribe, only, h.owns.only_subscribe_of_ne hne]

theorem only_closeSession (b : Bridge) (ps : List Nat) (s : SessionId) :
    (b.only ps s).closeSession s = (b.closeSession s).only ps s := by
  rw [closeSession, closeSession, only_unsubscribe, only_cancel]

theorem Parted.unsubscribe (h : Parted b ps s) (s' : SessionId) :
    Parted (b.unsubscribe s').1 ps s where
  ids := h.ids
  live := h.live
  owns := h.owns.unsubscribe s'

theorem Parted.only_closeSession_of_ne (h : Parted b ps s) (hne : s' ≠ s) :
    (b.closeSession s').only ps s = b.only ps s := by
  rw [closeSession, (h.unsubscribe s').only_cancel_of_ne hne, only_unsubscribe_of_ne b ps hne]

theorem Parted.activeRun?_only (h : Parted b ps s) :
    (b.only ps s).activeRun? s = b.activeRun? s := by
  unfold activeRun?
  rw [liveRun?_only]
  cases hl : b.liveRun? s with
  | none => rfl
  | some live =>
    simp only [Option.bind_some, h.task?_only_of_holds (holds_of_liveRun? hl)]

/-! ## 3. What runs do by themselves -/

/-- What a run does about its supervision stays in the part of its own session: its phase, its token
and its output are all there. -/
theorem Parted.only_react (h : Parted b ps t.info.session) (next : Supervision × Reaction) :
    (b.only ps t.info.session).react t.info next
      = (b.react t.info next).only ps t.info.session := by
  have hset : (b.setSupervision t.info.id next.1).only ps t.info.session
      = (b.only ps t.info.session).setSupervision t.info.id next.1 := by
    simp only [setSupervision, only_updateTask, implies_true]
  unfold react deliver
  rw [← hset]
  cases next.2.emitted with
  | none => rfl
  | some out =>
    have hemit := h.owns.only_emit ⟨t.info.id, out.1, out.2⟩
    simp only [only, Bridge.mk.injEq, true_and, and_true]
    exact hemit.symm

/-- What a run of another session does about its supervision cannot be seen in this session's part,
not even its output, which goes to a channel of its own. -/
theorem Parted.only_react_of_ne (h : Parted b ps s) (ht : t ∈ b.tasks)
    (hne : t.info.session ≠ s) (next : Supervision × Reaction) :
    (b.react t.info next).only ps s = b.only ps s := by
  have hset : (b.setSupervision t.info.id next.1).only ps s = b.only ps s := by
    simp only [setSupervision, only_updateTask, implies_true,
      updateTask_only_of_ne (h.ne_of_mem ht hne)]
  unfold react deliver
  cases next.2.emitted with
  | none => exact hset
  | some out =>
    rw [← hset]
    have hemit := h.owns.only_emit_of_ne hne ⟨t.info.id, out.1, out.2⟩
    simp only [only, Bridge.mk.injEq, true_and, and_true]
    exact hemit

/-- A run is removed from the registry in the same way when only the part of its session is looked
at. -/
theorem only_deregister (b : Bridge) (ps : List Nat) (info : RunInfo) :
    (b.only ps info.session).deregister info = (b.deregister info).only ps info.session := by
  unfold deregister
  rw [liveRun?_only]
  split
  · split
    · have hd : (b.detach info.id).only ps info.session
          = (b.only ps info.session).detach info.id := by
        simp only [detach, only_updateTask, implies_true]
      rw [← hd, otherRuns_only]
      simp only [only, filter_otherRuns_self]
    · rfl
  · rfl

/-- The registrations of this session stay when a run of another session is removed. -/
theorem Parted.only_deregister_of_ne (h : Parted b ps s) (ht : t ∈ b.tasks)
    (hne : t.info.session ≠ s) : (b.deregister t.info).only ps s = b.only ps s := by
  unfold deregister
  split
  · split
    · have hd : (b.detach t.info.id).only ps s = b.only ps s := by
        simp only [detach, only_updateTask, implies_true,
          updateTask_only_of_ne (h.ne_of_mem ht hne)]
      rw [← hd]
      simp only [only, filter_otherRuns_of_ne b hne]
      rfl
    · rfl
  · rfl

theorem only_nextPhase? (b : Bridge) (ps : List Nat) (t : Task) :
    (b.only ps t.info.session).nextPhase? t
      = (b.nextPhase? t).map (·.only ps t.info.session) := by
  unfold nextPhase?
  split
  · simp only [only_deregister, Option.map_some, only_updateTask, implies_true]
  · simp only [Option.map_some, only_updateTask, implies_true]
  · simp only [Option.map_some, only_updateTask, implies_true]
  · rfl

/-- The way of another session's run from the end of its supervision to its result cannot be seen in
this session's part. -/
theorem Parted.only_nextPhase?_of_ne (h : Parted b ps s) (ht : t ∈ b.tasks)
    (hne : t.info.session ≠ s) (hn : b.nextPhase? t = some b') : b'.only ps s = b.only ps s := by
  have hother := h.ne_of_mem ht hne
  unfold nextPhase? at hn
  split at hn
  · obtain rfl := Option.some.inj hn
    simp only [only_updateTask, implies_true, h.only_deregister_of_ne ht hne,
      updateTask_only_of_ne hother]
  · obtain rfl := Option.some.inj hn
    simp only [only_updateTask, implies_true, updateTask_only_of_ne hother]
  · obtain rfl := Option.some.inj hn
    simp only [only_updateTask, implies_true, updateTask_only_of_ne hother]
  · exact absurd hn (by simp)

/-- **The work of a run is the same with and without other sessions.**  What it does depends on its
own state, on the clock and on its channel, and all of these are in the part of its session. -/
theorem Parted.work?_only (h : Parted b ps t.info.session) (w : Work) :
    (b.only ps t.info.session).work? t w = (b.work? t w).map (·.only ps t.info.session) := by
  cases w with
  | supervise now labour =>
    simp only [work?]
    split
    · rename_i sup _
      cases sup.labour? now t.cancelled labour with
      | none => rfl
      | some next => simp only [Option.map_some, h.only_react]
    · rfl
  | conclude now =>
    simp only [work?]
    split
    · split
      · rfl
      · simp only [Option.map_some, conclude, only_updateTask, implies_true]
    · rfl
  | write stroke =>
    simp only [work?]
    cases t.writer.stroke? t.phase.isOver stroke with
    | none => rfl
    | some w => simp only [Option.map_some, only_updateTask, implies_true]
  | goOn => exact only_nextPhase? b ps t

/-- The work of a run is not seen by other sessions. -/
theorem Parted.only_work?_of_ne (h : Parted b ps s) (ht : t ∈ b.tasks)
    (hne : t.info.session ≠ s) {w : Work} (hw : b.work? t w = some b') :
    b'.only ps s = b.only ps s := by
  have hother := h.ne_of_mem ht hne
  cases w with
  | supervise now labour =>
    simp only [work?] at hw
    split at hw
    · obtain ⟨next, -, rfl⟩ := Option.map_eq_some_iff.mp hw
      exact h.only_react_of_ne ht hne next
    · exact absurd hw (by simp)
  | conclude now =>
    simp only [work?] at hw
    split at hw
    · split at hw
      · exact absurd hw (by simp)
      · obtain rfl := Option.some.inj hw
        simp only [conclude, only_updateTask, implies_true, updateTask_only_of_ne hother]
    · exact absurd hw (by simp)
  | write stroke =>
    obtain ⟨w, -, rfl⟩ := Option.map_eq_some_iff.mp hw
    simp only [only_updateTask, implies_true, updateTask_only_of_ne hother]
  | goOn => exact h.only_nextPhase?_of_ne ht hne hw

/-! ## 4. What is left of a scene -/

namespace Scene

variable {settings : RunSettings} {st : Scene} {turn : Turn} {turns : List Turn}

/-- What of a scene belongs to a session. -/
def only (st : Scene) (s : SessionId) : Scene :=
  ⟨st.bridge.only (st.places s) s, st.owners.filter (· = s)⟩

/-- The channels that a session has opened, with what is in each and whether it is closed. -/
def channelsOf (st : Scene) (s : SessionId) : List (Option Channel × Bool) :=
  (st.places s).map fun i => (st.bridge.router.channels[i]?, st.bridge.router.isClosed i)

/-- The runs of a session, with all that is known of each. -/
def runsOf (st : Scene) (s : SessionId) : List Task :=
  st.bridge.tasks.filter (·.info.session = s)

/-- In a scene that came about soundly, the places of a session are just its own channels, so the
bridge can be parted at the session. -/
theorem Sound.parted (hs : Sound settings st) (s : SessionId) :
    Parted st.bridge (st.places s) s := by
  obtain ⟨log, hc⟩ := hs.consistent
  refine ⟨hc.nodup, ?_, ⟨List.nodup_idxsOf, fun i hi => ?_, fun e he => ?_⟩⟩
  · rintro other r hh t ht rfl
    have hin : t.info ∈ startedIn log := hc.infos_eq ▸ List.mem_map_of_mem ht
    exact (hc.owner hin ((hc.holds_iff_latest _ _).mp hh).1).symm
  · rw [← hs.owned.length_eq]
    exact (List.getElem?_eq_some_iff.mp (mem_places.mp hi)).1
  · rw [mem_places, hs.owned.listens e he]
    simp

/-- A channel that is opened comes behind those that its session has. -/
theorem Sound.places_subscribe (hs : Sound settings st) (b : Bridge) (s s' : SessionId) :
    (Scene.mk b (st.owners ++ [s'])).places s
      = st.places s ++ if s' = s then [st.bridge.router.channels.length] else [] := by
  simp only [places, List.idxsOf_append, ← hs.owned.length_eq]
  by_cases h : s' = s <;> simp [h]

/-- The channels that are left are numbered one after the other. -/
theorem places_only (st : Scene) (s : SessionId) :
    (st.only s).places s = List.range (st.places s).length := by
  have hreplicate (n : Nat) : (List.replicate n s).idxsOf s = List.range n := by
    induction n with
    | zero => rfl
    | succ n ih =>
      rw [List.replicate_succ', List.idxsOf_append, ih, List.range_succ]
      simp
  have hfilter : st.owners.filter (· = s) = List.replicate (st.owners.count s) s := by
    simpa only [beq_eq_decide] using List.filter_beq s
  simp only [places, only, hfilter, hreplicate, List.length_idxsOf]

/-- Each channel that is left is the one that had its number among those of the session. -/
theorem idxOf_places {k i : Nat} (h : (st.places s)[k]? = some i) :
    i ∈ st.places s ∧ (st.places s).idxOf i = k ∧ ((st.only s).places s)[k]? = some k := by
  obtain ⟨hk, rfl⟩ := List.getElem?_eq_some_iff.mp h
  refine ⟨List.getElem_mem hk, List.nodup_idxsOf.idxOf_getElem k hk, ?_⟩
  rw [places_only, List.getElem?_range hk]

theorem getElem?_places_only_none {k : Nat} (h : (st.places s)[k]? = none) :
    ((st.only s).places s)[k]? = none := by
  rw [places_only, List.getElem?_eq_none_iff, List.length_range]
  exact List.getElem?_eq_none_iff.mp h

/-- A session that is looked at alone has the channels that it has among the others, and each is as
open and as full as there. -/
theorem Sound.channelsOf_only (hs : Sound settings st) (s : SessionId) :
    (st.only s).channelsOf s = st.channelsOf s := by
  have howns := (hs.parted s).owns
  refine List.ext_getElem? fun k => ?_
  simp only [channelsOf, List.getElem?_map]
  cases h : (st.places s)[k]? with
  | none => rw [getElem?_places_only_none h]; rfl
  | some i =>
    obtain ⟨hi, hidx, hk⟩ := idxOf_places h
    rw [hk]
    have hget := howns.getElem?_only hi
    have hclosed := howns.isClosed_only hi
    rw [hidx] at hget hclosed
    simp only [Option.map_some, only, Bridge.only, hget, hclosed]

theorem runsOf_only (st : Scene) (s : SessionId) : (st.only s).runsOf s = st.runsOf s := by
  simp [runsOf, only, Bridge.only]

theorem Sound.mine?_only (hs : Sound settings st) (s : SessionId) (run : Id) :
    (st.only s).mine? s run = st.mine? s run := by
  simp only [Scene.mine?, only, (hs.parted s).task?_only]
  cases st.bridge.task? run with
  | none => rfl
  | some t => by_cases h : t.info.session = s <;> simp [Option.filter, h]

/-- A run of the session is found in what is left. -/
theorem Sound.task?_only_of_mine? (hs : Sound settings st) {t : Task}
    (h : st.mine? s run = some t) :
    (st.only s).bridge.task? run = st.bridge.task? run := by
  obtain ⟨ht, hsession⟩ := mine?_eq_some.mp h
  refine ((hs.parted s).task?_only run).trans ?_
  simp [ht, Option.filter, hsession]

/-! ## 5. Turns -/

/-- **It makes no difference to a session whether its turn is performed in the scene or in what is
left of it.**  The answer is the same, and what is left of the scene afterwards is what the turn
makes of what was left before. -/
theorem Sound.perform_only (hs : Sound settings st) (s : SessionId) (doing : Doing) :
    (st.only s).perform ⟨s, doing⟩
      = ((st.perform ⟨s, doing⟩).1.only s, (st.perform ⟨s, doing⟩).2) := by
  have hp := hs.parted s
  cases doing with
  | start id now requested found spawned =>
    simp only [Scene.perform, only, run_launch_only]
    cases (launch (.said found spawned) id now s requested).run (st.bridge, ()) <;> rfl
  | offer data => simp only [Scene.perform, only, hp.only_offer]; rfl
  | comeBack run number timeUp =>
    simp only [Scene.perform, hs.mine?_only]
    cases hm : st.mine? s run with
    | none => rfl
    | some t =>
      have hfate : (st.only s).verdict? run number timeUp = st.verdict? run number timeUp := by
        simp only [verdict?, fate?, hs.task?_only_of_mine? hm]
      simp only [Option.bind_some, hfate]
      cases st.verdict? run number timeUp with
      | none => rfl
      | some accepted =>
        simp only [only, release, only_updateTask, implies_true]
        rfl
  | endInput => simp only [Scene.perform, only, hp.only_endInput]; rfl
  | cancel => simp only [Scene.perform, only, only_cancel]; rfl
  | close => simp only [Scene.perform, only, only_closeSession]; rfl
  | subscribe =>
    simp only [Scene.perform, places_only, List.length_range]
    simp only [only, hp.only_subscribe, hs.places_subscribe, if_true, List.filter_append]
    simp
  | unsubscribe => simp only [Scene.perform, only, only_unsubscribe]; rfl
  | listen k how =>
    cases hk : (st.places s)[k]? with
    | none => simp only [Scene.perform, hk, getElem?_places_only_none hk, Option.bind_none]
    | some i =>
      obtain ⟨hi, hidx, hk'⟩ := idxOf_places hk
      have hl : (st.only s).bridge.router.listen? k how
          = (st.bridge.router.listen? i how).map fun p => (p.1, p.2.only (st.places s) s) := by
        rw [← hidx]
        exact hp.owns.listen?_only hi how
      simp only [Scene.perform, hk, hk', Option.bind_some, hl]
      cases st.bridge.router.listen? i how <;> rfl
  | look => simp only [Scene.perform, only, hp.activeRun?_only]
  | ask run =>
    simp only [Scene.perform, hs.mine?_only]
    cases hm : st.mine? s run with
    | none => rfl
    | some t => simp only [state?, result?, hs.task?_only_of_mine? hm]
  | work run w =>
    simp only [Scene.perform, hs.mine?_only]
    cases hm : st.mine? s run with
    | none => rfl
    | some t =>
      obtain ⟨-, -, rfl⟩ := mine?_mem hm
      have hw : (st.only t.info.session).bridge.work? t w
          = (st.bridge.work? t w).map (·.only (st.places t.info.session) t.info.session) :=
        hp.work?_only w
      simp only [Option.bind_some, hw]
      cases st.bridge.work? t w <;> rfl

theorem only_with {b' : Bridge} (h : b'.only (st.places s) s = st.bridge.only (st.places s) s) :
    ({ st with bridge := b' } : Scene).only s = st.only s :=
  congrArg (Scene.mk · _) h

/-- **A turn of another session leaves what is left as it is.**  It touches other runs, other
channels and other registrations, and none of these is in this part. -/
theorem Sound.only_perform_of_ne (hs : Sound settings st) (hne : turn.session ≠ s) :
    (st.perform turn).1.only s = st.only s := by
  obtain ⟨s', doing⟩ := turn
  have hp := hs.parted s
  cases doing with
  | start id now requested found spawned =>
    have hl := launches (.said found spawned) st.bridge () id now s' requested
    simp only [Scene.perform]
    generalize (launch (.said found spawned) id now s' requested).run (st.bridge, ()) = r at hl
    cases hl with
    | started _ _ _ _ => exact only_with (hp.only_register_of_ne hne)
    | _ => rfl
  | offer data => exact only_with (hp.only_offer_of_ne hne data)
  | comeBack run number timeUp =>
    simp only [Scene.perform]
    split
    · rename_i hv
      obtain ⟨t, hm, -⟩ := Option.bind_eq_some_iff.mp hv
      obtain ⟨ht, rfl, rfl⟩ := mine?_mem hm
      refine only_with ?_
      simp only [release, only_updateTask, implies_true,
        updateTask_only_of_ne (hp.ne_of_mem ht hne)]
    · rfl
  | endInput => exact only_with (hp.only_endInput_of_ne hne)
  | cancel => exact only_with (hp.only_cancel_of_ne hne)
  | close => exact only_with (hp.only_closeSession_of_ne hne)
  | subscribe =>
    simp only [Scene.perform, only, hs.places_subscribe, if_neg hne, List.append_nil,
      hp.only_subscribe_of_ne hne, List.filter_append]
    simp [hne]
  | unsubscribe => exact only_with (only_unsubscribe_of_ne st.bridge _ hne)
  | listen k how =>
    simp only [Scene.perform]
    split
    · rename_i es router hl
      obtain ⟨i, hk, hi⟩ := Option.bind_eq_some_iff.mp hl
      obtain ⟨c, rfl⟩ := Router.listen?_eq_some hi
      -- the channel was opened for another session
      have hother : i ∉ st.places s := by
        intro hmem
        have howner := mem_places.mp (idxOf_places hk).1
        rw [mem_places.mp hmem] at howner
        exact hne (Option.some.inj howner).symm
      refine only_with ?_
      simp only [Bridge.only, Router.only_set_of_not_mem hother]
    · rfl
  | look => rfl
  | ask run =>
    simp only [Scene.perform]
    split <;> rfl
  | work run w =>
    simp only [Scene.perform]
    split
    · rename_i b' hbind
      obtain ⟨t, hm, hw⟩ := Option.bind_eq_some_iff.mp hbind
      obtain ⟨ht, rfl, rfl⟩ := mine?_mem hm
      exact only_with (hp.only_work?_of_ne ht hne hw)
    · rfl

/-- Turns of all sessions come to the same, for one of them, as its own turns alone. -/
theorem Sound.play_only (hs : Sound settings st) (hf : Fresh st turns) (s : SessionId) :
    ((st.only s).play (turns.filter (·.session = s)))
      = ((st.play turns).1.only s, (st.play turns).2.filter (·.1 = s)) := by
  induction turns generalizing st with
  | nil => rfl
  | cons turn turns ih =>
    obtain ⟨hs', hf'⟩ := hs.perform hf
    have hrest := ih hs' hf'
    by_cases hturn : turn.session = s
    · obtain ⟨s', doing⟩ := turn
      obtain rfl : s' = s := hturn
      rw [List.filter_cons_of_pos (by simp), Scene.play, hs.perform_only, hrest, Scene.play]
      simp
    · rw [List.filter_cons_of_neg (by simpa using hturn), ← hs.only_perform_of_ne hturn, hrest,
        Scene.play]
      simp [hturn]

/-- **A session cannot tell whether there are others.**  Whatever turns are performed from the
beginning, in which no two runs get the same identifier: what a session is answered, what is in its
channels and which of them are closed, its registered run, and all its runs with whether they were
told to stop, are the same as if only its own turns had been performed. -/
theorem as_if_alone (settings : RunSettings) {turns : List Turn} (hids : (idsOf turns).Nodup)
    (s : SessionId) :
    let full := (new settings).play turns
    let alone := (new settings).play (turns.filter (·.session = s))
    full.2.filter (·.1 = s) = alone.2
      ∧ full.1.channelsOf s = alone.1.channelsOf s
      ∧ full.1.bridge.liveRun? s = alone.1.bridge.liveRun? s
      ∧ full.1.runsOf s = alone.1.runsOf s := by
  intro full alone
  have hs : Sound settings full.1 := (sound_new settings).play (fresh_new hids)
  have halone : alone = (full.1.only s, full.2.filter (·.1 = s)) :=
    (sound_new settings).play_only (fresh_new hids) s
  rw [halone]
  exact ⟨rfl, (hs.channelsOf_only s).symm, (liveRun?_only _ _ _).symm, (runsOf_only _ s).symm⟩

/-- Two sessions subscribe and start a run each; the first replaces its run and is closed, while the
second gets what its run has written, and cancels it.  It is told the same as if the first had not
been there. -/
theorem neighbour_not_noticed :
    ∃ (turns : List Turn) (told : List (SessionId × Answer)),
      (idsOf turns).Nodup ∧ (turns.filter (·.session = "w2")).length < turns.length
        ∧ ((new { concurrentRuns := .replace }).play turns).2.filter (·.1 = "w2") = told
        ∧ ((new { concurrentRuns := .replace }).play (turns.filter (·.session = "w2"))).2 = told
        ∧ ("w2", .events [⟨.ofNat 2, .stdout, "A"⟩]) ∈ told ∧ ("w2", .yesOrNo true) ∈ told := by
  let turns : List Turn := [
    ⟨"w1", .subscribe⟩,
    ⟨"w2", .subscribe⟩,
    ⟨"w1", .start (.ofNat 1) 0 ⟨[]⟩ (some ⟨[]⟩) (.ok true)⟩,
    ⟨"w2", .start (.ofNat 2) 3 ⟨[]⟩ (some ⟨[]⟩) (.ok true)⟩,
    ⟨"w1", .start (.ofNat 3) 5 ⟨[]⟩ (some ⟨[]⟩) (.ok true)⟩,
    ⟨"w2", .work (.ofNat 2) (.supervise 7 (.read .stdout [65]))⟩,
    ⟨"w2", .work (.ofNat 2) (.supervise 8 .take)⟩,
    ⟨"w1", .close⟩,
    ⟨"w2", .listen 0 .all⟩,
    ⟨"w2", .cancel⟩]
  have hids : (idsOf turns).Nodup := by decide
  obtain ⟨told, -⟩ := as_if_alone { concurrentRuns := .replace } hids "w2"
  exact ⟨turns, _, hids, by decide, told, rfl, by decide +kernel, by decide +kernel⟩

end Scene
end Scriptorium.Bridge
