import Scriptorium.Proofs.Bridge.Launch
import Scriptorium.Proofs.Output.Separation

/-!
# Turns

`Step` leaves open what comes from outside: what the system finds and does, what a process writes
and how it ends, and the time.  A `Turn` is one thing that happens to a bridge with all of this
said: whose turn it is, what the session asks for, or which of its runs goes on and how.  So nothing
is left open in what comes of a turn, and of the answer that the session gets (`perform`), and
turns can be left out of a sequence to see what difference they make (`play`).

A session speaks of its channels in the order in which it has opened them, as it does not know of
those of others.  The scene in which turns are performed therefore is the bridge together with the
session that each channel was opened for.

Turns and steps are the same: what a turn does is a step, or nothing (`step_of_perform`), and every
history of a bridge is a sequence of turns (`turns_of_runs`).
-/
namespace Scriptorium

open Run Output

/-! ## 1. What a run does by itself -/

namespace Run

/-- What is done in the supervision of a run, with what its process and its streams bring. -/
inductive Labour where
  | read (stream : Stream) (piece : Bytes)
  | readEnd (stream : Stream)
  | readFailed (stream : Stream) (cause : OsError)
  /-- The supervisor takes what is next in the queue. -/
  | take
  /-- The supervisor learns of something that does not come through the queue. -/
  | learn (e : Event)

/-- What the writer of a run does, with what the pipe does. -/
inductive Stroke where
  | complete
  | begin
  | advance (n : Nat)
  | refuse
  | stop

instance (s : Supervision) (now : Nat) (cancelled : Bool) (e : Event) :
    Decidable (s.Brings now cancelled e) :=
  match e with
  | .chunk _ | .closed => .isFalse id
  | .exited _ | .waitFailed _ => .isTrue trivial
  | .cancelled => inferInstanceAs (Decidable (cancelled = true))
  | .timedOut => decidable_of_iff (s.terms.deadline.any (decide <| · ≤ now) = true) <| by
      simp [Supervision.Brings, Option.any_eq_true]
  | .drained => decidable_of_iff (s.supervisor.drainUntil.any (decide <| · ≤ now) = true) <| by
      simp [Supervision.Brings, Option.any_eq_true]

/-- What comes of a labour, if it can be done. -/
def Supervision.labour? (s : Supervision) (now : Nat) (cancelled : Bool) :
    Labour → Option (Supervision × Reaction)
  | .read stream piece =>
    if s.canRead stream = true ∧ piece ≠ [] ∧ piece.length ≤ s.terms.chunkSize then
      some (s.read stream piece, {})
    else none
  | .readEnd stream => if s.canRead stream then some (s.readEnd stream, {}) else none
  | .readFailed stream cause =>
    if s.canRead stream then some (s.readFailed stream cause, {}) else none
  | .take => if s.supervisor.isActive then s.take? now else none
  | .learn e =>
    if s.supervisor.isActive = true ∧ s.supervisor.allows e = true ∧ s.Brings now cancelled e then
      some (s.learn now e)
    else none

/-- The steps of a run are its labours. -/
theorem Supervision.labour?_iff {s s' : Supervision} {now : Nat} {cancelled : Bool} {r : Reaction} :
    (∃ labour, s.labour? now cancelled labour = some (s', r)) ↔ Step now cancelled s s' r := by
  constructor
  · rintro ⟨labour, h⟩
    cases labour with
    | read stream piece =>
      obtain ⟨⟨hopen, hne, hle⟩, h⟩ := Option.ite_none_right_eq_some.mp h
      obtain ⟨rfl, rfl⟩ := Prod.mk.inj (Option.some.inj h)
      exact .read stream piece hopen hne hle
    | readEnd stream =>
      obtain ⟨hopen, h⟩ := Option.ite_none_right_eq_some.mp h
      obtain ⟨rfl, rfl⟩ := Prod.mk.inj (Option.some.inj h)
      exact .readEnd stream hopen
    | readFailed stream cause =>
      obtain ⟨hopen, h⟩ := Option.ite_none_right_eq_some.mp h
      obtain ⟨rfl, rfl⟩ := Prod.mk.inj (Option.some.inj h)
      exact .readFailed stream cause hopen
    | take =>
      obtain ⟨ha, h⟩ := Option.ite_none_right_eq_some.mp h
      exact .take ha h
    | learn e =>
      obtain ⟨⟨ha, hallow, hb⟩, h⟩ := Option.ite_none_right_eq_some.mp h
      obtain ⟨rfl, rfl⟩ := Prod.mk.inj (Option.some.inj h)
      exact .learn e ha hallow hb
  · intro h
    cases h with
    | read stream piece hopen hne hle => exact ⟨.read stream piece, if_pos ⟨hopen, hne, hle⟩⟩
    | readEnd stream hopen => exact ⟨.readEnd stream, if_pos hopen⟩
    | readFailed stream cause hopen => exact ⟨.readFailed stream cause, if_pos hopen⟩
    | take ha ht => exact ⟨.take, (if_pos ha).trans ht⟩
    | learn e ha hallow hb => exact ⟨.learn e, if_pos ⟨ha, hallow, hb⟩⟩

/-- What comes of a stroke, if it can be done. -/
def Writer.stroke? (w : Writer) (isOver : Bool) : Stroke → Option Writer
  | .complete => w.complete?
  | .begin => w.begin?
  | .advance n =>
    if w.isOpen = true ∧ w.current.any (n ≤ ·.data.length) = true then some (w.advance n) else none
  | .refuse => if w.isOpen = true ∧ w.current.isSome = true then some w.refuse else none
  | .stop => if w.isOpen = true ∧ (isOver = true ∨ w.atEnd = true) then some w.stop else none

/-- The steps of a writer are its strokes. -/
theorem Writer.stroke?_iff {w w' : Writer} {isOver : Bool} :
    (∃ stroke, w.stroke? isOver stroke = some w') ↔ Step isOver w w' := by
  constructor
  · rintro ⟨stroke, h⟩
    cases stroke with
    | complete => exact .complete h
    | begin => exact .begin h
    | advance n =>
      obtain ⟨⟨hopen, hn⟩, h⟩ := Option.ite_none_right_eq_some.mp h
      obtain rfl := Option.some.inj h
      obtain ⟨c, hc, hle⟩ : ∃ c, w.current = some c ∧ n ≤ c.data.length := by
        simpa [Option.any_eq_true] using hn
      exact .advance n c hopen hc hle
    | refuse =>
      obtain ⟨⟨hopen, hc⟩, h⟩ := Option.ite_none_right_eq_some.mp h
      obtain rfl := Option.some.inj h
      obtain ⟨c, hc⟩ := Option.isSome_iff_exists.mp hc
      exact .refuse c hopen hc
    | stop =>
      obtain ⟨⟨hopen, hend⟩, h⟩ := Option.ite_none_right_eq_some.mp h
      obtain rfl := Option.some.inj h
      exact .stop hopen hend
  · intro h
    cases h with
    | complete h => exact ⟨.complete, h⟩
    | begin h => exact ⟨.begin, h⟩
    | advance n c hopen hc hle => exact ⟨.advance n, if_pos ⟨hopen, by simp [hc, hle]⟩⟩
    | refuse c hopen hc => exact ⟨.refuse, if_pos ⟨hopen, by simp [hc]⟩⟩
    | stop hopen hend => exact ⟨.stop, if_pos ⟨hopen, hend⟩⟩

end Run

namespace Bridge

/-- How a run goes on by itself. -/
inductive Work where
  | supervise (now : Nat) (labour : Labour)
  /-- Supervision is over. -/
  | conclude (now : Nat)
  | write (stroke : Stroke)
  /-- The run comes to its next phase. -/
  | goOn

/-- What comes of the work of a run, if it can be done. -/
def work? (b : Bridge) (t : Task) : Work → Option Bridge
  | .supervise now labour =>
    match t.phase with
    | .supervised s => (s.labour? now t.cancelled labour).map (b.react t.info)
    | _ => none
  | .conclude now =>
    match t.phase with
    | .supervised s => if s.supervisor.isActive then none else some (b.conclude t.info s now)
    | _ => none
  | .write stroke =>
    (t.writer.stroke? t.phase.isOver stroke).map fun w =>
      b.updateTask t.info.id fun t => { t with writer := w }
  | .goOn => b.nextPhase? t

/-! ## 2. Turns and their answers -/

/-- A system of which it is said what it finds, and what comes of starting the interpreter: whether
the output of the process can be read, if there is one. -/
def Host.said (found : Option Path) (spawned : Except OsError Bool) : Host Unit Bool where
  canonicalize _ _ := match found with
    | some script => .ok script
    | none => .error .noEntry
  isFile _ _ := .ok true
  spawn _ _ _ := spawned.map ((), ·)
  isPiped piped := piped
  kill _ _ := ()

/-- What happens in a turn, with everything that the surroundings bring. -/
inductive Doing where
  | start (id : Id) (now : Nat) (requested : Path) (found : Option Path)
      (spawned : Except OsError Bool)
  | offer (data : Bytes)
  /-- The caller of a write comes back if its fate is known, or if its time is up. -/
  | comeBack (run : Id) (number : Nat) (timeUp : Bool)
  | endInput
  | cancel
  | close
  | subscribe
  | unsubscribe
  /-- Somebody listens on the `k`-th channel that the session has opened. -/
  | listen (k : Nat) (how : Router.Listening)
  /-- The session asks for its live run. -/
  | look
  /-- The holder of a run asks for its state and its result. -/
  | ask (run : Id)
  | work (run : Id) (work : Work)

/-- What happens, and to which session. -/
structure Turn where
  session : SessionId
  doing : Doing

/-- The identifier that a run gets if one starts. -/
def Turn.id? (turn : Turn) : Option Id :=
  match turn.doing with
  | .start id .. => some id
  | _ => none

/-- What a session is told. -/
inductive Answer where
  | nothing
  | started (r : Except Run.Error RunInfo)
  /-- The run and the number of a write that was added. -/
  | offered (write : Option (Id × Nat))
  | yesOrNo (yes : Bool)
  /-- The number of a channel among those of the session. -/
  | channel (k : Nat)
  | events (es : List Output.Event)
  | active (info : Option RunInfo)
  | run (state : Option RunState) (result : Option RunResult)
  deriving DecidableEq

/-- A bridge, and the session that each of its channels was opened for. -/
structure Scene where
  bridge : Bridge
  owners : List SessionId := []

namespace Scene

/-- A scene at the beginning. -/
def new (settings : RunSettings) : Scene := { bridge := { settings } }

/-- Where the channels of a session are. -/
def places (st : Scene) (s : SessionId) : List Nat := st.owners.idxsOf s

/-- A run, if it belongs to a session. -/
def mine? (st : Scene) (s : SessionId) (run : Id) : Option Task :=
  (st.bridge.task? run).filter (·.info.session = s)

/-- What is said of a write to the one who waits for it, if anything can be said. -/
def verdict? (st : Scene) (run : Id) (number : Nat) (timeUp : Bool) : Option Bool :=
  match st.bridge.fate? run number with
  | some accepted => some accepted
  | none => if timeUp then some true else none

/-- What comes of a turn, and what the session is told.  A run only goes on in a turn of its own
session. -/
def perform (st : Scene) : Turn → Scene × Answer
  | ⟨s, .start id now requested found spawned⟩ =>
    match (launch (.said found spawned) id now s requested).run (st.bridge, ()) with
    | .ok (info, _) (bridge, _) => ({ st with bridge }, .started (.ok info))
    | .error e (bridge, _) => ({ st with bridge }, .started (.error e))
  | ⟨s, .offer data⟩ =>
    ({ st with bridge := (st.bridge.offer s data).1 }, .offered (st.bridge.offer s data).2)
  | ⟨s, .comeBack run number timeUp⟩ =>
    match (st.mine? s run).bind fun _ => st.verdict? run number timeUp with
    | some accepted => ({ st with bridge := st.bridge.release run }, .yesOrNo accepted)
    | none => (st, .nothing)
  | ⟨s, .endInput⟩ =>
    ({ st with bridge := (st.bridge.endInput s).1 }, .yesOrNo (st.bridge.endInput s).2)
  | ⟨s, .cancel⟩ =>
    ({ st with bridge := (st.bridge.cancel s).1 }, .yesOrNo (st.bridge.cancel s).2)
  | ⟨s, .close⟩ => ({ st with bridge := st.bridge.closeSession s }, .nothing)
  | ⟨s, .subscribe⟩ =>
    ({ bridge := (st.bridge.subscribe s).1, owners := st.owners ++ [s] },
      .channel (st.places s).length)
  | ⟨s, .unsubscribe⟩ =>
    ({ st with bridge := (st.bridge.unsubscribe s).1 }, .yesOrNo (st.bridge.unsubscribe s).2)
  | ⟨s, .listen k how⟩ =>
    match (st.places s)[k]?.bind (st.bridge.router.listen? · how) with
    | some (es, router) => ({ st with bridge := { st.bridge with router } }, .events es)
    | none => (st, .nothing)
  | ⟨s, .look⟩ => (st, .active (st.bridge.activeRun? s))
  | ⟨s, .ask run⟩ =>
    match st.mine? s run with
    | some _ => (st, .run (st.bridge.state? run) (st.bridge.result? run))
    | none => (st, .nothing)
  | ⟨s, .work run work⟩ =>
    match (st.mine? s run).bind (st.bridge.work? · work) with
    | some bridge => ({ st with bridge }, .nothing)
    | none => (st, .nothing)

/-- What comes of turns one after the other, and what was answered to whom. -/
def play (st : Scene) : List Turn → Scene × List (SessionId × Answer)
  | [] => (st, [])
  | turn :: turns =>
    ((play (st.perform turn).1 turns).1,
      (turn.session, (st.perform turn).2) :: (play (st.perform turn).1 turns).2)

theorem play_append (st : Scene) (turns more : List Turn) :
    (st.play (turns ++ more)).1 = ((st.play turns).1.play more).1 := by
  induction turns generalizing st with
  | nil => rfl
  | cons turn turns ih => exact ih _

end Scene

/-- The identifiers that runs get in turns. -/
def idsOf (turns : List Turn) : List Id := turns.filterMap (·.id?)

theorem idsOf_append (turns more : List Turn) :
    idsOf (turns ++ more) = idsOf turns ++ idsOf more :=
  List.filterMap_append

/-! ## 3. A turn is a step -/

variable {settings : RunSettings} {log : List Act} {b b' : Bridge} {t : Task} {act : Act}
variable {st st' : Scene} {turn : Turn} {s : SessionId} {run : Id}

/-- Whatever a run does by itself in a scene is a step of the bridge, one that is marked as the work
of this run or as its removal. -/
theorem step_of_work? {w : Work} (ht : t ∈ b.tasks) (h : b.work? t w = some b') :
    ∃ act, Step b act b' ∧ (act = .worked t.info.id ∨ act = .deregistered t.info.id) := by
  cases w with
  | supervise now labour =>
    simp only [work?] at h
    split at h
    · rename_i sup hp
      obtain ⟨⟨sup', r⟩, hl, rfl⟩ := Option.map_eq_some_iff.mp h
      exact ⟨_, .supervise now ht hp (Supervision.labour?_iff.mp ⟨_, hl⟩), .inl rfl⟩
    · exact absurd h (by simp)
  | conclude now =>
    simp only [work?] at h
    split at h
    · rename_i sup hp
      split at h
      · exact absurd h (by simp)
      · rename_i ha
        obtain rfl := Option.some.inj h
        exact ⟨_, .conclude now ht hp (by simpa using ha), .inl rfl⟩
    · exact absurd h (by simp)
  | write stroke =>
    obtain ⟨w, hw, rfl⟩ := Option.map_eq_some_iff.mp h
    exact ⟨_, .write ht (Writer.stroke?_iff.mp ⟨_, hw⟩), .inl rfl⟩
  | goOn =>
    by_cases hp : ∃ r, t.phase = .ended r
    · obtain ⟨r, hp⟩ := hp
      exact ⟨_, .deregister ht hp h, .inr rfl⟩
    · exact ⟨_, .settle ht (fun r hr => hp ⟨r, hr⟩) h, .inl rfl⟩

theorem Host.script?_said (found : Option Path) (spawned : Except OsError Bool) (requested : Path) :
    (Host.said found spawned).script? () requested = found := by
  cases found <;> rfl

namespace Scene

theorem mine?_eq_some : st.mine? s run = some t ↔
    st.bridge.task? run = some t ∧ t.info.session = s := by
  simp [mine?, Option.filter_eq_some_iff]

theorem mine?_mem (h : st.mine? s run = some t) :
    t ∈ st.bridge.tasks ∧ t.info.id = run ∧ t.info.session = s := by
  obtain ⟨hf, hs⟩ := mine?_eq_some.mp h
  obtain ⟨ht, hid⟩ := mem_of_task? hf
  exact ⟨ht, hid, hs⟩

/-- The owners of the channels after a step. -/
def opened (owners : List SessionId) : Act → List SessionId
  | .subscribed s => owners ++ [s]
  | _ => owners

/-- A step that a turn brings about: only a channel that is opened has a new owner, and a run that
starts has the identifier that was given in the turn. -/
structure Brought (st : Scene) (turn : Turn) (act : Act) (st' : Scene) : Prop where
  step : Step st.bridge act st'.bridge
  owners : st'.owners = opened st.owners act
  named : ∀ info, act = .started info → turn.id? = some info.id

/-- A step that neither opens a channel nor starts a run. -/
theorem Brought.of_step (h : Step st.bridge act b') (ho : opened st.owners act = st.owners)
    (hn : ∀ info, act ≠ .started info) : Brought st turn act { st with bridge := b' } :=
  ⟨h, ho.symm, fun info hs => absurd hs (hn info)⟩

/-- **What a turn does is a step, or nothing**, if no run gets an identifier that another one has.
So a scene, which runs, is one of the bridges that the theory is about. -/
theorem step_of_perform
    (hfresh : ∀ id, turn.id? = some id → ∀ t ∈ st.bridge.tasks, t.info.id ≠ id) :
    (st.perform turn).1 = st ∨ ∃ act, Brought st turn act (st.perform turn).1 := by
  obtain ⟨s, doing⟩ := turn
  cases doing with
  | start id now requested found spawned =>
    have hl := launches (.said found spawned) st.bridge () id now s requested
    simp only [perform]
    generalize hr : (launch (.said found spawned) id now s requested).run (st.bridge, ()) = r at hl
    cases hl with
    | notFound _ => exact .inl rfl
    | busy _ _ => exact .inl rfl
    | notSpawned _ _ _ => exact .inl rfl
    | notPiped _ _ _ _ => exact .inl rfl
    | started _ _ _ _ =>
      exact .inr ⟨_, ⟨.start (hfresh id rfl) (start_of_launch hr), rfl, by
        rintro info ⟨⟩
        rfl⟩⟩
  | offer data => exact .inr ⟨_, .of_step (.offer s data) rfl (by simp)⟩
  | comeBack run number timeUp =>
    simp only [perform]
    split
    · exact .inr ⟨_, .of_step (.release run) rfl (by simp)⟩
    · exact .inl rfl
  | endInput => exact .inr ⟨_, .of_step (.endInput s) rfl (by simp)⟩
  | cancel => exact .inr ⟨_, .of_step (.cancel s) rfl (by simp)⟩
  | close => exact .inr ⟨_, .of_step (.close s) rfl (by simp)⟩
  | subscribe => exact .inr ⟨_, ⟨.subscribe s, rfl, by simp⟩⟩
  | unsubscribe => exact .inr ⟨_, .of_step (.unsubscribe s) rfl (by simp)⟩
  | listen k how =>
    simp only [perform]
    split
    · rename_i es router hl
      obtain ⟨i, -, hi⟩ := Option.bind_eq_some_iff.mp hl
      refine .inr ⟨.listened i, .of_step ?_ rfl (by simp)⟩
      cases how with
      | all => exact .takeAll hi
      | next =>
        obtain ⟨⟨e, r'⟩, hn, he⟩ := Option.map_eq_some_iff.mp hi
        obtain ⟨-, rfl⟩ := Prod.mk.inj he
        exact .takeNext hn
      | leave =>
        obtain ⟨-, rfl⟩ := Prod.mk.inj (Option.some.inj hi)
        exact .hangUp i
    · exact .inl rfl
  | look => exact .inl rfl
  | ask run =>
    simp only [perform]
    split <;> exact .inl rfl
  | work run work =>
    simp only [perform]
    split
    · rename_i bridge hw
      obtain ⟨t, ht, hw⟩ := Option.bind_eq_some_iff.mp hw
      obtain ⟨act, hstep, hact⟩ := step_of_work? (mine?_mem ht).1 hw
      refine .inr ⟨act, .of_step hstep ?_ ?_⟩
      · rcases hact with rfl | rfl <;> rfl
      · rintro info rfl
        rcases hact with hact | hact <;> exact absurd hact (by simp)
    · exact .inl rfl

/-! ## 4. Scenes that can come about -/

/-- Each channel has its owner, and a session only listens on a channel of its own. -/
structure Owned (owners : List SessionId) (r : Router) : Prop where
  length_eq : owners.length = r.channels.length
  listens : ∀ e ∈ r.current, owners[e.2]? = some e.1

theorem Owned.subscribe {owners : List SessionId} {r : Router} (h : Owned owners r)
    (s : SessionId) : Owned (owners ++ [s]) (r.subscribe s).1 where
  length_eq := by simp [Router.subscribe, h.length_eq]
  listens e he := by
    rcases List.mem_cons.mp he with rfl | he
    · simp [← h.length_eq]
    · have hin := h.listens e (List.mem_of_mem_filter he)
      rw [List.getElem?_append_left (List.getElem?_eq_some_iff.mp hin).1, hin]

theorem Owned.unsubscribe {owners : List SessionId} {r : Router} (h : Owned owners r)
    (s : SessionId) : Owned owners (r.unsubscribe s).1 :=
  ⟨h.length_eq, fun e he => h.listens e (List.mem_of_mem_filter he)⟩

theorem Owned.set {owners : List SessionId} {r : Router} (h : Owned owners r) (i : Nat)
    (c : Channel) : Owned owners ⟨r.channels.set i c, r.current⟩ :=
  ⟨by simp [h.length_eq], h.listens⟩

/-- What a step does to the router keeps the channels and their owners together. -/
theorem Owned.carries {owners : List SessionId} {r r' : Router} (h : Owned owners r)
    {out : Option (SessionId × Output.Event)} (hc : Carries r act out r') :
    Owned (opened owners act) r' := by
  cases hc with
  | @stays act hq =>
    cases act with
    | subscribed s => exact absurd hq (by simp [Act.isAboutChannels])
    | _ => exact h
  | delivered run session e =>
    refine ⟨by simp [h.length_eq, opened], fun e he => h.listens e ?_⟩
    rwa [Router.current_emit] at he
  | subscribed s => exact h.subscribe s
  | unsubscribed s => exact h.unsubscribe s
  | closed s => exact h.unsubscribe s
  | takenAll ht =>
    obtain ⟨queue, -, rfl⟩ := Router.take?_eq_some ht
    exact h.set _ _
  | takenNext ht =>
    obtain ⟨queue, -, rfl⟩ := Router.next?_eq_some ht
    exact h.set _ _
  | left i => exact h.set _ _

/-- A scene that has come about by steps of the bridge. -/
structure Sound (settings : RunSettings) (st : Scene) : Prop where
  consistent : ∃ log, Consistent settings log st.bridge
  owned : Owned st.owners st.bridge.router

theorem sound_new (settings : RunSettings) : Sound settings (.new settings) where
  consistent := ⟨[], .begin⟩
  owned := ⟨rfl, fun _ he => absurd he List.not_mem_nil⟩

theorem Brought.sound (h : Brought st turn act st') (hs : Sound settings st) :
    Sound settings st' := by
  obtain ⟨log, hc⟩ := hs.consistent
  obtain ⟨out, hout⟩ := step_iff_utters.mp h.step
  refine ⟨⟨_, hc.step h.step⟩, ?_⟩
  rw [h.owners]
  exact hs.owned.carries hout.carries

/-- The identifiers that runs get in turns are different, and no run has them yet. -/
structure Fresh (st : Scene) (turns : List Turn) : Prop where
  nodup : (idsOf turns).Nodup
  unused : ∀ id ∈ idsOf turns, ∀ t ∈ st.bridge.tasks, t.info.id ≠ id

theorem fresh_new {turns : List Turn} (h : (idsOf turns).Nodup) : Fresh (.new settings) turns :=
  ⟨h, fun _ _ _ ht => absurd ht List.not_mem_nil⟩

/-- **Every turn leads from a scene that can come about to such a scene**, in which the turns that
are still to come can be performed. -/
theorem Sound.perform (hs : Sound settings st) {turns : List Turn}
    (hf : Fresh st (turn :: turns)) :
    Sound settings (st.perform turn).1 ∧ Fresh (st.perform turn).1 turns := by
  have hsplit : idsOf (turn :: turns) = turn.id?.toList ++ idsOf turns := by
    cases h : turn.id? <;> simp [idsOf, h]
  have hnodup := hf.nodup
  have hunused := hf.unused
  rw [hsplit] at hnodup hunused
  have hnow : ∀ id, turn.id? = some id → ∀ t ∈ st.bridge.tasks, t.info.id ≠ id :=
    fun id hid => hunused id (by simp [hid])
  have hlater : Fresh st turns :=
    ⟨(List.nodup_append.mp hnodup).2.1, fun id hid => hunused id (List.mem_append_right _ hid)⟩
  rcases step_of_perform hnow with he | ⟨act, hb⟩
  · rw [he]
    exact ⟨hs, hlater⟩
  · refine ⟨hb.sound hs, hlater.nodup, fun id hid t' ht' => ?_⟩
    obtain ⟨log, hc⟩ := hs.consistent
    rcases hb.step.moves hc.nodup ht' with ⟨t, ht, hi, -⟩ | ⟨hact, -⟩
    · rw [hi]
      exact hlater.unused id hid t ht
    · -- the run has started in this turn
      have hown := hb.named _ hact
      exact (List.nodup_append.mp hnodup).2.2 _ (by simp [hown]) _ hid

/-- So whatever turns are performed, what comes of them can come about. -/
theorem Sound.play {turns : List Turn} (hs : Sound settings st) (hf : Fresh st turns) :
    Sound settings (st.play turns).1 := by
  induction turns generalizing st with
  | nil => exact hs
  | cons turn turns ih =>
    obtain ⟨hs', hf'⟩ := hs.perform hf
    exact ih hs' hf'

/-! ## 5. A step is a turn -/

theorem mem_places {i : Nat} : i ∈ st.places s ↔ st.owners[i]? = some s := by
  simp [places, List.getElem?_eq_some_iff]

theorem Sound.mine? (hs : Sound settings st) (ht : t ∈ st.bridge.tasks) :
    st.mine? t.info.session t.info.id = some t := by
  obtain ⟨log, hc⟩ := hs.consistent
  exact mine?_eq_some.mpr ⟨hc.task?_eq ht, rfl⟩

/-- A channel that is there can be listened on by the session that has opened it. -/
theorem Sound.perform_listen (hs : Sound settings st) {i : Nat}
    (hi : i < st.bridge.router.channels.length) (how : Router.Listening)
    {es : List Output.Event} {router : Router}
    (hl : st.bridge.router.listen? i how = some (es, router)) :
    ∃ s k, (st.perform ⟨s, .listen k how⟩).1 = { st with bridge := { st.bridge with router } } := by
  have hlt : i < st.owners.length := hs.owned.length_eq ▸ hi
  refine ⟨st.owners[i], (st.places st.owners[i]).idxOf i, ?_⟩
  have hat : (st.places st.owners[i])[(st.places st.owners[i]).idxOf i]? = some i :=
    List.getElem?_idxOf (mem_places.mpr (List.getElem?_eq_getElem hlt))
  simp only [Scene.perform, hat, Option.bind_some, hl]

theorem Sound.perform_work (hs : Sound settings st) (ht : t ∈ st.bridge.tasks) {w : Work}
    (hw : st.bridge.work? t w = some b') :
    (st.perform ⟨t.info.session, .work t.info.id w⟩).1 = { st with bridge := b' } := by
  simp only [Scene.perform, hs.mine? ht, Option.bind_some, hw]

theorem updateTask_of_not_mem {f : Task → Task} (h : ∀ t ∈ b.tasks, t.info.id ≠ run) :
    b.updateTask run f = b := by
  have htasks : (b.tasks.map fun t => if t.info.id = run then f t else t) = b.tasks.map id :=
    List.map_congr_left fun t ht => if_neg (h t ht)
  simp only [updateTask, htasks, List.map_id]

/-- **A step is what some turn does.**  A run that starts in the step is the one that starts in the
turn.  With `step_of_perform` this makes scenes and histories of bridges two views of one thing. -/
theorem perform_of_step (hs : Sound settings st) (h : Step st.bridge act b') :
    ∃ turn, (st.perform turn).1.bridge = b' ∧ turn.id?.toList = (startedIn [act]).map (·.id) := by
  have unchanged (s : SessionId) : ((st.perform ⟨s, .look⟩).1).bridge = st.bridge := rfl
  cases h with
  | @start α id now session requested found spawn _ info a hnew hstart =>
    obtain ⟨script, rfl, hp, hspawn, rfl, rfl⟩ := start_eq_ok hstart
    have hfree : ¬ st.bridge.Busy session := by
      intro hbusy
      rw [permit_of_busy hbusy] at hp
      exact absurd hp (by simp)
    have hl := (launches (.said (some script) (.ok true)) st.bridge () id now session
      requested).unique (.started (Host.script?_said _ _ _) hfree rfl rfl)
    exact ⟨⟨session, .start id now requested (some script) (.ok true)⟩, by
      simp only [Scene.perform, hl], rfl⟩
  | refuse _ => exact ⟨_, unchanged "", rfl⟩
  | offer session data => exact ⟨⟨session, .offer data⟩, rfl, rfl⟩
  | release run =>
    cases hrun : st.bridge.task? run with
    | none =>
      refine ⟨⟨"", .look⟩, ?_, rfl⟩
      exact (updateTask_of_not_mem fun t ht => by simpa using List.find?_eq_none.mp hrun t ht).symm
    | some t =>
      refine ⟨⟨t.info.session, .comeBack run 0 true⟩, ?_, rfl⟩
      have hmine : st.mine? t.info.session run = some t := mine?_eq_some.mpr ⟨hrun, rfl⟩
      simp only [Scene.perform, hmine, Option.bind_some, verdict?]
      cases st.bridge.fate? run 0 <;> rfl
  | endInput session => exact ⟨⟨session, .endInput⟩, rfl, rfl⟩
  | cancel session => exact ⟨⟨session, .cancel⟩, rfl, rfl⟩
  | close session => exact ⟨⟨session, .close⟩, rfl, rfl⟩
  | subscribe session => exact ⟨⟨session, .subscribe⟩, rfl, rfl⟩
  | unsubscribe session => exact ⟨⟨session, .unsubscribe⟩, rfl, rfl⟩
  | @takeAll i es router ht =>
    obtain ⟨queue, hq, -⟩ := Router.take?_eq_some ht
    obtain ⟨s, k, he⟩ := hs.perform_listen (List.getElem?_eq_some_iff.mp hq).1 .all ht
    exact ⟨⟨s, .listen k .all⟩, by rw [he], rfl⟩
  | @takeNext i e router ht =>
    obtain ⟨queue, hq, -⟩ := Router.next?_eq_some ht
    have hl : st.bridge.router.listen? i .next = some ([e], router) := by
      simp [Router.listen?, ht]
    obtain ⟨s, k, he⟩ := hs.perform_listen (List.getElem?_eq_some_iff.mp hq).1 .next hl
    exact ⟨⟨s, .listen k .next⟩, by rw [he], rfl⟩
  | hangUp i =>
    by_cases hi : i < st.bridge.router.channels.length
    · obtain ⟨s, k, he⟩ := hs.perform_listen hi .leave rfl
      exact ⟨⟨s, .listen k .leave⟩, by rw [he], rfl⟩
    · refine ⟨⟨"", .look⟩, ?_, rfl⟩
      rw [unchanged, Router.hangUp, List.set_eq_of_length_le (by omega)]
  | @supervise t sup sup' r now ht hp hstep =>
    obtain ⟨labour, hl⟩ := Supervision.labour?_iff.mpr hstep
    have hw : st.bridge.work? t (.supervise now labour)
        = some (st.bridge.react t.info (sup', r)) := by
      simp only [work?, hp, hl, Option.map_some]
    exact ⟨_, congrArg bridge (hs.perform_work ht hw), rfl⟩
  | @conclude t sup now ht hp ha =>
    have hw : st.bridge.work? t (.conclude now) = some (st.bridge.conclude t.info sup now) := by
      simp only [work?, hp, ha]
      rfl
    exact ⟨_, congrArg bridge (hs.perform_work ht hw), rfl⟩
  | @write t w ht hstep =>
    obtain ⟨stroke, hk⟩ := Writer.stroke?_iff.mpr hstep
    have hw : st.bridge.work? t (.write stroke)
        = some (st.bridge.updateTask t.info.id fun t => { t with writer := w }) := by
      simp only [work?, hk, Option.map_some]
    exact ⟨_, congrArg bridge (hs.perform_work ht hw), rfl⟩
  | deregister ht hp hn =>
    exact ⟨_, congrArg bridge (hs.perform_work ht (w := .goOn) hn), rfl⟩
  | settle ht hp hn =>
    exact ⟨_, congrArg bridge (hs.perform_work ht (w := .goOn) hn), rfl⟩

/-- **Every history of a bridge is a sequence of turns**, in which runs get the identifiers that
they have in the history. -/
theorem turns_of_runs (h : Runs settings log b) :
    ∃ turns, idsOf turns = (startedIn log).map (·.id)
      ∧ ((new settings).play turns).1.bridge = b := by
  induction h with
  | begin => exact ⟨[], rfl, rfl⟩
  | @next log b b' act hruns hstep ih =>
    obtain ⟨turns, hids, rfl⟩ := ih
    have hf : Fresh (new settings) turns := fresh_new (hids ▸ (Consistent.of_runs hruns).ids)
    obtain ⟨turn, hb, hid⟩ := perform_of_step ((sound_new settings).play hf) hstep
    refine ⟨turns ++ [turn], ?_, ?_⟩
    · rw [idsOf_append, hids, startedIn_append, List.map_append, ← hid]
      cases h : turn.id? <;> simp [idsOf, h]
    · rw [play_append]
      exact hb

end Scene
end Bridge
end Scriptorium
