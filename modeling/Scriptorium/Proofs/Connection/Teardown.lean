import Scriptorium.Proofs.Bridge.Cancellation
import Scriptorium.Proofs.Bridge.Independence
import Scriptorium.Proofs.Connection.Delivery

/-!
# What a connection leaves behind

A connection ends in several ways: the client closes it or goes away, the socket fails, or something
cannot be sent, be it the very first message.  Whatever the moment, its session is dismissed
(`Bridge.Dismissed`): it has no channel any more, and each of its runs is over or was told to stop.

The request to stop only reaches the run that is registered.  That is enough: a run that is not over
and not registered any more was replaced, and was told to stop when its successor started
(`Bridge.registered_or_told`).  Giving up the channel and stopping the run are two requests, and
whatever the rest of the studio does between them, they come to the same.

A connection that ends, as anything that it does before, does not touch what belongs to other
sessions.  `Bridge.Served` says what a message can bring about, and section 3 goes through the
moves.
-/
namespace Scriptorium

open Run

namespace Bridge

variable {settings : RunSettings} {log : List Act} {b b' : Bridge} {act : Act}
variable {session other : SessionId} {channel : Nat} {ps : List Nat}

/-! ## 1. Sessions that are dismissed -/

/-- Each run of a session is over or was told to stop. -/
def NoneLeft (b : Bridge) (session : SessionId) : Prop :=
  ∀ t ∈ b.tasks, t.info.session = session → t.phase.isRemoved = true ∨ t.cancelled = true

/-- A session has no channel, and each of its runs is over or was told to stop. -/
structure Dismissed (b : Bridge) (session : SessionId) : Prop where
  channel : b.router.channelOf? session = none
  runs : b.NoneLeft session

/-- A run that is there after a step has just started, or it was there before, and was told to stop
if it had been before or is now. -/
theorem Step.before (hc : Consistent settings log b) (h : Step b act b') {t' : Task}
    (ht' : t' ∈ b'.tasks) :
    (∃ t ∈ b.tasks, t'.info = t.info ∧ t.phase.Moves t.info t'.phase
        ∧ (t'.cancelled = true ↔ t.cancelled = true ∨ Stops b t.info act))
      ∨ act = .started t'.info := by
  rcases h.moves hc.nodup ht' with ⟨t, ht, hi, hm⟩ | ⟨hact, -⟩
  · obtain ⟨u, hu, hui, htold⟩ := h.told hc ht
    obtain rfl := eq_of_id_eq (hc.step h).nodup ht' hu (by rw [hi, hui])
    exact .inl ⟨t, ht, hi, hm, htold⟩
  · exact .inr hact

/-- A run that is over stays so, and a run that was told to stop stays told. -/
theorem NoneLeft.step (h : b.NoneLeft session) (hruns : Runs settings log b)
    (hstep : Step b act b') (hl : ∀ info, act = .started info → info.session ≠ session) :
    b'.NoneLeft session := by
  intro t' ht' hs
  rcases hstep.before (.of_runs hruns) ht' with ⟨t, ht, hi, hm, htold⟩ | hact
  · rcases h t ht (hi ▸ hs) with hr | hcancelled
    · exact .inl (hm.isRemoved hr)
    · exact .inr (htold.mpr (.inl hcancelled))
  · exact absurd hs (hl _ hact)

/-- **After a request to stop, no run of the session is left**, whether or not it is still
registered.  Runs that are no longer registered were told before, when they were replaced, or are
over. -/
theorem noneLeft_cancel (hruns : Runs settings log b) (session : SessionId) :
    (b.cancel session).1.NoneLeft session := by
  intro t' ht' hs
  have hc := Consistent.of_runs hruns
  rcases (Step.cancel session).before hc ht' with ⟨t, ht, hi, hm, htold⟩ | hact
  · by_cases hr : t.phase.isRemoved = true
    · exact .inl (hm.isRemoved hr)
    · obtain rfl : t.info.session = session := hi ▸ hs
      rcases registered_or_told hruns ht (mt (isRemoved_iff hc ht).mpr hr) with hh | hcancelled
      · exact .inr (htold.mpr (.inr (.cancelled hh)))
      · exact .inr (htold.mpr (.inl hcancelled))
  · exact absurd hact (by simp)

/-- A session that has no channel gets none by what spares it; only a subscription of its own would
open one. -/
theorem Carries.no_channel {r r' : Output.Router} {out : Option (SessionId × Output.Event)}
    (h : Carries r act out r') (hspares : act.Spares session channel)
    (hr : r.channelOf? session = none) : r'.channelOf? session = none := by
  cases h with
  | stays _ => exact hr
  | delivered run s e => rwa [Output.Router.channelOf?, Output.Router.current_emit]
  | subscribed s => rwa [Output.Router.channelOf?_subscribe, if_neg (Ne.symm hspares)]
  | unsubscribed s => rwa [Output.Router.channelOf?_unsubscribe, if_neg (Ne.symm hspares)]
  | closed s => rwa [Output.Router.channelOf?_unsubscribe, if_neg (Ne.symm hspares)]
  | takenAll ht =>
    obtain ⟨queue, -, rfl⟩ := Output.Router.take?_eq_some ht
    exact hr
  | takenNext ht =>
    obtain ⟨queue, -, rfl⟩ := Output.Router.next?_eq_some ht
    exact hr
  | left i => exact hr

theorem Step.no_channel (h : Step b act b') (hspares : act.Spares session channel)
    (hr : b.router.channelOf? session = none) : b'.router.channelOf? session = none := by
  obtain ⟨out, hu⟩ := step_iff_utters.mp h
  exact hu.carries.no_channel hspares hr

theorem Dismissed.step (h : b.Dismissed session) (hruns : Runs settings log b)
    (hstep : Step b act b') (hl : act.LeavesAlone session channel) : b'.Dismissed session :=
  ⟨hstep.no_channel hl.1 h.channel, h.runs.step hruns hstep hl.2⟩

theorem no_channel_unsubscribe (b : Bridge) (session : SessionId) :
    (b.unsubscribe session).1.router.channelOf? session = none := by
  rw [unsubscribe, Output.Router.channelOf?_unsubscribe, if_pos rfl]

/-- **Giving up the channel and then stopping the run dismisses a session**, whatever the rest of
the studio does in between. -/
theorem dismissed_in_parts (hruns : Runs settings log b) {acts : List Act}
    (h : Steps (b.unsubscribe session).1 acts b')
    (hl : ∀ act ∈ acts, act.LeavesAlone session channel) :
    (b'.cancel session).1.Dismissed session := by
  have hgiven := hruns.next (.unsubscribe session)
  refine ⟨?_, noneLeft_cancel (hgiven.append h) session⟩
  rw [router_cancel]
  induction h with
  | begin => exact no_channel_unsubscribe b session
  | next _ hstep ih =>
    exact hstep.no_channel (hl _ (by simp)).1 (ih fun act ha => hl act (by simp [ha]))

theorem dismissed_closeSession (hruns : Runs settings log b) (session : SessionId) :
    (b.closeSession session).Dismissed session := by
  have hnothing : ∀ act ∈ ([] : List Act), act.LeavesAlone session 0 := by simp
  exact dismissed_in_parts hruns .begin hnothing

/-! ## 2. What belongs to other sessions -/

theorem parted_of_runs (hruns : Runs settings log b) (ho : b.router.Owns ps other) :
    Parted b ps other := by
  have hc := Consistent.of_runs hruns
  refine ⟨hc.nodup, ?_, ho⟩
  rintro s r hh t ht rfl
  have hin : t.info ∈ startedIn log := hc.infos_eq ▸ List.mem_map_of_mem ht
  exact (hc.owner hin ((hc.holds_iff_latest _ _).mp hh).1).symm

/-- A write that was taken went to the run whose input the session could reach. -/
theorem writable?_of_offer {data : Bytes} {run : Id} {number : Nat}
    (h : b.offer session data = (b', some (run, number))) : b.writable? session = some run := by
  unfold offer at h
  split at h
  · exact absurd h (by simp)
  · rename_i run' hw
    split at h
    · exact absurd h (by simp)
    · split at h
      · exact absurd h (by simp)
      · obtain ⟨-, hrun⟩ := Prod.mk.inj h
        rwa [(Prod.mk.inj (Option.some.inj hrun)).1] at hw

theorem mem_of_holds (hruns : Runs settings log b) {run : Id} (hh : b.Holds session run) :
    ∃ t ∈ b.tasks, t.info.id = run ∧ t.info.session = session := by
  have hc := Consistent.of_runs hruns
  have hm := ((hc.holds_iff_latest _ _).mp hh).1.mem
  obtain ⟨info, hin, hs, hid⟩ := mem_startedFor.mp hm
  rw [← hc.infos_eq] at hin
  obtain ⟨t, ht, rfl⟩ := List.mem_map.mp hin
  exact ⟨t, ht, hid, hs⟩

/-- What a message of a session can bring about. -/
inductive Served (b : Bridge) (session : SessionId) : Bridge → Prop
  | nothing : Served b session b
  | started {info : RunInfo} : info.session = session → Served b session (b.register info)
  | offered (data : Bytes) : Served b session (b.offer session data).1
  | inputEnded : Served b session (b.endInput session).1
  | cancelled : Served b session (b.cancel session).1

/-- **A message of one session is not noticed by another.**  Looked at by the other session alone,
the bridge is the same before and after. -/
theorem Served.only_eq (h : Served b session b') (hp : Parted b ps other)
    (hne : session ≠ other) : b'.only ps other = b.only ps other := by
  cases h with
  | nothing => rfl
  | started hs => exact hp.only_register_of_ne (hs.symm ▸ hne)
  | offered data => exact hp.only_offer_of_ne hne data
  | inputEnded => exact hp.only_endInput_of_ne hne
  | cancelled => exact hp.only_cancel_of_ne hne

theorem Step.eq_register {info : RunInfo} (h : Step b (.started info) b') :
    b' = b.register info := by
  cases h with
  | start _ hs =>
    obtain ⟨script, -, -, -, -, rfl⟩ := start_eq_ok hs
    rfl

/-- What is taken from a channel that another session cannot listen on is not noticed there. -/
theorem Parted.takeNext (hp : Parted b ps other) {e : Output.Event} {router : Output.Router}
    (hn : b.router.next? channel = some (e, router)) (hc : channel ∉ ps) :
    Parted { b with router } ps other
      ∧ Bridge.only { b with router } ps other = b.only ps other := by
  obtain ⟨queue, -, rfl⟩ := Output.Router.next?_eq_some hn
  refine ⟨⟨hp.ids, hp.live, hp.owns.nodup, fun i hi => ?_, hp.owns.listens⟩, ?_⟩
  · simpa using hp.owns.exist i hi
  · simp only [only, Output.Router.only_set_of_not_mem hc]

end Bridge

namespace Studio

variable {w w' : Studio} {ws : Workspace} {fresh : Id} {session : SessionId}

theorem bridge_change (id : Option String) (changed : Except Workspace.Error FileSystem) :
    (w.change id changed).1.bridge = w.bridge := by
  cases changed <;> rfl

/-- Whoever asks for a script to be run changes the bridge for its own session only, and the runs of
that session before the new one are let go of. -/
theorem served_runScript (hfresh : ∀ t ∈ w.bridge.tasks, t.info.id ≠ fresh) (p : Path)
    (content : Option String) :
    w.bridge.Served session (w.runScript ws fresh session p content).1.bridge := by
  unfold runScript
  split
  · exact .nothing
  · rename_i w₁ hsave
    have hb := Connection.bridge_saveScript hsave
    split
    · exact hb ▸ .nothing
    · split
      · exact hb ▸ .nothing
      · rename_i w₂ info hstart
        obtain ⟨-, hs, hstep⟩ := start_step (hb ▸ hfresh) hstart
        rw [hstep.eq_register, hb]
        exact .started hs

/-- A write is served for the session that asked for it and reaches the run of no other one. -/
theorem served_beginWrite (data : String) :
    w.bridge.Served session (w.beginWrite session data).1.bridge := by
  have hoffered : w.bridge.Served session (w.bridge.offer session (Text.Utf8.encode data)).1 :=
    .offered (Text.Utf8.encode data)
  unfold beginWrite offerInput
  generalize w.bridge.offer session (Text.Utf8.encode data) = offered at hoffered
  obtain ⟨bridge, given⟩ := offered
  cases given with
  | none => exact .nothing
  | some written => exact hoffered

/-- **Each request is served for its own session.**  Whatever a client asks for, only its session's
runs, channel and registration may change. -/
theorem served_handle (hfresh : ∀ t ∈ w.bridge.tasks, t.info.id ≠ fresh) (q : ClientMessage) :
    w.bridge.Served session (w.handle ws fresh session q).1.bridge := by
  cases q with
  | run path content => exact served_runScript hfresh (.ofString path) content
  | stdin data => exact served_beginWrite data
  | endStdin => exact .inputEnded
  | cancel => exact .cancelled
  | writeFile path content id => exact bridge_change id _ ▸ .nothing
  | createFile path id => exact bridge_change id _ ▸ .nothing
  | renamePath source target id => exact bridge_change id _ ▸ .nothing
  | _ => exact .nothing

/-- A write that is waited for belongs to the run whose input the session could reach when it was
offered. -/
theorem writable_of_offerInput {p : PendingWrite} {data : Bytes}
    (h : w.offerInput session data = (w', some p)) :
    w.bridge.writable? session = some p.run := by
  unfold offerInput at h
  split at h
  · exact absurd h (by simp)
  · rename_i bridge run number ho
    obtain ⟨-, hp⟩ := Prod.mk.inj h
    obtain rfl := Option.some.inj hp
    exact Bridge.writable?_of_offer ho

/-- What is written goes to the run that the session has. -/
theorem writable_of_handle {p : PendingWrite} (q : ClientMessage)
    (h : (w.handle ws fresh session q).2 = .writing p) :
    w.bridge.writable? session = some p.run := by
  have hanswer {m : ServerMessage} (h : Handling.answered m = .writing p) :
      w.bridge.writable? session = some p.run := absurd h (by simp)
  have hchange {id : Option String} {changed : Except Workspace.Error FileSystem}
      (h : (w.change id changed).2 = .writing p) : w.bridge.writable? session = some p.run := by
    cases changed <;> exact hanswer h
  cases q with
  | run path content =>
    simp only [handle, runScript] at h
    split at h
    · exact hanswer h
    · split at h
      · exact hanswer h
      · split at h
        · exact hanswer h
        · exact absurd h (by simp)
  | stdin data =>
    simp only [handle, beginWrite] at h
    split at h
    · rename_i w₁ p' ho
      obtain rfl := Handling.writing.inj h
      exact writable_of_offerInput ho
    · exact hanswer h
  | writeFile path content id => exact hchange h
  | createFile path id => exact hchange h
  | renamePath source target id => exact hchange h
  | _ => exact hanswer h

end Studio

/-! ## 3. What a move does to others -/

/-- The move ends its connection. -/
def Move.ends : Move → Bool
  | .forward works => !works
  | .receive .close _ _ => true
  | .receive (.text s) _ works =>
    match ClientMessage.ofText s with
    | .ok _ => false
    | .error _ => !works
  | .receive (.ping _) _ _ | .receive (.binary _) _ _ | .pass | .acknowledge | .report _ => false

namespace Connection

variable {ws : Workspace} {c c' : Connection} {w w' : Studio} {m : Move}
variable {settings : RunSettings} {acts : List Bridge.Act} {other : SessionId} {ps : List Nat}

theorem isOpen_note (c : Connection) (handling : Handling) :
    (c.note handling).isOpen = c.isOpen := by
  cases handling <;> rfl

theorem isOpen_send (hopen : c.isOpen = true) (works : Bool) (s : Sent) :
    (c.send w works s).1.isOpen = works := by
  cases works with
  | true => exact hopen
  | false => rfl

/-- **A connection ends if its client closes it, and if something cannot be sent.**  There is no
other way: whatever the studio answers, the connection goes on. -/
theorem isOpen_after (h : c.move? ws w m = some (c', w')) : c'.isOpen = !m.ends := by
  have hopen := isOpen_of_move h
  cases m with
  | forward works =>
    rw [Move.ends, Bool.not_not]
    obtain ⟨-, ⟨e, router, -, -, hc⟩ | ⟨m, rest, -, -, hc⟩⟩ := forward_cases h
    · obtain rfl : c' = _ := congrArg Prod.fst hc
      exact isOpen_send hopen works _
    · obtain rfl : c' = _ := congrArg Prod.fst hc
      exact isOpen_send (c := { c.anew with replies := rest }) hopen works _
  | pass =>
    obtain ⟨-, -, ⟨-, -, rfl⟩ | ⟨-, -, rfl⟩ | ⟨-, rfl⟩⟩ := pass_cases h
    all_goals exact hopen
  | receive frame fresh works =>
    obtain ⟨-, hc⟩ := receive_cases h
    obtain rfl : c' = _ := congrArg Prod.fst hc
    cases frame with
    | text s =>
      cases hq : ClientMessage.ofText s with
      | ok q =>
        simp only [receive, Move.ends, hq, isOpen_note]
        exact hopen
      | error fault =>
        simp only [receive, Move.ends, hq, Bool.not_not]
        exact isOpen_send (c := c.anew) hopen works _
    | ping data => cases works <;> exact hopen
    | binary data => exact hopen
    | close => rfl
  | acknowledge =>
    obtain ⟨p, accepted, -, -, rfl, -⟩ := acknowledge_cases h
    exact hopen
  | report run =>
    obtain ⟨r, -, rfl, -⟩ := report_cases h
    exact hopen

/-- What is waited for is a write to a run of the session. -/
def WritesOwn (c : Connection) (w : Studio) : Prop :=
  ∀ p, c.write = some p → ∃ t ∈ w.bridge.tasks, t.info.id = p.run ∧ t.info.session = c.session

/-- A connection that waits for a write has waited for it before, or has just offered it to the run
of its own session. -/
theorem write_after (h : c.move? ws w m = some (c', w')) {p : PendingWrite}
    (hp : c'.write = some p) :
    c.write = some p ∨ w.bridge.writable? c.session = some p.run := by
  cases m with
  | forward works =>
    obtain ⟨-, ⟨e, router, -, -, hc⟩ | ⟨m, rest, -, -, hc⟩⟩ := forward_cases h
    all_goals
      obtain rfl : c' = _ := congrArg Prod.fst hc
      cases works <;> exact .inl hp
  | pass =>
    obtain ⟨-, -, ⟨-, -, rfl⟩ | ⟨-, -, rfl⟩ | ⟨-, rfl⟩⟩ := pass_cases h
    all_goals exact .inl hp
  | receive frame fresh works =>
    obtain ⟨-, hc⟩ := receive_cases h
    obtain rfl : c' = _ := congrArg Prod.fst hc
    cases frame with
    | text s =>
      simp only [receive, session_anew] at hp
      split at hp
      · rename_i q _
        generalize hq : (w.handle ws fresh c.session q).2 = handling at hp
        cases handling with
        | answered m => exact .inl hp
        | started info => exact .inl hp
        | writing p' =>
          obtain rfl := Option.some.inj hp
          exact .inr (Studio.writable_of_handle q hq)
      · cases works <;> exact .inl hp
    | ping data => cases works <;> exact .inl hp
    | binary data => exact .inl hp
    | close => exact .inl hp
  | acknowledge =>
    obtain ⟨p, accepted, -, -, rfl, -⟩ := acknowledge_cases h
    exact absurd hp (by simp [reply])
  | report run =>
    obtain ⟨r, -, rfl, -⟩ := report_cases h
    exact .inl hp

/-- Runs stay. -/
theorem WritesOwn.steps (h : WritesOwn c w) (hruns : Bridge.Runs settings acts w.bridge)
    {more : List Bridge.Act} (hmore : Bridge.Steps w.bridge more w'.bridge) : WritesOwn c w' := by
  intro p hp
  obtain ⟨t, ht, hid, hs⟩ := h p hp
  obtain ⟨t', ht', hi, -⟩ := hmore.phase_kept (P := fun _ => True) (fun _ h => h) hruns ht trivial
  exact ⟨t', ht', hi ▸ hid, hi ▸ hs⟩

/-- A move keeps it so that the write that is waited for belongs to a run of this session. -/
theorem WritesOwn.move (h : WritesOwn c w) (hruns : Bridge.Runs settings acts w.bridge)
    (hfresh : m.IsFresh w.bridge) (hm : c.move? ws w m = some (c', w')) : WritesOwn c' w' := by
  have hsession : c'.session = c.session :=
    congrArg Id.text (moved_of_move hfresh hm).id_channel.1
  have hnow : WritesOwn c' w := by
    intro p hp
    rw [hsession]
    rcases write_after hm hp with hp | hwritable
    · exact h p hp
    · exact Bridge.mem_of_holds hruns (Bridge.holds_of_writable? hwritable)
  obtain ⟨more, hmore⟩ := (moved_of_move hfresh hm).steps
  exact hnow.steps hruns hmore

/-- At every moment of a connection, the write that it waits for belongs to a run of its own
session, so giving it up never touches another one's input. -/
theorem History.writesOwn {c₀ : Connection} {w₀ : Studio}
    {log : List (SessionId × Output.Event)} (h : History ws c₀ w₀ log c w)
    (hruns : Bridge.Runs settings acts w₀.bridge) (h₀ : WritesOwn c₀ w₀) : WritesOwn c w := by
  induction h with
  | begin => exact h₀
  | next hbefore hfresh hm ih =>
    obtain ⟨acts', hnow⟩ := hbefore.runs hruns
    exact ih.move hnow hfresh hm
  | meanwhile hbefore hu _ ih =>
    obtain ⟨acts', hnow⟩ := hbefore.runs hruns
    exact ih.steps hnow (Bridge.Steps.begin.next hu.step)
  | apart _ hb ih => exact fun p hp => hb ▸ ih p hp

theorem only_send (hp : Bridge.Parted w.bridge ps other) (hne : c.session ≠ other) (works : Bool)
    (s : Sent) : (c.send w works s).2.bridge.only ps other = w.bridge.only ps other := by
  cases works with
  | true => rfl
  | false => exact hp.only_closeSession_of_ne hne

/-- **No move of a connection is noticed by other sessions.**  This includes the move by which the
connection ends and gives up all that it has. -/
theorem only_after (hp : Bridge.Parted w.bridge ps other) (hne : c.session ≠ other)
    (hs : w.bridge.router.Serves c.session c.channel) (hw : WritesOwn c w)
    (hfresh : m.IsFresh w.bridge) (h : c.move? ws w m = some (c', w')) :
    w'.bridge.only ps other = w.bridge.only ps other := by
  cases m with
  | forward works =>
    obtain ⟨-, ⟨e, router, -, hn, hc⟩ | ⟨m, rest, -, -, hc⟩⟩ := forward_cases h
    · obtain rfl : w' = _ := congrArg Prod.snd hc
      obtain ⟨hp', htaken⟩ := hp.takeNext hn (hp.owns.not_mem hne hs.current)
      exact (only_send (w := { w with bridge := { w.bridge with router } }) hp' hne works _).trans
        htaken
    · obtain rfl : w' = _ := congrArg Prod.snd hc
      exact only_send (c := { c.anew with replies := rest }) hp hne works _
  | pass =>
    obtain ⟨-, rfl, -⟩ := pass_cases h
    rfl
  | receive frame fresh works =>
    obtain ⟨-, hc⟩ := receive_cases h
    obtain rfl : w' = _ := congrArg Prod.snd hc
    cases frame with
    | text s =>
      simp only [receive]
      split
      · exact (Studio.served_handle hfresh _).only_eq hp hne
      · exact only_send (c := c.anew) hp hne works _
    | ping data => rfl
    | binary data => rfl
    | close => exact hp.only_closeSession_of_ne hne
  | acknowledge =>
    obtain ⟨p, accepted, hwrite, -, -, rfl⟩ := acknowledge_cases h
    obtain ⟨t, ht, hid, hsession⟩ := hw p hwrite
    have hother := hp.ne_of_mem ht (hsession ▸ hne)
    simp only [Studio.giveUp, Bridge.release, Bridge.only_updateTask, implies_true,
      Bridge.updateTask_only_of_ne (hid ▸ hother)]
  | report run =>
    obtain ⟨r, -, -, rfl⟩ := report_cases h
    rfl

/-! ## 4. The end of a connection -/

variable {id : Id} {works : Bool} {w₀ : Studio} {log : List (SessionId × Output.Event)}

theorem runs_accept (hruns : Bridge.Runs settings acts w₀.bridge) (id : Id) (works : Bool) :
    ∃ acts', Bridge.Runs settings acts' (accept id w₀ works).2.bridge := by
  cases works with
  | true => exact ⟨_, hruns.next (.subscribe id.text)⟩
  | false => exact ⟨_, hruns⟩

/-- A connection that was never told its session makes no move. -/
theorem History.refused (h : History ws (accept id w₀ false).1 (accept id w₀ false).2 log c w) :
    c.isOpen = false := by
  induction h with
  | begin => rfl
  | next _ _ hm ih => exact absurd (ih.symm.trans (isOpen_of_move hm)) (by simp)
  | meanwhile _ _ _ ih => exact ih
  | apart _ _ ih => exact ih

/-- While a connection is open, it has its channel. -/
theorem History.serves (h : History ws (accept id w₀ works).1 (accept id w₀ works).2 log c w)
    (hruns : Bridge.Runs settings acts w₀.bridge) (ho : c.isOpen = true) :
    w.bridge.router.Serves c.session c.channel := by
  cases works with
  | true => exact (h.delivered hruns).serves ho
  | false => exact absurd (h.refused.symm.trans ho) (by simp)

/-- A move that ends the connection dismisses its session. -/
theorem Moved.dismissed (h : Moved c w c' w') (hruns : Bridge.Runs settings acts w.bridge)
    (hopen : c.isOpen = true) (hended : c'.isOpen = false) : w'.bridge.Dismissed c.session := by
  have hsame (hkept : c'.isOpen = c.isOpen) : w'.bridge.Dismissed c.session :=
    absurd (hended.symm.trans (hkept.trans hopen)) (by simp)
  cases h with
  | gone _ hr =>
    rcases hr with rfl | ⟨e, hn⟩
    · exact Bridge.dismissed_closeSession hruns c.session
    · exact Bridge.dismissed_closeSession (hruns.next (.takeNext hn)) c.session
  | plain hadds _ _ => exact hsame hadds.isOpen_eq
  | _ => exact hsame rfl

/-- **Once a connection has ended, its session is dismissed**, and stays so.  Nothing can bring it
back but a connection of the same identifier, and no identifier is given twice. -/
theorem History.dismissed (hruns : Bridge.Runs settings acts w₀.bridge)
    (hchannel : w₀.bridge.router.channelOf? id.text = none)
    (hnew : ∀ t ∈ w₀.bridge.tasks, t.info.session ≠ id.text)
    (h : History ws (accept id w₀ works).1 (accept id w₀ works).2 log c w)
    (hended : c.isOpen = false) : w.bridge.Dismissed c.session := by
  obtain ⟨acts', hruns'⟩ := runs_accept hruns id works
  induction h with
  | begin =>
    cases works with
    | true => exact absurd hended (by simp [accept])
    | false => exact ⟨hchannel, fun t ht hs => absurd hs (hnew t ht)⟩
  | next hbefore hfresh hm ih =>
    obtain ⟨now, hnow⟩ := hbefore.runs hruns'
    have hmoved := moved_of_move hfresh hm
    rw [session, hmoved.id_channel.1]
    exact hmoved.dismissed hnow (isOpen_of_move hm) hended
  | meanwhile hbefore hu hl ih =>
    obtain ⟨now, hnow⟩ := hbefore.runs hruns'
    exact (ih hended).step hnow hu.step hl
  | apart _ hb ih => exact hb ▸ ih hended

/-- **A connection leaves nothing behind, and touches nothing else.**  Its session is one that
nobody had before.  After any history of the connection, whether or not it could be told its
session:

1. if the connection has ended, its session has no channel, and each of its runs is over or was
   told to stop;
2. a move ends the connection exactly if the client closes it or something cannot be sent, and no
   move is noticed by another session;
3. the same holds if the connection ends now because the client is gone or the socket fails, also if
   the rest of the studio goes on between giving up the channel and stopping the run.

The beginning of the connection is not noticed by another session either. -/
theorem leaves_nothing_behind (hruns : Bridge.Runs settings acts w₀.bridge)
    (hchannel : w₀.bridge.router.channelOf? id.text = none)
    (hnew : ∀ t ∈ w₀.bridge.tasks, t.info.session ≠ id.text)
    (h : History ws (accept id w₀ works).1 (accept id w₀ works).2 log c w) :
    (c.isOpen = false → w.bridge.Dismissed c.session)
      ∧ (∀ m c' w', m.IsFresh w.bridge → c.move? ws w m = some (c', w') →
        (c'.isOpen = false ↔ m.ends = true)
          ∧ (m.ends = true → w'.bridge.Dismissed c.session)
          ∧ ∀ other ps, c.session ≠ other → w.bridge.router.Owns ps other →
            w'.bridge.only ps other = w.bridge.only ps other)
      ∧ (c.hangUp w).2.bridge.Dismissed c.session
      ∧ (∀ other ps, c.session ≠ other → w.bridge.router.Owns ps other →
        (c.hangUp w).2.bridge.only ps other = w.bridge.only ps other)
      ∧ (∀ meanwhile b, Bridge.Steps (w.bridge.unsubscribe c.session).1 meanwhile b →
        (∀ act ∈ meanwhile, act.LeavesAlone c.session c.channel) →
          (b.cancel c.session).1.Dismissed c.session)
      ∧ ∀ other ps, id.text ≠ other → w₀.bridge.router.Owns ps other →
        (accept id w₀ works).2.bridge.only ps other = w₀.bridge.only ps other := by
  obtain ⟨acts', hruns'⟩ := runs_accept hruns id works
  obtain ⟨now, hnow⟩ := h.runs hruns'
  refine ⟨h.dismissed hruns hchannel hnew, fun m c' w' hfresh hm => ⟨?_, fun he => ?_, ?_⟩,
    Bridge.dismissed_closeSession hnow c.session, ?_, ?_, ?_⟩
  · rw [isOpen_after hm]
    simp
  · have hended : c'.isOpen = false := by simp [isOpen_after hm, he]
    exact (moved_of_move hfresh hm).dismissed hnow (isOpen_of_move hm) hended
  · intro other ps hne ho
    have hw : WritesOwn c w := h.writesOwn hruns' (by cases works <;> simp [WritesOwn, accept])
    exact only_after (Bridge.parted_of_runs hnow ho) hne (h.serves hruns (isOpen_of_move hm)) hw
      hfresh hm
  · intro other ps hne ho
    exact (Bridge.parted_of_runs hnow ho).only_closeSession_of_ne hne
  · intro meanwhile b hsteps hl
    exact Bridge.dismissed_in_parts hnow hsteps hl
  · intro other ps hne ho
    cases works with
    | true => exact (Bridge.parted_of_runs hruns ho).only_subscribe_of_ne hne
    | false => rfl

/-- A second connection to the studio of `reader`. -/
def neighbour : Connection × Studio := accept (.ofNat 2) (reader readingSettings).2 true

/-- It has asked for the script to be run, and has found its channel empty. -/
def neighbourAsked : Option (Connection × Studio) :=
  (asksToRead neighbour).bind (play .unconfined · [.pass])

/-- The connection after this. -/
def neighbourStarted : Connection × Studio := neighbourAsked.getD neighbour

/-- The answer that the script has started cannot be sent. -/
def neighbourGone : Option (Connection × Studio) :=
  neighbourStarted.1.move? .unconfined neighbourStarted.2 (.forward false)

theorem neighbour_asked : neighbourAsked.isSome = true := by cbv

theorem neighbour_history :
    History .unconfined neighbour.1 neighbour.2 [] neighbourStarted.1 neighbourStarted.2 := by
  obtain ⟨out, hout⟩ := Option.isSome_iff_exists.mp neighbour_asked
  have hstarted : neighbourStarted = out := by rw [neighbourStarted, hout, Option.getD_some]
  rw [hstarted]
  obtain ⟨out', hasked, hpass⟩ := Option.bind_eq_some_iff.mp hout
  have h := asksToRead_history (by simp [reader, accept, readingStudio, Bridge.subscribe]) hasked
  exact h.append (History.of_play hpass (by simp [Move.IsFresh]))

theorem neighbour_owns :
    neighbourStarted.2.bridge.router.Owns [0] (Id.ofNat 1).text := by
  have hcurrent : neighbourStarted.2.bridge.router.current
      = [((Id.ofNat 2).text, 1), ((Id.ofNat 1).text, 0)] := by cbv
  have hlength : neighbourStarted.2.bridge.router.channels.length = 2 := by cbv
  have hne : (Id.ofNat 2).text ≠ (Id.ofNat 1).text := by decide
  refine ⟨List.nodup_singleton 0, by simp [hlength], ?_⟩
  rw [hcurrent]
  simp [hne]

/-- A connection whose run has just started ends because the answer cannot be sent: its run is still
there and was told to stop, it has no channel, and the first connection has its own as before. -/
theorem failed_answer_leaves_nothing :
    ∃ c w t, neighbourGone = some (c, w) ∧ c.isOpen = false ∧ t ∈ w.bridge.tasks
      ∧ t.phase.isRemoved = false ∧ t.cancelled = true
      ∧ w.bridge.router.channelOf? (Id.ofNat 2).text = none
      ∧ w.bridge.only [0] (Id.ofNat 1).text
        = neighbourStarted.2.bridge.only [0] (Id.ofNat 1).text := by
  have hbegin : Bridge.Runs readingSettings [] (readingStudio readingSettings).bridge := .begin
  have hruns : Bridge.Runs readingSettings _ (reader readingSettings).2.bridge :=
    hbegin.next (.subscribe (Id.ofNat 1).text)
  have hnew : ∀ t ∈ (reader readingSettings).2.bridge.tasks,
      t.info.session ≠ (Id.ofNat 2).text := fun t ht =>
    absurd ht (by simp [reader, accept, readingStudio, Bridge.subscribe])
  have h := neighbour_history
  have hsession : neighbourStarted.1.session = (Id.ofNat 2).text :=
    congrArg Id.text h.id_channel.1
  have hleft : neighbourGone.map (fun out => out.2.bridge.tasks.map
      fun t => (t.info.session, t.phase.isRemoved)) = some [((Id.ofNat 2).text, false)] := by cbv
  obtain ⟨⟨c, w⟩, hout, htasks⟩ := Option.map_eq_some_iff.mp hleft
  obtain ⟨t, htask, ht⟩ := List.map_eq_singleton_iff.mp htasks
  obtain ⟨hs, hremoved⟩ := Prod.mk.inj ht
  have hmem : t ∈ w.bridge.tasks := htask ▸ List.mem_singleton_self t
  unfold neighbour at h
  obtain ⟨-, hmoves, -⟩ := leaves_nothing_behind hruns (by cbv) hnew h
  have hmove := hout
  unfold neighbourGone at hmove
  obtain ⟨hends, hgo, hothers⟩ := hmoves (.forward false) c w trivial hmove
  have hdismissed := hgo rfl
  rw [hsession] at hdismissed hothers
  refine ⟨c, w, t, hout, hends.mpr rfl, hmem, hremoved, ?_, hdismissed.channel,
    hothers _ [0] (by decide) neighbour_owns⟩
  exact (hdismissed.runs t hmem hs).resolve_left (by simp [hremoved])

end Connection
end Scriptorium
