import Scriptorium.Proofs.Bridge.Lifecycle
import Scriptorium.Proofs.Connection.Answers
import Scriptorium.Proofs.Studio.History

/-!
# A connection and the runs of its session

`Connection.Steps` leaves open what the studio does between two moves of a connection.  Here it is
said: the bridge goes on by its own steps, and whatever else there is in the studio may change.
`Connection.History` is any stretch of moves and of such steps, in any order, and it records what
was passed on to sessions (`Bridge.Utters`).

The session of a connection is its own, as its identifier is: in between, nobody opens or gives up
the channel of the session, takes from it, or starts a run for the session (`LeavesAlone`).

A connection looks into its channel in one move and at the answers that wait in another
(`Connection.look`), and a history may go on in between: output may be passed on, and the end of a
run may come to wait, when the connection has found its channel empty and has not yet looked at the
answers.

Section 3 takes each move apart once and for all (`Moved`), and section 4 what a message brings
about (`Handled`); what holds along a history is shown by cases over these.
-/
namespace Scriptorium

open Run

/-! ## 1. Histories -/

/-- What happens is not about the channel of a session, and starts no run for the session. -/
def Bridge.Act.LeavesAlone (session : SessionId) (channel : Nat) (act : Bridge.Act) : Prop :=
  act.Spares session channel ∧ ∀ info, act = .started info → info.session ≠ session

/-- The identifier that a run would get is not that of another run. -/
def Move.IsFresh (b : Bridge) : Move → Prop
  | .receive _ fresh _ => ∀ t ∈ b.tasks, t.info.id ≠ fresh
  | .forward _ | .pass | .acknowledge | .report _ => True

theorem Move.isFresh_of_isOwn {m : Move} (h : m.isOwn = true) (b : Bridge) : m.IsFresh b := by
  cases m with
  | receive frame fresh works => exact absurd h (by simp [isOwn])
  | _ => trivial

/-- From the connection `c₀` and the studio `w₀`, moves of the connection and steps of the bridge
have led to `c` and `w`; meanwhile the events of the list were passed on, each to its session. -/
inductive Connection.History (ws : Workspace) (c₀ : Connection) (w₀ : Studio) :
    List (SessionId × Output.Event) → Connection → Studio → Prop
  | begin : History ws c₀ w₀ [] c₀ w₀
  | next {log : List (SessionId × Output.Event)} {c c' : Connection} {w w' : Studio} {m : Move} :
      History ws c₀ w₀ log c w → m.IsFresh w.bridge → c.move? ws w m = some (c', w') →
      History ws c₀ w₀ log c' w'
  | meanwhile {log : List (SessionId × Output.Event)} {c : Connection} {w w' : Studio}
      {act : Bridge.Act} {out : Option (SessionId × Output.Event)} :
      History ws c₀ w₀ log c w → w.bridge.Utters act out w'.bridge →
      act.LeavesAlone c.session c.channel → History ws c₀ w₀ (log ++ out.toList) c w'
  /-- The machine goes on, or the files change. -/
  | apart {log : List (SessionId × Output.Event)} {c : Connection} {w w' : Studio} :
      History ws c₀ w₀ log c w → w'.bridge = w.bridge → History ws c₀ w₀ log c w'

namespace Bridge

variable {settings : RunSettings} {log more : List Act} {b b' : Bridge} {act : Act}

/-! ## 2. The runs of a session -/

/-- The runs that were started for a session, oldest first. -/
def runsOf (b : Bridge) (session : SessionId) : List RunInfo :=
  b.infos.filter (·.session = session)

theorem mem_runsOf {session : SessionId} {info : RunInfo} :
    info ∈ b.runsOf session ↔ info ∈ b.infos ∧ info.session = session := by
  simp [runsOf]

theorem nodup_infos (h : Runs settings log b) : (b.infos.map (·.id)).Nodup := by
  have hc := Consistent.of_runs h
  rw [hc.infos_eq]
  exact hc.ids

theorem Step.infos (hstep : Step b act b') (h : Runs settings log b) :
    b'.infos = b.infos ++ startedIn [act] := by
  have hc := Consistent.of_runs h
  rw [(hc.step hstep).infos_eq, hc.infos_eq, startedIn_append]

theorem Step.infos_of_quiet (hstep : Step b act b') (h : Runs settings log b)
    (hq : act.isQuiet = true) : b'.infos = b.infos := by
  have hc := Consistent.of_runs h
  rw [(hc.step hstep).infos_eq, hc.infos_eq, startedIn_quiet hq]

/-- A step that leaves a session alone starts none of its runs, so these are the same before and
after it. -/
theorem Step.runsOf_of_leavesAlone (hstep : Step b act b') (h : Runs settings log b)
    {session : SessionId} {channel : Nat} (hl : act.LeavesAlone session channel) :
    b'.runsOf session = b.runsOf session := by
  rw [runsOf, hstep.infos h, List.filter_append, ← runsOf]
  have hnone : (startedIn [act]).filter (·.session = session) = [] := by
    refine List.filter_eq_nil_iff.mpr fun info hinfo => ?_
    have hact : act = .started info := by
      cases act <;> simp_all [startedIn]
    simpa using hl.2 info hact
  rw [hnone, List.append_nil]

/-- The result of a run stays. -/
theorem Steps.result? (hmore : Steps b more b') (h : Runs settings log b) {run : Id}
    {r : RunResult} (hr : b.result? run = some r) : b'.result? run = some r := by
  obtain ⟨t, ht, hres⟩ := Option.bind_eq_some_iff.mp hr
  obtain ⟨hmem, rfl⟩ := mem_of_task? ht
  obtain ⟨t', ht', hi, hres'⟩ := hmore.phase_kept (P := fun p => p.result? = some r)
    (fun hm hp => hm.result? hp) h hmem hres
  rw [← hi, (Consistent.of_runs (h.append hmore)).result?_eq ht']
  exact hres'

/-- A run whose result can be had passes nothing on. -/
theorem Utters.ne_of_result? {session : SessionId} {e : Output.Event}
    (hu : Utters b act (some (session, e)) b') (h : Runs settings log b) {run : Id}
    {r : RunResult} (hr : b.result? run = some r) : e.run ≠ run := by
  rintro rfl
  obtain ⟨t, ht, hid, -, s, hp⟩ := hu.speaker
  rw [← hid, (Consistent.of_runs h).result?_eq ht, hp] at hr
  exact absurd hr (by simp [Phase.result?])

/-- What is asked of the run that a session has, or given up. -/
def Act.isRequest : Act → Bool
  | .offered _ | .released _ | .endedInput _ | .cancelled _ => true
  | _ => false

theorem Step.router_of_request (h : Step b act b') (ha : act.isRequest = true) :
    b'.router = b.router := by
  cases h with
  | offer session data => exact router_offer b session data
  | release run => rfl
  | endInput session => exact router_endInput b session
  | cancel session => exact router_cancel b session
  | _ => exact absurd ha (by simp [Act.isRequest])

theorem Step.router_of_started {info : RunInfo} (h : Step b (.started info) b') :
    b'.router = b.router := by
  cases h with
  | start _ hs =>
    obtain ⟨script, -, -, -, -, rfl⟩ := start_eq_ok hs
    exact router_register b info

theorem Act.isQuiet_of_request (ha : act.isRequest = true) : act.isQuiet = true := by
  cases act <;> first | rfl | exact absurd ha (by simp [isRequest])

end Bridge

/-- The run that a message tells of. -/
def ServerMessage.run? : ServerMessage → Option Id
  | .runStarted run _ | .output run _ _ => some run
  | .runFinished outcome => some outcome.runId
  | .runFailed run _ _ => run
  | .connected _ | .stdinResult _ | .cancelResult _ | .fileResult _ _ | .error _ _ _ | .pong => none

namespace Connection

/-! ## 3. What a message brings about -/

/-- The bridge is as it was, or the run of a session was asked something. -/
inductive Asked (b : Bridge) : Bridge → Prop
  | nothing : Asked b b
  | request {act : Bridge.Act} {b' : Bridge} : act.isRequest = true → Bridge.Step b act b' →
      Asked b b'

/-- What comes of a message of a session, and the studio afterwards: a run starts, or else the
message is answered or a write begins, and no run is told of. -/
inductive Handled (w : Studio) (fresh : Id) (session : SessionId) : Studio → Handling → Prop
  | started {w' : Studio} {info : RunInfo} : info.id = fresh → info.session = session →
      Bridge.Step w.bridge (.started info) w'.bridge → Handled w fresh session w' (.started info)
  | answered {w' : Studio} {m : ServerMessage} : m.run? = none → Asked w.bridge w'.bridge →
      Handled w fresh session w' (.answered m)
  | writing {w' : Studio} {p : PendingWrite} : Asked w.bridge w'.bridge →
      Handled w fresh session w' (.writing p)

section Handled

variable {w w' : Studio} {ws : Workspace} {fresh : Id} {session : SessionId}

theorem run?_ofFileAnswer {α : Type} (id : Option String) (write? : α → Option Json.Value)
    (found : Except Workspace.Error α) :
    (ServerMessage.ofFileAnswer id write? found).run? = none := by
  cases found with
  | error e => rfl
  | ok a =>
    simp only [ServerMessage.ofFileAnswer, ServerMessage.ofFileResult]
    split <;> rfl

theorem handled_change (id : Option String) (changed : Except Workspace.Error FileSystem) :
    Handled w fresh session (w.change id changed).1 (w.change id changed).2 := by
  cases changed with
  | error e => exact .answered rfl .nothing
  | ok files => exact .answered rfl .nothing

theorem bridge_saveScript {p : Path} {content : Option String}
    (h : w.saveScript ws p content = .ok w') : w'.bridge = w.bridge := by
  unfold Studio.saveScript at h
  split at h
  · obtain rfl := Except.ok.inj h
    rfl
  · obtain ⟨files, -, rfl⟩ := map_eq_ok.mp h
    rfl

/-- Running a script starts a run of the session or does nothing to the bridge; that the file may be
saved before concerns the disk alone. -/
theorem handled_runScript (hfresh : ∀ t ∈ w.bridge.tasks, t.info.id ≠ fresh) (p : Path)
    (content : Option String) :
    Handled w fresh session (w.runScript ws fresh session p content).1
      (w.runScript ws fresh session p content).2 := by
  unfold Studio.runScript
  split
  · exact .answered rfl .nothing
  · rename_i w₁ hsave
    have hb := bridge_saveScript hsave
    have hquiet : Asked w.bridge w₁.bridge := hb ▸ .nothing
    split
    · exact .answered rfl hquiet
    · split
      · exact .answered rfl hquiet
      · rename_i w₂ info hstart
        obtain ⟨hid, hs, hstep⟩ := Studio.start_step (hb ▸ hfresh) hstart
        exact .started hid hs (hb ▸ hstep)

/-- A write to the input of a run is one step of the bridge, which the connection waits for, or is
answered at once and has changed nothing. -/
theorem handled_beginWrite (data : String) :
    Handled w fresh session (w.beginWrite session data).1 (w.beginWrite session data).2 := by
  unfold Studio.beginWrite Studio.offerInput
  have hstep := Bridge.Step.offer (b := w.bridge) session (Text.Utf8.encode data)
  cases hoffer : w.bridge.offer session (Text.Utf8.encode data) with
  | mk bridge given =>
    rw [hoffer] at hstep
    cases given with
    | none => exact .answered rfl .nothing
    | some written => exact .writing (.request rfl hstep)

/-- **What each of the messages brings about.**  A message does one thing to the bridge at most, and
none that belongs to another session. -/
theorem handled_handle (hfresh : ∀ t ∈ w.bridge.tasks, t.info.id ≠ fresh) (q : ClientMessage) :
    Handled w fresh session (w.handle ws fresh session q).1 (w.handle ws fresh session q).2 := by
  cases q with
  | run path content => exact handled_runScript hfresh (.ofString path) content
  | stdin data => exact handled_beginWrite data
  | endStdin => exact .answered rfl (.request rfl (.endInput session))
  | cancel => exact .answered rfl (.request rfl (.cancel session))
  | listDirectory path id => exact .answered (run?_ofFileAnswer _ _ _) .nothing
  | tree path depth id => exact .answered (run?_ofFileAnswer _ _ _) .nothing
  | readFile path id => exact .answered (run?_ofFileAnswer _ _ _) .nothing
  | writeFile path content id => exact handled_change id _
  | createFile path id => exact handled_change id _
  | deletePath path id => exact .answered (run?_ofFileAnswer _ _ _) .nothing
  | renamePath source target id => exact handled_change id _
  | ping => exact .answered rfl .nothing

end Handled

/-! ## 4. What a move does -/

/-- The messages that were sent, oldest first. -/
def spoken (c : Connection) : List ServerMessage := c.sent.filterMap (·.message?)

/-- What was said: the messages that were sent, and those that wait. -/
def told (c : Connection) : List ServerMessage := c.spoken ++ c.replies

theorem spoken_of_sent {c c' : Connection} {m : ServerMessage}
    (h : c'.sent = c.sent ++ [.message m]) : c'.spoken = c.spoken ++ [m] := by
  simp [spoken, h, Sent.message?]

theorem told_sent (c : Connection) (m : ServerMessage) :
    told { c.anew with sent := c.sent ++ [.message m] } = c.spoken ++ m :: c.replies := by
  rw [told, spoken_of_sent (c := c) rfl, List.append_assoc, List.singleton_append]
  rfl

theorem told_answer {c : Connection} {m : ServerMessage} {rest : List ServerMessage}
    (hr : c.replies = m :: rest) :
    told { c.anew with replies := rest, sent := c.sent ++ [.message m] } = c.told := by
  rw [told, spoken_of_sent (c := c) rfl, told, hr, List.append_assoc, List.singleton_append]

theorem told_reply (c : Connection) (m : ServerMessage) : (c.reply m).told = c.told ++ [m] := by
  rw [told, told, List.append_assoc]
  rfl

/-- All that was said is still the same, but for messages that now wait to be sent as well. -/
structure Adds (c : Connection) (ms : List ServerMessage) (c' : Connection) : Prop where
  id_eq : c'.id = c.id
  channel_eq : c'.channel = c.channel
  isOpen_eq : c'.isOpen = c.isOpen
  watched_eq : c'.watched = c.watched
  spoken_eq : c'.spoken = c.spoken
  replies_eq : c'.replies = c.replies ++ ms

theorem adds_nothing (c : Connection) (write : Option PendingWrite) (look : Look) :
    c.Adds [] { c with write, look } :=
  ⟨rfl, rfl, rfl, rfl, rfl, by simp⟩

theorem adds_reply (c : Connection) (write : Option PendingWrite) (look : Look)
    (m : ServerMessage) : c.Adds [m] (reply { c with write, look } m) :=
  ⟨rfl, rfl, rfl, rfl, rfl, rfl⟩

theorem adds_pong (c : Connection) (data : Bytes) :
    c.Adds [] { c.anew with sent := c.sent ++ [.pong data] } :=
  ⟨rfl, rfl, rfl, rfl, by simp [spoken, Sent.message?], by simp [anew]⟩

theorem Adds.told {c c' : Connection} {ms : List ServerMessage} (h : c.Adds ms c') :
    c'.told = c.told ++ ms := by
  rw [Connection.told, h.spoken_eq, h.replies_eq, ← List.append_assoc, Connection.told]

/-- What a move of a connection comes to, as far as its session and the runs are concerned. -/
inductive Moved (c : Connection) (w : Studio) : Connection → Studio → Prop
  | output {e : Output.Event} {router : Output.Router} :
      w.bridge.router.next? c.channel = some (e, router) →
      Moved c w { c.anew with sent := c.sent ++ [.message (.ofEvent e)] }
        { w with bridge := { w.bridge with router } }
  /-- Output may have come in since the connection looked for some. -/
  | answer {m : ServerMessage} {rest : List ServerMessage} : c.look = .replies →
      c.replies = m :: rest →
      Moved c w { c.anew with replies := rest, sent := c.sent ++ [.message m] } w
  /-- A message about no run is sent past those that wait. -/
  | aside {m : ServerMessage} : m.run? = none →
      Moved c w { c.anew with sent := c.sent ++ [.message m] } w
  /-- Something is taken note of that is about no run. -/
  | plain {ms : List ServerMessage} {c' : Connection} {w' : Studio} : c.Adds ms c' →
      (∀ m ∈ ms, m.run? = none) → Asked w.bridge w'.bridge → Moved c w c' w'
  | started {info : RunInfo} {w' : Studio} : info.session = c.session →
      (∀ t ∈ w.bridge.tasks, t.info.id ≠ info.id) →
      Bridge.Step w.bridge (.started info) w'.bridge →
      Moved c w (c.anew.note (.started info)) w'
  | reported {run : Id} {r : RunResult} : run ∈ c.watched → w.bridge.result? run = some r →
      Moved c w (reply { c with watched := c.watched.erase run } (.ofResult run r)) w
  /-- The connection ends, at once or for want of being able to send something. -/
  | gone {rest : List ServerMessage} {router : Output.Router} : rest <:+ c.replies →
      (router = w.bridge.router ∨ ∃ e, w.bridge.router.next? c.channel = some (e, router)) →
      Moved c w { c.anew with replies := rest, isOpen := false }
        { w with bridge := Bridge.closeSession { w.bridge with router } c.session }

variable {ws : Workspace} {c c' : Connection} {w w' : Studio}

theorem anew_of_look (h : c.look = .output) : c.anew = c := by
  rw [anew, ← h]

/-- A connection that passes something on sends the oldest event of its channel, or the oldest
answer when it looks at the answers, or comes to its end because neither can be sent. -/
theorem moved_of_forward {works : Bool} (h : c.move? ws w (.forward works) = some (c', w')) :
    Moved c w c' w' := by
  obtain ⟨-, ⟨e, router, hl, hn, hc⟩ | ⟨m, rest, hl, hr, hc⟩⟩ := forward_cases h
  · rw [← anew_of_look hl] at hc
    cases works with
    | true =>
      obtain ⟨rfl, rfl⟩ := Prod.mk.inj hc
      exact .output hn
    | false =>
      obtain ⟨rfl, rfl⟩ := Prod.mk.inj hc
      exact .gone List.suffix_rfl (.inr ⟨e, hn⟩)
  · cases works with
    | true =>
      obtain ⟨rfl, rfl⟩ := Prod.mk.inj hc
      exact .answer hl hr
    | false =>
      obtain ⟨rfl, rfl⟩ := Prod.mk.inj hc
      exact .gone (hr ▸ List.suffix_cons m rest) (.inl rfl)

/-- A look that finds nothing brings nothing about. -/
theorem moved_of_pass (h : c.move? ws w .pass = some (c', w')) : Moved c w c' w' := by
  have hlooked (look : Look) : Moved c w { c with look } w :=
    .plain (c.adds_nothing c.write look) (by simp) .nothing
  obtain ⟨-, rfl, ⟨-, -, rfl⟩ | ⟨-, -, rfl⟩ | ⟨-, rfl⟩⟩ := pass_cases h
  · exact hlooked .replies
  · exact hlooked .frames
  · exact hlooked .output

theorem Handled.moved {fresh : Id} {handling : Handling}
    (hfresh : ∀ t ∈ w.bridge.tasks, t.info.id ≠ fresh)
    (h : Handled w fresh c.session w' handling) : Moved c w (c.anew.note handling) w' := by
  cases h with
  | started hid hs hstep => exact .started hs (hid ▸ hfresh) hstep
  | @answered m hrun hasked =>
    have hms : ∀ m' ∈ [m], m'.run? = none := by simpa using hrun
    exact .plain (c.adds_reply c.write .output m) hms hasked
  | @writing p hasked => exact .plain (c.adds_nothing (some p) .output) (by simp) hasked

/-- A frame that comes in is a request, or is answered without asking the studio, or ends the
connection. -/
theorem moved_of_receive {frame : Frame} {fresh : Id} {works : Bool}
    (hfresh : ∀ t ∈ w.bridge.tasks, t.info.id ≠ fresh)
    (h : c.move? ws w (.receive frame fresh works) = some (c', w')) : Moved c w c' w' := by
  obtain ⟨-, hc⟩ := receive_cases h
  obtain rfl : c' = (c.anew.receive w ws fresh works frame).1 := congrArg Prod.fst hc
  obtain rfl : w' = (c.anew.receive w ws fresh works frame).2 := congrArg Prod.snd hc
  have hlooked : Moved c w c.anew w := .plain (c.adds_nothing c.write .output) (by simp) .nothing
  cases frame with
  | text s =>
    simp only [receive]
    split
    · exact (handled_handle hfresh _).moved hfresh
    · rename_i fault _
      cases works with
      | true => exact .aside rfl
      | false => exact .gone List.suffix_rfl (.inl rfl)
  | ping data =>
    cases works with
    | true => exact .plain (c.adds_pong data) (by simp) .nothing
    | false => exact hlooked
  | binary data => exact hlooked
  | close => exact .gone List.suffix_rfl (.inl rfl)

/-- **What each of the moves does**, whether or not something can be sent.  This is the step lemma
of a connection: all invariants of its histories are shown move by move from here. -/
theorem moved_of_move {m : Move} (hfresh : m.IsFresh w.bridge)
    (h : c.move? ws w m = some (c', w')) : Moved c w c' w' := by
  cases m with
  | forward works => exact moved_of_forward h
  | pass => exact moved_of_pass h
  | receive frame fresh works => exact moved_of_receive hfresh h
  | acknowledge =>
    obtain ⟨p, accepted, -, -, rfl, rfl⟩ := acknowledge_cases h
    exact .plain (c.adds_reply none c.look _) (by simp [ServerMessage.run?])
      (.request rfl (.release p.run))
  | report run =>
    have hw : run ∈ c.watched := by
      obtain ⟨-, h⟩ := Option.ite_none_right_eq_some.mp h
      obtain ⟨hw, -⟩ := Option.ite_none_right_eq_some.mp h
      simpa using hw
    obtain ⟨r, hr, rfl, rfl⟩ := report_cases h
    exact .reported hw hr

/-! ## 5. What every history keeps -/

theorem Asked.steps {b b' : Bridge} (h : Asked b b') : ∃ acts, Bridge.Steps b acts b' := by
  cases h with
  | nothing => exact ⟨[], .begin⟩
  | request _ hstep => exact ⟨_, .next .begin hstep⟩

/-- What a move does to the bridge are steps of it. -/
theorem Moved.steps (h : Moved c w c' w') : ∃ acts, Bridge.Steps w.bridge acts w'.bridge := by
  cases h with
  | output hn => exact ⟨_, .next .begin (.takeNext hn)⟩
  | plain _ _ hasked => exact hasked.steps
  | started _ _ hstep => exact ⟨_, .next .begin hstep⟩
  | gone _ hr =>
    rcases hr with rfl | ⟨e, hn⟩
    · exact ⟨_, .next .begin (.close c.session)⟩
    · exact ⟨_, .next (.next .begin (.takeNext hn)) (.close c.session)⟩
  | _ => exact ⟨[], .begin⟩

/-- A connection keeps its session and its channel. -/
theorem Moved.id_channel (h : Moved c w c' w') : c'.id = c.id ∧ c'.channel = c.channel := by
  cases h with
  | plain hadds _ _ => exact ⟨hadds.id_eq, hadds.channel_eq⟩
  | _ => exact ⟨rfl, rfl⟩

namespace History

variable {c₀ : Connection} {w₀ : Studio} {log more : List (SessionId × Output.Event)}
variable {settings : RunSettings} {acts : List Bridge.Act}

/-- Histories put together. -/
theorem append {c'' : Connection} {w'' : Studio} (h : History ws c₀ w₀ log c w)
    (h' : History ws c w more c'' w'') : History ws c₀ w₀ (log ++ more) c'' w'' := by
  induction h' with
  | begin => simpa using h
  | next _ hfresh hm ih => exact ih.next hfresh hm
  | meanwhile _ hu hl ih =>
    rw [← List.append_assoc]
    exact ih.meanwhile hu hl
  | apart _ hb ih => exact ih.apart hb

/-- What happens on a connection are steps of the bridge. -/
theorem steps (h : History ws c₀ w₀ log c w) :
    ∃ acts, Bridge.Steps w₀.bridge acts w.bridge := by
  induction h with
  | begin => exact ⟨[], .begin⟩
  | next _ hfresh hm ih =>
    obtain ⟨before, ih⟩ := ih
    obtain ⟨after, hafter⟩ := (moved_of_move hfresh hm).steps
    exact ⟨before ++ after, ih.append hafter⟩
  | meanwhile _ hu _ ih =>
    obtain ⟨before, ih⟩ := ih
    exact ⟨_, ih.next hu.step⟩
  | apart _ hb ih => exact hb ▸ ih

theorem runs (h : History ws c₀ w₀ log c w) (hruns : Bridge.Runs settings acts w₀.bridge) :
    ∃ acts', Bridge.Runs settings acts' w.bridge := by
  obtain ⟨more, hmore⟩ := h.steps
  exact ⟨acts ++ more, hruns.append hmore⟩

/-- Moves that take no frame in, one after the other. -/
theorem of_steps {moves : List Move} (h : Steps ws (fun _ _ => False) c w moves c' w')
    (hfresh : ∀ m ∈ moves, ∀ b, m.IsFresh b) : History ws c w [] c' w' := by
  induction h with
  | begin => exact .begin
  | next m _ hm ih =>
    have hbefore := ih fun m' hmem => hfresh m' (List.mem_append_left _ hmem)
    exact hbefore.next (hfresh m (by simp) _) hm
  | meanwhile _ hgoes _ => exact hgoes.elim

theorem of_play {moves : List Move} (h : play ws (c, w) moves = some (c', w'))
    (hfresh : ∀ m ∈ moves, ∀ b, m.IsFresh b) : History ws c w [] c' w' :=
  of_steps (steps_of_play _ h) hfresh

theorem id_channel (h : History ws c₀ w₀ log c w) : c.id = c₀.id ∧ c.channel = c₀.channel := by
  induction h with
  | begin => exact ⟨rfl, rfl⟩
  | next _ hfresh hm ih =>
    obtain ⟨hid, hchannel⟩ := (moved_of_move hfresh hm).id_channel
    exact ⟨hid.trans ih.1, hchannel.trans ih.2⟩
  | meanwhile _ _ _ ih => exact ih
  | apart _ _ ih => exact ih

end History

/-! ## 6. What a connection does while it waits -/

theorem leavesAlone_of_isOwn {act : Bridge.Act} (h : act.isOwn = true) (session : SessionId)
    (channel : Nat) : act.LeavesAlone session channel := by
  cases act with
  | worked r => exact ⟨trivial, fun _ he => absurd he (by simp)⟩
  | deregistered r => exact ⟨trivial, fun _ he => absurd he (by simp)⟩
  | _ => exact absurd h (by simp [Bridge.Act.isOwn])

/-- The next step of a connection by itself. -/
theorem history_of_step? (h : c.step? ws w = some (c', w')) : History ws c w [] c' w' := by
  unfold step? at h
  rcases orElse_eq_some h with h | h
  · exact History.begin.next (m := .acknowledge) trivial h
  · rcases orElse_eq_some h with h | h
    · exact History.begin.next (m := .forward true) trivial h
    · rcases orElse_eq_some h with h | h
      · obtain ⟨-, h⟩ := Option.ite_none_left_eq_some.mp h
        exact History.begin.next (m := .pass) trivial h
      · obtain ⟨run, -, h⟩ := List.exists_of_findSome?_eq_some h
        exact History.begin.next (m := .report run) trivial h

/-- The next step of the studio. -/
theorem history_of_studio_step? {settings : RunSettings} {acts : List Bridge.Act}
    {limit : Option Nat} (ws : Workspace) (c : Connection)
    (hruns : Bridge.Runs settings acts w.bridge) (h : w.step? limit = some w') :
    ∃ log, History ws c w log c w' := by
  rcases Studio.step?_cases hruns h with hb | ⟨act, hown, hstep⟩
  · exact ⟨[], History.begin.apart hb⟩
  · obtain ⟨out, hu⟩ := Bridge.step_iff_utters.mp hstep
    exact ⟨_, History.begin.meanwhile hu (leavesAlone_of_isOwn hown _ _)⟩

/-- The studio goes on by itself, while the connection does nothing. -/
theorem studio_waitUpTo_history {α : Type} {settings : RunSettings} {acts : List Bridge.Act}
    (ws : Workspace) (c : Connection) (limit : Option Nat) (done? : Studio → Option α) (fuel : Nat)
    (hruns : Bridge.Runs settings acts w.bridge) :
    ∃ log, History ws c w log c (Studio.waitUpTo limit done? fuel w).1 := by
  induction fuel generalizing w acts with
  | zero => exact ⟨[], .begin⟩
  | succ fuel ih =>
    unfold Studio.waitUpTo
    split
    · exact ⟨[], .begin⟩
    · split
      · exact ⟨[], .begin⟩
      · split
        · rename_i w' hstep
          obtain ⟨out, hnext⟩ := history_of_studio_step? ws c hruns hstep
          obtain ⟨acts', hruns'⟩ := hnext.runs hruns
          obtain ⟨log, hlater⟩ := ih hruns'
          exact ⟨_, hnext.append hlater⟩
        · exact ⟨[], .begin⟩

/-- **What a connection does while it waits is one of its histories**, however long it waits.  So a
connection that is simply let go on does nothing that the theory does not speak of. -/
theorem waitUpTo_history {α : Type} {settings : RunSettings} {acts : List Bridge.Act}
    (ws : Workspace) (done? : Connection → Studio → Option α) (fuel : Nat)
    (hruns : Bridge.Runs settings acts w.bridge) :
    ∃ log, History ws c w log (waitUpTo ws done? fuel c w).1 (waitUpTo ws done? fuel c w).2.1 := by
  induction fuel generalizing c w acts with
  | zero => exact ⟨[], .begin⟩
  | succ fuel ih =>
    unfold waitUpTo
    split
    · exact ⟨[], .begin⟩
    · split
      · rename_i c' w' hstep
        have hnext := history_of_step? hstep
        obtain ⟨acts', hruns'⟩ := hnext.runs hruns
        obtain ⟨log, hlater⟩ := ih (c := c') hruns'
        exact ⟨_, hnext.append hlater⟩
      · split
        · rename_i w' hstep
          obtain ⟨out, hnext⟩ := history_of_studio_step? ws c hruns hstep
          obtain ⟨acts', hruns'⟩ := hnext.runs hruns
          obtain ⟨log, hlater⟩ := ih (c := c) hruns'
          exact ⟨_, hnext.append hlater⟩
        · exact ⟨[], .begin⟩

end Connection
end Scriptorium
