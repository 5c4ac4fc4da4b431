import Mathlib
import Scriptorium.Proofs.Connection.History

/-!
# The output of a run and its end

What a run writes reaches the client through the channel of the session, the end of the run through
the answers that wait.  The two are filled by different hands, and a connection looks into the
channel first.  The end of a run is only told when its result can be had, and by then the run has
passed on all that it ever does (`Bridge.Utters.ne_of_result?`).  If channel and answers were looked
at in one moment, all output of a run would so be sent before its end.

They are not.  A connection finds its channel empty and then looks at the answers, and in between
the rest of the output may be passed on and the run may end; then the end is found among the
answers, and sent first (`end_before_output`).  Nothing else goes wrong: `Between` is the time
between the two looks of a round, and what follows the end of a run on the wire is what was passed
on there (`output_before_end`).

`Delivered` says where the output is at one moment of a history.  While the connection is open, what
was sent of it and what waits in the channel are together what was passed on to the session, in that
order; nothing is lost and no piece of output overtakes another.
-/
namespace Scriptorium

open Run

namespace ServerMessage

/-- The piece of output that a message carries. -/
def event? : ServerMessage → Option Output.Event
  | .output run stream data => some ⟨run, stream, data⟩
  | _ => none

/-- The run whose end a message tells. -/
def ended? : ServerMessage → Option Id
  | .runFinished outcome => some outcome.runId
  | .runFailed run _ _ => run
  | _ => none

variable {m : ServerMessage}

@[simp] theorem event?_ofResult (run : Id) (r : RunResult) : (ofResult run r).event? = none := by
  cases r <;> rfl

theorem event?_of_run? (h : m.run? = none) : m.event? = none := by
  cases m with
  | output run stream data => exact absurd h (by simp [run?])
  | _ => rfl

theorem ended?_of_run? (h : m.run? = none) : m.ended? = none := by
  cases m with
  | runFinished outcome => exact absurd h (by simp [run?])
  | runFailed run message code => exact h
  | _ => rfl

theorem run?_of_ended? {run : Id} (h : m.ended? = some run) : m.run? = some run := by
  cases m with
  | runFinished outcome => exact h
  | runFailed run' message code => exact h
  | _ => exact absurd h (by simp [ended?])

theorem event?_of_ended? {run : Id} (h : m.ended? = some run) : m.event? = none := by
  cases m with
  | output run' stream data => exact absurd h (by simp [ended?])
  | _ => rfl

end ServerMessage

/-- The outcome of a run names the run. -/
theorem Bridge.runId_of_result? {settings : RunSettings} {acts : List Act} {b : Bridge}
    (h : Runs settings acts b) {run : Id} {outcome : Outcome}
    (hr : b.result? run = some (.ok outcome)) : outcome.runId = run := by
  obtain ⟨t, ht, hres⟩ := Option.bind_eq_some_iff.mp hr
  obtain ⟨hmem, rfl⟩ := mem_of_task? ht
  cases hp : t.phase with
  | reported r =>
    rw [hp] at hres
    obtain rfl := Option.some.inj hres
    obtain ⟨done, s, terms, ms, -, -, -, -, he⟩ := result_of_runs h hmem hp
    obtain ⟨termination, -, rfl⟩ := map_eq_ok.mp he.symm
    rfl
  | _ =>
    rw [hp] at hres
    exact absurd hres (by simp [Phase.result?])

theorem Bridge.ended?_ofResult {settings : RunSettings} {acts : List Act} {b : Bridge}
    (h : Runs settings acts b) {run : Id} {r : RunResult} (hr : b.result? run = some r) :
    (ServerMessage.ofResult run r).ended? = some run := by
  cases r with
  | ok outcome => exact congrArg some (runId_of_result? h hr)
  | error e => rfl

namespace Connection

/-! ## 1. Output and ends among messages -/

/-- The pieces of output among messages. -/
def eventsIn (ms : List ServerMessage) : List Output.Event := ms.filterMap (·.event?)

/-- The pieces of output of one run. -/
def ofRun (run : Id) (es : List Output.Event) : List Output.Event := es.filter (·.run = run)

theorem eventsIn_append (ms ns : List ServerMessage) :
    eventsIn (ms ++ ns) = eventsIn ms ++ eventsIn ns :=
  List.filterMap_append

theorem eventsIn_concat {m : ServerMessage} (ms : List ServerMessage) (h : m.event? = none) :
    eventsIn (ms ++ [m]) = eventsIn ms := by
  simp [eventsIn, h]

theorem ofRun_append (run : Id) (es fs : List Output.Event) :
    ofRun run (es ++ fs) = ofRun run es ++ ofRun run fs :=
  List.filter_append _ _

/-- A message stands at the end of a list, or it stood in the list before. -/
theorem cut_concat {ms before after : List ServerMessage} {last m : ServerMessage}
    (h : ms ++ [last] = before ++ m :: after) :
    (before = ms ∧ m = last) ∨ ∃ rest, ms = before ++ m :: rest := by
  rcases List.eq_nil_or_concat after with rfl | ⟨rest, x, rfl⟩
  · obtain ⟨rfl, hm⟩ := List.append_inj' h rfl
    exact .inl ⟨rfl, (List.cons.inj hm).1.symm⟩
  · rw [List.concat_eq_append, ← List.cons_append, ← List.append_assoc] at h
    exact .inr ⟨rest, (List.append_inj' h rfl).1⟩

/-! ## 2. What was sent, and what waits -/

/-- Where the output of a session's runs is, at one moment of its connection. -/
structure Delivered (log : List (SessionId × Output.Event)) (c : Connection) (w : Studio) :
    Prop where
  serves : c.isOpen = true → w.bridge.router.Serves c.session c.channel
  sent_eq : c.isOpen = true →
    eventsIn c.spoken ++ w.bridge.router.waiting c.channel = Bridge.heardBy c.session log
  arrived : eventsIn c.spoken <+: Bridge.heardBy c.session log
  replies : ∀ m ∈ c.replies, m.event? = none
  settled : ∀ m ∈ c.told, ∀ run, m.ended? = some run → ∃ r, w.bridge.result? run = some r

variable {ws : Workspace} {c c' : Connection} {w w' : Studio}
variable {log : List (SessionId × Output.Event)}

theorem Asked.router {b b' : Bridge} (h : Asked b b') : b'.router = b.router := by
  cases h with
  | nothing => rfl
  | request ha hstep => exact hstep.router_of_request ha

/-- No answer is a piece of output. -/
theorem Moved.replies (hm : Moved c w c' w') (h : ∀ m ∈ c.replies, m.event? = none) :
    ∀ m ∈ c'.replies, m.event? = none := by
  cases hm with
  | output _ => exact h
  | answer _ hr => exact fun m hmem => h m (hr ▸ List.mem_cons_of_mem _ hmem)
  | aside _ => exact h
  | plain hadds hrun _ =>
    rw [hadds.replies_eq]
    intro m hmem
    rcases List.mem_append.mp hmem with hmem | hmem
    · exact h m hmem
    · exact ServerMessage.event?_of_run? (hrun m hmem)
  | started _ _ _ =>
    intro m hmem
    rcases List.mem_append.mp hmem with hmem | hmem
    · exact h m hmem
    · rw [List.mem_singleton.mp hmem]
      rfl
  | reported _ _ =>
    intro m hmem
    rcases List.mem_append.mp hmem with hmem | hmem
    · exact h m hmem
    · rw [List.mem_singleton.mp hmem]
      exact ServerMessage.event?_ofResult _ _
  | gone hrest _ => exact fun m hmem => h m (hrest.subset hmem)

/-- What is said was said before, or tells of no end, or tells of a result that can be had. -/
theorem Moved.mem_told (hm : Moved c w c' w') {m : ServerMessage} (hmem : m ∈ c'.told) :
    m ∈ c.told ∨ m.ended? = none
      ∨ ∃ run r, w.bridge.result? run = some r ∧ m = .ofResult run r := by
  cases hm with
  | output _ =>
    rw [told_sent, List.mem_append, List.mem_cons] at hmem
    rcases hmem with hmem | rfl | hmem
    · exact .inl (List.mem_append_left _ hmem)
    · exact .inr (.inl rfl)
    · exact .inl (List.mem_append_right _ hmem)
  | answer _ hr =>
    rw [told_answer hr] at hmem
    exact .inl hmem
  | aside hrun =>
    rw [told_sent, List.mem_append, List.mem_cons] at hmem
    rcases hmem with hmem | rfl | hmem
    · exact .inl (List.mem_append_left _ hmem)
    · exact .inr (.inl (ServerMessage.ended?_of_run? hrun))
    · exact .inl (List.mem_append_right _ hmem)
  | plain hadds hrun _ =>
    rw [hadds.told] at hmem
    rcases List.mem_append.mp hmem with hmem | hmem
    · exact .inl hmem
    · exact .inr (.inl (ServerMessage.ended?_of_run? (hrun m hmem)))
  | started _ _ _ =>
    rw [note, told_reply] at hmem
    rcases List.mem_append.mp hmem with hmem | hmem
    · exact .inl hmem
    · rw [List.mem_singleton.mp hmem]
      exact .inr (.inl rfl)
  | @reported run r _ hr =>
    rw [told_reply] at hmem
    rcases List.mem_append.mp hmem with hmem | hmem
    · exact .inl hmem
    · exact .inr (.inr ⟨run, r, hr, List.mem_singleton.mp hmem⟩)
  | gone hrest _ =>
    rcases List.mem_append.mp hmem with hmem | hmem
    · exact .inl (List.mem_append_left _ hmem)
    · exact .inl (List.mem_append_right _ (hrest.subset hmem))

namespace Delivered

variable {settings : RunSettings} {acts : List Bridge.Act}

/-- The connection has sent no output, and nothing has come to the channel. -/
theorem unchanged (h : Delivered log c w) (hid : c'.id = c.id) (hchannel : c'.channel = c.channel)
    (hevents : eventsIn c'.spoken = eventsIn c.spoken)
    (hopen : c'.isOpen = true → c.isOpen = true ∧ w'.bridge.router = w.bridge.router)
    (hreplies : ∀ m ∈ c'.replies, m.event? = none)
    (hsettled : ∀ m ∈ c'.told, ∀ run, m.ended? = some run → ∃ r, w'.bridge.result? run = some r) :
    Delivered log c' w' := by
  have hsession : c'.session = c.session := congrArg Id.text hid
  refine ⟨fun ho => ?_, fun ho => ?_, ?_, hreplies, hsettled⟩
  · obtain ⟨hopen, hrouter⟩ := hopen ho
    rw [hrouter, hsession, hchannel]
    exact h.serves hopen
  · obtain ⟨hopen, hrouter⟩ := hopen ho
    rw [hrouter, hsession, hchannel, hevents]
    exact h.sent_eq hopen
  · rw [hevents, hsession]
    exact h.arrived

/-- The oldest event of the channel is sent. -/
theorem forwards (h : Delivered log c w) (hopen : c.isOpen = true) {e : Output.Event}
    {router : Output.Router} (hn : w.bridge.router.next? c.channel = some (e, router))
    (hsettled : ∀ m ∈ told { c.anew with sent := c.sent ++ [.message (.ofEvent e)] },
      ∀ run, m.ended? = some run → ∃ r, w.bridge.result? run = some r) :
    Delivered log { c.anew with sent := c.sent ++ [.message (.ofEvent e)] }
      { w with bridge := { w.bridge with router } } := by
  have hspoken : spoken { c.anew with sent := c.sent ++ [.message (.ofEvent e)] }
      = c.spoken ++ [.ofEvent e] := spoken_of_sent rfl
  obtain ⟨hserves, hwaiting⟩ := (h.serves hopen).next? hn
  have hsent : eventsIn (c.spoken ++ [.ofEvent e]) ++ router.waiting c.channel
      = Bridge.heardBy c.session log := by
    rw [eventsIn_append, List.append_assoc, ← h.sent_eq hopen, hwaiting]
    rfl
  refine ⟨fun _ => hserves, fun _ => ?_, ?_, h.replies, hsettled⟩
  · rw [hspoken]
    exact hsent
  · rw [hspoken]
    exact ⟨_, hsent⟩

/-- **Each move keeps the output where it belongs.**  An event that is sent is the one that was at
the front of the channel, and no other move sends any. -/
theorem moved (h : Delivered log c w) (hruns : Bridge.Runs settings acts w.bridge)
    (hopen : c.isOpen = true) (hm : Moved c w c' w') : Delivered log c' w' := by
  obtain ⟨more, hmore⟩ := hm.steps
  have hreplies := hm.replies h.replies
  have hbefore : ∀ m ∈ c'.told, ∀ run, m.ended? = some run →
      ∃ r, w.bridge.result? run = some r := by
    intro m hmem run hend
    rcases hm.mem_told hmem with hmem | hnone | ⟨run', r, hr, rfl⟩
    · exact h.settled m hmem run hend
    · exact absurd (hnone.symm.trans hend) (by simp)
    · rw [Bridge.ended?_ofResult hruns hr] at hend
      obtain rfl := Option.some.inj hend
      exact ⟨r, hr⟩
  have hsettled : ∀ m ∈ c'.told, ∀ run, m.ended? = some run →
      ∃ r, w'.bridge.result? run = some r := by
    intro m hmem run hend
    obtain ⟨r, hr⟩ := hbefore m hmem run hend
    exact ⟨r, hmore.result? hruns hr⟩
  have hsay {c' : Connection} {m : ServerMessage} (hm : m.event? = none)
      (hspoken : c'.spoken = c.spoken ++ [m]) : eventsIn c'.spoken = eventsIn c.spoken := by
    rw [hspoken, eventsIn_concat c.spoken hm]
  cases hm with
  | output hn => exact h.forwards hopen hn hbefore
  | @answer m rest _ hr =>
    have hm : m.event? = none := h.replies m (hr ▸ List.mem_cons_self)
    exact h.unchanged rfl rfl (hsay hm (spoken_of_sent rfl)) (fun _ => ⟨hopen, rfl⟩) hreplies
      hsettled
  | aside hrun =>
    exact h.unchanged rfl rfl (hsay (ServerMessage.event?_of_run? hrun) (spoken_of_sent rfl))
      (fun _ => ⟨hopen, rfl⟩) hreplies hsettled
  | plain hadds _ hasked =>
    exact h.unchanged hadds.id_eq hadds.channel_eq (congrArg eventsIn hadds.spoken_eq)
      (fun _ => ⟨hopen, hasked.router⟩) hreplies hsettled
  | started _ _ hstep =>
    exact h.unchanged rfl rfl rfl (fun _ => ⟨hopen, hstep.router_of_started⟩) hreplies hsettled
  | reported _ _ => exact h.unchanged rfl rfl rfl (fun _ => ⟨hopen, rfl⟩) hreplies hsettled
  | gone _ _ => exact h.unchanged rfl rfl rfl (fun ho => absurd ho (by simp)) hreplies hsettled

/-- **Nothing that happens meanwhile comes between.**  What is passed on to the session comes to the
end of its channel, and nobody else takes anything out of it. -/
theorem meanwhile (h : Delivered log c w) (hruns : Bridge.Runs settings acts w.bridge)
    {act : Bridge.Act} {out : Option (SessionId × Output.Event)}
    (hu : w.bridge.Utters act out w'.bridge) (hl : act.LeavesAlone c.session c.channel) :
    Delivered (log ++ out.toList) c w' := by
  have hkeep : ∀ run r, w.bridge.result? run = some r → w'.bridge.result? run = some r :=
    fun run r hr => (Bridge.Steps.begin.next hu.step).result? hruns hr
  have hheard := Bridge.heardBy_append c.session log out.toList
  have hsettled : ∀ m ∈ c.told, ∀ run, m.ended? = some run →
      ∃ r, w'.bridge.result? run = some r := by
    intro m hmem run hend
    obtain ⟨r, hr⟩ := h.settled m hmem run hend
    exact ⟨r, hkeep run r hr⟩
  refine ⟨fun ho => ?_, fun ho => ?_, ?_, h.replies, hsettled⟩
  · exact (hu.carries.serves (h.serves ho) hl.1).1
  · rw [(hu.carries.serves (h.serves ho) hl.1).2, hheard, ← List.append_assoc, h.sent_eq ho]
  · rw [hheard]
    exact h.arrived.trans (List.prefix_append _ _)

/-- A new connection. -/
theorem accepted (hruns : Bridge.Runs settings acts w.bridge) (id : Id) :
    Delivered [] (accept id w true).1 (accept id w true).2 := by
  obtain ⟨hserves, hwaiting⟩ := (Bridge.inRange_of_runs hruns).serves_subscribe id.text
  refine ⟨fun _ => hserves, fun _ => hwaiting, List.prefix_rfl, by simp [accept], ?_⟩
  intro m hmem run hend
  obtain rfl : m = .connected id := by simpa [accept, told, spoken, Sent.message?] using hmem
  exact absurd hend (by simp [ServerMessage.ended?])

end Delivered

/-- **At every moment of a connection, the output is where it belongs.**  This is the run lemma of
the section; the order on the wire follows from it and from when the connection looks where. -/
theorem History.delivered {settings : RunSettings} {acts : List Bridge.Act} {id : Id} {w₀ : Studio}
    (h : History ws (accept id w₀ true).1 (accept id w₀ true).2 log c w)
    (hruns : Bridge.Runs settings acts w₀.bridge) : Delivered log c w := by
  have hruns' : Bridge.Runs settings _ (accept id w₀ true).2.bridge :=
    hruns.next (.subscribe id.text)
  induction h with
  | begin => exact .accepted hruns id
  | next hbefore hfresh hm ih =>
    obtain ⟨acts', hnow⟩ := hbefore.runs hruns'
    exact ih.moved hnow (isOpen_of_move hm) (moved_of_move hfresh hm)
  | meanwhile hbefore hu hl ih =>
    obtain ⟨acts', hnow⟩ := hbefore.runs hruns'
    exact ih.meanwhile hnow hu hl
  | @apart log c w w' _ hb ih =>
    refine ⟨fun ho => ?_, fun ho => ?_, ih.arrived, ih.replies, ?_⟩
    · rw [hb]
      exact ih.serves ho
    · rw [hb]
      exact ih.sent_eq ho
    · rw [hb]
      exact ih.settled

/-! ## 3. Between two looks -/

/-- The connection has found its channel empty, and has not looked at the answers yet.  When it
looked into the channel, `seen` had been passed on; `missed` was passed on since.  Only ends of runs
have come to wait meanwhile. -/
inductive Between (ws : Workspace) (c₀ : Connection) (w₀ : Studio) :
    List (SessionId × Output.Event) → List (SessionId × Output.Event) → Connection → Studio → Prop
  | looked {seen : List (SessionId × Output.Event)} {c c' : Connection} {w w' : Studio} :
      History ws c₀ w₀ seen c w → c.look = .output → c.move? ws w .pass = some (c', w') →
      Between ws c₀ w₀ seen [] c' w'
  | report {seen missed : List (SessionId × Output.Event)} {c c' : Connection} {w w' : Studio}
      {run : Id} : Between ws c₀ w₀ seen missed c w → c.move? ws w (.report run) = some (c', w') →
      Between ws c₀ w₀ seen missed c' w'
  | meanwhile {seen missed : List (SessionId × Output.Event)} {c : Connection} {w w' : Studio}
      {act : Bridge.Act} {out : Option (SessionId × Output.Event)} :
      Between ws c₀ w₀ seen missed c w → w.bridge.Utters act out w'.bridge →
      act.LeavesAlone c.session c.channel → Between ws c₀ w₀ seen (missed ++ out.toList) c w'
  | apart {seen missed : List (SessionId × Output.Event)} {c : Connection} {w w' : Studio} :
      Between ws c₀ w₀ seen missed c w → w'.bridge = w.bridge →
      Between ws c₀ w₀ seen missed c w'

section Rounds

variable {c₀ : Connection} {w₀ : Studio} {seen missed rest more : List (SessionId × Output.Event)}
variable {before : List ServerMessage} {m : ServerMessage}

/-- The time between two looks belongs to the history of the connection, and what was passed on in
it stands at the end of the list. -/
theorem Between.history (h : Between ws c₀ w₀ seen missed c w) :
    History ws c₀ w₀ (seen ++ missed) c w := by
  induction h with
  | looked hbefore _ hm =>
    rw [List.append_nil]
    exact hbefore.next (m := .pass) trivial hm
  | report _ hm ih => exact ih.next (m := .report _) trivial hm
  | meanwhile _ hu hl ih =>
    rw [← List.append_assoc]
    exact ih.meanwhile hu hl
  | apart _ hb ih => exact ih.apart hb

theorem History.inTurn (h : History ws c₀ w₀ log c w) (h₀ : c₀.InTurn) : c.InTurn := by
  induction h with
  | begin => exact h₀
  | next _ _ hm ih => exact ih.move hm
  | meanwhile _ _ _ ih => exact ih
  | apart _ _ ih => exact ih

/-- **A connection that looks at the answers has found its channel empty just before**, but for what
has come since. -/
theorem History.between (h : History ws c₀ w₀ log c w) (h₀ : c₀.look = .output)
    (hl : c.look = .replies) :
    ∃ seen missed, log = seen ++ missed ∧ Between ws c₀ w₀ seen missed c w := by
  induction h with
  | begin => exact absurd (h₀.symm.trans hl) (by simp)
  | @next log c c' w w' m hbefore _ hm ih =>
    cases m with
    | forward works => exact absurd ((look_of_forward hm).symm.trans hl) (by simp)
    | pass =>
      obtain ⟨-, -, ⟨hlook, -, -⟩ | ⟨-, -, rfl⟩ | ⟨-, rfl⟩⟩ := pass_cases hm
      · exact ⟨log, [], (List.append_nil log).symm, .looked hbefore hlook hm⟩
      · exact absurd hl (by simp)
      · exact absurd hl (by simp [anew])
    | receive frame fresh works => exact absurd ((look_of_receive hm).symm.trans hl) (by simp)
    | acknowledge =>
      obtain ⟨p, accepted, hp, -, rfl, -⟩ := acknowledge_cases hm
      have hlook := (hbefore.inTurn (.of_output h₀)).anew_of_write p hp
      exact absurd (hlook.symm.trans hl) (by simp)
    | report run =>
      have hm' := hm
      obtain ⟨r, -, rfl, rfl⟩ := report_cases hm'
      obtain ⟨seen, missed, hlog, hbetween⟩ := ih hl
      exact ⟨seen, missed, hlog, hbetween.report hm⟩
  | meanwhile _ hu hleaves ih =>
    obtain ⟨seen, missed, rfl, hbetween⟩ := ih hl
    exact ⟨seen, _, List.append_assoc _ _ _, hbetween.meanwhile hu hleaves⟩
  | apart _ hb ih =>
    obtain ⟨seen, missed, hlog, hbetween⟩ := ih hl
    exact ⟨seen, missed, hlog, hbetween.apart hb⟩

/-- The message `m` was found among the answers and sent, behind `before`.  In that round, `seen`
had been passed on when the connection looked into the channel, `missed` was passed on between the
two looks, and `rest` since. -/
inductive InRound (ws : Workspace) (c₀ : Connection) (w₀ : Studio) (before : List ServerMessage)
    (m : ServerMessage) (seen missed rest : List (SessionId × Output.Event)) (c : Connection)
    (w : Studio) : Prop
  | intro {c₁ : Connection} {w₁ : Studio} {later : List ServerMessage} :
      Between ws c₀ w₀ seen missed c₁ w₁ → c₁.spoken = before → c₁.replies = m :: later →
      History ws c₁ w₁ rest c w → InRound ws c₀ w₀ before m seen missed rest c w

theorem InRound.append (h : InRound ws c₀ w₀ before m seen missed rest c w)
    (h' : History ws c w more c' w') :
    InRound ws c₀ w₀ before m seen missed (rest ++ more) c' w' := by
  obtain ⟨hbetween, hspoken, hreplies, hrest⟩ := h
  exact ⟨hbetween, hspoken, hreplies, hrest.append h'⟩

/-- What a move sends is output, or about no run, or the first of the answers that wait. -/
theorem Moved.spoken_cases (hm : Moved c w c' w') :
    c'.spoken = c.spoken
      ∨ (∃ m, c'.spoken = c.spoken ++ [m] ∧ (m.event? ≠ none ∨ m.run? = none))
      ∨ ∃ m later, c.look = .replies ∧ c.replies = m :: later ∧ c'.spoken = c.spoken ++ [m] := by
  cases hm with
  | @output e _ _ => exact .inr (.inl ⟨.ofEvent e, spoken_of_sent rfl, .inl (by simp [
      ServerMessage.ofEvent, ServerMessage.event?])⟩)
  | @answer m later hl hr => exact .inr (.inr ⟨m, later, hl, hr, spoken_of_sent rfl⟩)
  | @aside m hrun => exact .inr (.inl ⟨m, spoken_of_sent rfl, .inr hrun⟩)
  | plain hadds _ _ => exact .inl hadds.spoken_eq
  | _ => exact .inl rfl

/-- **Whatever is told of a run, other than its output, was found among the answers** in some
round. -/
theorem History.inRound (h : History ws c₀ w₀ log c w) (h₀ : c₀.look = .output)
    (hnone : ∀ m ∈ c₀.spoken, m.run? = none) {after : List ServerMessage}
    (he : c.spoken = before ++ m :: after) (hevent : m.event? = none) (hrun : m.run? ≠ none) :
    ∃ seen missed rest, log = seen ++ missed ++ rest
      ∧ InRound ws c₀ w₀ before m seen missed rest c w := by
  induction h generalizing after with
  | begin =>
    have hmem : m ∈ c₀.spoken := he ▸ List.mem_append_right _ List.mem_cons_self
    exact absurd (hnone m hmem) hrun
  | @next log c c' w w' move hbefore hfresh hm ih =>
    have hnext : History ws c w [] c' w' := History.begin.next hfresh hm
    have hearlier {after : List ServerMessage} (he : c.spoken = before ++ m :: after) :
        ∃ seen missed rest, log = seen ++ missed ++ rest
          ∧ InRound ws c₀ w₀ before m seen missed rest c' w' := by
      obtain ⟨seen, missed, rest, hlog, hround⟩ := ih he
      refine ⟨seen, missed, rest, hlog, ?_⟩
      simpa using hround.append hnext
    rcases (moved_of_move hfresh hm).spoken_cases with
      hsame | ⟨last, hlast, hother⟩ | ⟨last, later, hl, hr, hlast⟩
    · exact hearlier (hsame.symm.trans he)
    · rcases cut_concat (hlast.symm.trans he) with ⟨-, rfl⟩ | ⟨after', hcut⟩
      · rcases hother with hother | hother
        · exact absurd hevent hother
        · exact absurd hother hrun
      · exact hearlier hcut
    · rcases cut_concat (hlast.symm.trans he) with ⟨rfl, rfl⟩ | ⟨after', hcut⟩
      · obtain ⟨seen, missed, hlog, hbetween⟩ := hbefore.between h₀ hl
        exact ⟨seen, missed, [], by rw [List.append_nil, hlog], ⟨hbetween, rfl, hr, hnext⟩⟩
      · exact hearlier hcut
  | meanwhile _ hu hleaves ih =>
    obtain ⟨seen, missed, rest, rfl, hround⟩ := ih he
    exact ⟨seen, missed, _, List.append_assoc _ _ _,
      hround.append (History.begin.meanwhile hu hleaves)⟩
  | apart _ hb ih =>
    obtain ⟨seen, missed, rest, hlog, hround⟩ := ih he
    refine ⟨seen, missed, rest, hlog, ?_⟩
    simpa using hround.append (History.begin.apart hb)

/-- A run whose result can be had passes nothing on, ever. -/
theorem History.silent {settings : RunSettings} {acts : List Bridge.Act} {run : Id} {r : RunResult}
    (h : History ws c₀ w₀ log c w) (hruns : Bridge.Runs settings acts w₀.bridge)
    (hr : w₀.bridge.result? run = some r) (session : SessionId) :
    ofRun run (Bridge.heardBy session log) = [] := by
  induction h with
  | begin => rfl
  | next _ _ _ ih => exact ih
  | meanwhile hbefore hu _ ih =>
    obtain ⟨acts', hnow⟩ := hbefore.runs hruns
    obtain ⟨more, hmore⟩ := hbefore.steps
    rw [Bridge.heardBy_append, ofRun_append, ih, List.nil_append]
    refine List.filter_eq_nil_iff.mpr fun e he => ?_
    obtain ⟨⟨s, e'⟩, hout, rfl⟩ := List.mem_map.mp he
    obtain rfl := Option.mem_toList.mp (List.mem_of_mem_filter hout)
    simpa using hu.ne_of_result? hnow (hmore.result? hruns hr)
  | apart _ _ ih => exact ih

end Rounds

/-! ## 4. The order on the wire -/

section Wire

variable {settings : RunSettings} {acts : List Bridge.Act} {id : Id} {w₀ : Studio}
variable {seen missed rest : List (SessionId × Output.Event)}
variable {before after : List ServerMessage} {m : ServerMessage} {run : Id}

/-- When the channel was found empty, all that had been passed on was sent. -/
theorem Between.events_eq (hruns : Bridge.Runs settings acts w₀.bridge)
    (h : Between ws (accept id w₀ true).1 (accept id w₀ true).2 seen missed c w) :
    eventsIn c.spoken = Bridge.heardBy c.session seen := by
  induction h with
  | looked hbefore hl hm =>
    have hsent := (hbefore.delivered hruns).sent_eq (isOpen_of_move hm)
    obtain ⟨-, -, ⟨-, hn, rfl⟩ | ⟨hl', -⟩ | ⟨hl', -⟩⟩ := pass_cases hm
    · rwa [Output.Router.waiting_of_next? hn, List.append_nil] at hsent
    · exact absurd (hl.symm.trans hl') (by simp)
    · exact absurd (hl.symm.trans hl') (by simp)
  | report _ hm ih =>
    obtain ⟨r, -, rfl, -⟩ := report_cases hm
    exact ih
  | meanwhile _ _ _ ih => exact ih
  | apart _ _ ih => exact ih

/-- **What was sent before an answer is the output that had been passed on when the connection
looked into its channel**, in the round in which the answer was found. -/
theorem InRound.events_eq (hruns : Bridge.Runs settings acts w₀.bridge)
    (h : InRound ws (accept id w₀ true).1 (accept id w₀ true).2 before m seen missed rest c w) :
    eventsIn before = Bridge.heardBy c.session seen := by
  obtain ⟨hbetween, rfl, -, hrest⟩ := h
  rw [hbetween.events_eq hruns, session, session, hrest.id_channel.1]

/-- Behind the end of a run, only what was passed on between the two looks is still to come. -/
theorem InRound.heard_eq (hruns : Bridge.Runs settings acts w₀.bridge)
    (h : InRound ws (accept id w₀ true).1 (accept id w₀ true).2 before m seen missed rest c w)
    (hend : m.ended? = some run) :
    ofRun run (Bridge.heardBy c.session (seen ++ missed ++ rest))
      = ofRun run (eventsIn before) ++ ofRun run (Bridge.heardBy c.session missed) := by
  have hbefore := h.events_eq hruns
  obtain ⟨hbetween, -, hreplies, hrest⟩ := h
  obtain ⟨acts', hnow⟩ := hbetween.history.runs (hruns.next (.subscribe id.text))
  have hwaits : m ∈ told _ := List.mem_append_right _ (hreplies ▸ List.mem_cons_self)
  obtain ⟨r, hr⟩ := (hbetween.history.delivered hruns).settled m hwaits run hend
  rw [Bridge.heardBy_append, Bridge.heardBy_append, ofRun_append, ofRun_append,
    hrest.silent hnow hr, List.append_nil, hbefore]

end Wire

/-- The pieces of output of one stream of a run. -/
def ofStream (run : Id) (stream : Stream) (es : List Output.Event) : List Output.Event :=
  es.filter fun e => e.run = run ∧ e.stream = stream

/-- **The output of a run is sent in its order, and before the end of the run, except for what comes
between two looks.**  At any moment of a connection, open or ended, whatever its runs, its client
and the rest of the studio do:

1. where the end of a run was sent, it was found among the answers in some round.  All output of the
   run was sent before, but for what was passed on in that round between the look into the channel
   and the look at the answers, and of that none was; what was sent of the run afterwards is the
   beginning of it, and with what still waits all of it;
2. what was sent of a stream is the beginning of what the run passed on there;
3. as long as the connection is open, nothing of the output is lost. -/
theorem output_before_end {settings : RunSettings} {acts : List Bridge.Act} {id : Id} {w₀ : Studio}
    (hruns : Bridge.Runs settings acts w₀.bridge)
    (h : History ws (accept id w₀ true).1 (accept id w₀ true).2 log c w) :
    (∀ before m after run, c.spoken = before ++ m :: after → m.ended? = some run →
        ∃ seen missed rest, log = seen ++ missed ++ rest
          ∧ InRound ws (accept id w₀ true).1 (accept id w₀ true).2 before m seen missed rest c w
          ∧ ofRun run (Bridge.heardBy c.session log)
            = ofRun run (eventsIn before) ++ ofRun run (Bridge.heardBy c.session missed)
          ∧ ofRun run (eventsIn after) <+: ofRun run (Bridge.heardBy c.session missed)
          ∧ (c.isOpen = true →
            ofRun run (eventsIn after) ++ ofRun run (w.bridge.router.waiting c.channel)
              = ofRun run (Bridge.heardBy c.session missed)))
      ∧ (∀ run stream, ofStream run stream (eventsIn c.spoken)
          <+: ofStream run stream (Bridge.heardBy c.session log))
      ∧ (c.isOpen = true → eventsIn c.spoken ++ w.bridge.router.waiting c.channel
          = Bridge.heardBy c.session log) := by
  have hd := h.delivered hruns
  refine ⟨fun before m after run he hend => ?_, fun run stream => hd.arrived.filter _, hd.sent_eq⟩
  have hevent := ServerMessage.event?_of_ended? hend
  have hrun : m.run? ≠ none := by simp [ServerMessage.run?_of_ended? hend]
  have hnone : ∀ m ∈ (accept id w₀ true).1.spoken, m.run? = none := by
    simp [accept, spoken, Sent.message?, ServerMessage.run?]
  obtain ⟨seen, missed, rest, rfl, hround⟩ := h.inRound rfl hnone he hevent hrun
  have hheard := hround.heard_eq hruns hend
  have hspoken : ofRun run (eventsIn c.spoken)
      = ofRun run (eventsIn before) ++ ofRun run (eventsIn after) := by
    rw [he, ← List.singleton_append, ← List.append_assoc, eventsIn_append,
      eventsIn_concat before hevent, ofRun_append]
  refine ⟨seen, missed, rest, rfl, hround, hheard, ?_, fun ho => ?_⟩
  · have harrived : ofRun run (eventsIn c.spoken)
        <+: ofRun run (Bridge.heardBy c.session (seen ++ missed ++ rest)) := hd.arrived.filter _
    rw [hspoken, hheard] at harrived
    exact (List.prefix_append_right_inj _).mp harrived
  · have hall := congrArg (ofRun run) (hd.sent_eq ho)
    rw [ofRun_append, hspoken, hheard, List.append_assoc] at hall
    exact List.append_cancel_left hall

/-- A studio on which the only interpreter reads a script out, and the only script is short. -/
def readingStudio (settings : RunSettings) : Studio where
  machine := { files := ⟨[([[0x62]], .directory),
    ([[0x62], [0x63]], .file (Machine.imageOf "cat") true), ([[0x73]], .file [0x68, 0x69] false)]⟩ }
  bridge := { settings }
  cwd := []

/-- The first connection to the studio. -/
def reader (settings : RunSettings) : Connection × Studio :=
  accept (.ofNat 1) (readingStudio settings) true

/-- A new connection that waits for its first frame, which asks for the script to be run. -/
def asksToRead (out : Connection × Studio) : Option (Connection × Studio) :=
  play .unconfined out
    [.pass, .pass, .receive (.text "\x7b\"type\":\"run\",\"path\":\"/s\"\x7d") (.ofNat 7) true]

/-- The moves by which the script is asked for make a history, in which nothing has been passed on
yet. -/
theorem asksToRead_history {out : Connection × Studio}
    (hfresh : ∀ t ∈ w.bridge.tasks, t.info.id ≠ .ofNat 7) (h : asksToRead (c, w) = some out) :
    History .unconfined c w [] out.1 out.2 := by
  obtain ⟨⟨c₁, w₁⟩, hpass, h⟩ := Option.bind_eq_some_iff.mp h
  obtain ⟨⟨c₂, w₂⟩, hpass', h⟩ := Option.bind_eq_some_iff.mp h
  obtain ⟨out', hreceive, h⟩ := Option.bind_eq_some_iff.mp h
  obtain rfl := Option.some.inj h
  obtain ⟨-, rfl, -⟩ := pass_cases hpass
  obtain ⟨-, rfl, -⟩ := pass_cases hpass'
  have hlooked := (History.begin.next (m := .pass) trivial hpass).next (m := .pass) trivial hpass'
  exact hlooked.next (m := .receive _ _ _) hfresh hreceive

/-- The connection when the script has started. -/
def readingStarted (settings : RunSettings) : Connection × Studio :=
  (asksToRead (reader settings)).getD (reader settings)

theorem readingStarted_history {settings : RunSettings}
    (h : (asksToRead (reader settings)).isSome = true) :
    History .unconfined (reader settings).1 (reader settings).2 []
      (readingStarted settings).1 (readingStarted settings).2 := by
  obtain ⟨out, hout⟩ := Option.isSome_iff_exists.mp h
  have hstarted : readingStarted settings = out := by rw [readingStarted, hout, Option.getD_some]
  rw [hstarted]
  exact asksToRead_history (by simp [reader, accept, readingStudio, Bridge.subscribe]) hout

theorem readingStarted_runs {settings : RunSettings}
    (h : (asksToRead (reader settings)).isSome = true) :
    ∃ acts, Bridge.Runs settings acts (readingStarted settings).2.bridge := by
  have hbegin : Bridge.Runs settings [] (readingStudio settings).bridge := .begin
  exact (readingStarted_history h).runs (hbegin.next (.subscribe (Id.ofNat 1).text))

/-- The settings that name the interpreter. -/
def readingSettings : RunSettings := { interpreter := "/b/c" }

theorem reading_asked : (asksToRead (reader readingSettings)).isSome = true := by cbv

/-- The moves by which the connection tells of the start, and finds its channel empty again. -/
def readingLooks : Option (Connection × Studio) :=
  play .unconfined ((readingStarted readingSettings).1, (readingStarted readingSettings).2)
    [.pass, .forward true, .pass]

/-- The connection after this. -/
def readingLooked : Connection × Studio := readingLooks.getD (readingStarted readingSettings)

theorem readingLooked_history :
    History .unconfined (reader readingSettings).1 (reader readingSettings).2 []
      readingLooked.1 readingLooked.2 := by
  have hsome : readingLooks.isSome = true := by cbv
  -- `out` has no value of its own, so that the moves are not gone through once more below
  obtain ⟨out, hout⟩ := Option.isSome_iff_exists.mp hsome
  have hlooked : readingLooked = out := by rw [readingLooked, hout, Option.getD_some]
  rw [hlooked]
  have hplay := History.of_play hout (by simp [Move.IsFresh])
  exact (readingStarted_history reading_asked).append hplay

/-- The script writes and ends just after its connection has found the channel empty. -/
theorem end_overtakes :
    ∃ log c w outcome, History .unconfined (reader readingSettings).1 (reader readingSettings).2
        log c w
      ∧ c.spoken = [.connected (.ofNat 1), .runStarted (.ofNat 7) "/s",
        .runFinished outcome, .output (.ofNat 7) .stdout "hi"]
      ∧ outcome.runId = .ofNat 7 := by
  have hbegin : Bridge.Runs readingSettings [] (readingStudio readingSettings).bridge := .begin
  obtain ⟨acts, hruns⟩ := readingLooked_history.runs (hbegin.next (.subscribe (Id.ofNat 1).text))
  obtain ⟨log, hwait⟩ := studio_waitUpTo_history .unconfined readingLooked.1 none
    (fun w => w.bridge.result? (.ofNat 7)) 100 hruns
  have hplay : (play .unconfined (readingLooked.1,
      (Studio.waitUpTo none (fun w => w.bridge.result? (.ofNat 7)) 100 readingLooked.2).1)
      [.report (.ofNat 7), .forward true, .forward true]).map (·.1.spoken)
      = some [.connected (.ofNat 1), .runStarted (.ofNat 7) "/s",
        .runFinished ⟨.ofNat 7, some 0, "hi", "", .exited, 0⟩,
        .output (.ofNat 7) .stdout "hi"] := by
    cbv
  obtain ⟨⟨c, w⟩, hout, hspoken⟩ := Option.map_eq_some_iff.mp hplay
  have hsend := History.of_play hout (by simp [Move.IsFresh])
  exact ⟨_, c, w, _, (readingLooked_history.append hwait).append hsend, hspoken, rfl⟩

/-- **The end of a run need not come after its output.**  The script writes and ends between two
looks of its connection, and its end is then found first. -/
theorem end_before_output :
    ¬ ∀ (ws : Workspace) (settings : RunSettings) (acts : List Bridge.Act) (id : Id)
      (w₀ w : Studio) (c : Connection) (log : List (SessionId × Output.Event)),
      Bridge.Runs settings acts w₀.bridge →
      History ws (accept id w₀ true).1 (accept id w₀ true).2 log c w →
      ∀ before m after run, c.spoken = before ++ m :: after → m.ended? = some run →
        ofRun run (eventsIn after) = [] := by
  intro hall
  obtain ⟨log, c, w, outcome, h, hspoken, hrun⟩ := end_overtakes
  have hnone := hall _ _ _ _ _ _ _ _ .begin h
    [.connected (.ofNat 1), .runStarted (.ofNat 7) "/s"] (.runFinished outcome)
    [.output (.ofNat 7) .stdout "hi"] (.ofNat 7) hspoken (congrArg some hrun)
  exact absurd hnone (by decide)

/-- The connection and the studio when the end of the script has been told. -/
def readingDone : Connection × Studio × Option Unit :=
  waitUpTo .unconfined (fun c _ => if c.spoken.any (·.ended?.isSome) then some () else none) 100
    (readingStarted readingSettings).1 (readingStarted readingSettings).2

/-- What the connection and the studio do until the end is told is a history, since waiting is
(`waitUpTo_history`). -/
theorem readingDone_history :
    ∃ log, History .unconfined (reader readingSettings).1 (reader readingSettings).2 log
      readingDone.1 readingDone.2.1 := by
  obtain ⟨acts, hruns⟩ := readingStarted_runs reading_asked
  obtain ⟨log, hwait⟩ := waitUpTo_history (c := (readingStarted readingSettings).1) .unconfined
    (fun c _ => if c.spoken.any (·.ended?.isSome) then some () else none) 100 hruns
  have h := (readingStarted_history reading_asked).append hwait
  refine ⟨[] ++ log, ?_⟩
  unfold readingDone
  exact h

/-- Left to itself the connection sends what the script writes, then that it has ended.  So all that
the script wrote was sent. -/
theorem reading_finishes :
    ∃ log c w outcome, History .unconfined (reader readingSettings).1 (reader readingSettings).2
        log c w
      ∧ c.spoken = [.connected (.ofNat 1), .runStarted (.ofNat 7) "/s",
        .output (.ofNat 7) .stdout "hi", .runFinished outcome]
      ∧ ofRun (.ofNat 7) (Bridge.heardBy c.session log) = [⟨.ofNat 7, .stdout, "hi"⟩] := by
  have hbegin : Bridge.Runs readingSettings [] (readingStudio readingSettings).bridge := .begin
  have hspoken : readingDone.1.spoken = [.connected (.ofNat 1), .runStarted (.ofNat 7) "/s",
      .output (.ofNat 7) .stdout "hi",
      .runFinished ⟨.ofNat 7, some 0, "hi", "", .exited, 0⟩] := by
    cbv
  have hopen : readingDone.1.isOpen = true := by cbv
  have hwaiting : readingDone.2.1.bridge.router.waiting readingDone.1.channel = [] := by cbv
  obtain ⟨log, h⟩ := readingDone_history
  generalize readingDone.1 = c, readingDone.2.1 = w at h hspoken hopen hwaiting
  obtain ⟨hends, -⟩ := output_before_end hbegin h
  obtain ⟨seen, missed, rest, -, -, hheard, -, hmissed⟩ := hends
    [.connected (.ofNat 1), .runStarted (.ofNat 7) "/s", .output (.ofNat 7) .stdout "hi"]
    (.runFinished _) [] (.ofNat 7) hspoken rfl
  have hnone := hmissed hopen
  rw [hwaiting] at hnone
  refine ⟨log, c, w, _, h, hspoken, ?_⟩
  rw [hheard, ← hnone]
  decide

/-! ## 5. The start of a run -/

/-- **What of a run was sent before the answer that it has started is what had been passed on when
the connection last found its channel empty.**  That answer waits like all others, so a script that
is quick is heard before it is said to have started; output that is passed on later comes behind
it. -/
theorem started_in_turn {settings : RunSettings} {acts : List Bridge.Act} {id : Id} {w₀ : Studio}
    (hruns : Bridge.Runs settings acts w₀.bridge)
    (h : History ws (accept id w₀ true).1 (accept id w₀ true).2 log c w)
    {before after : List ServerMessage} {run : Id} {path : String}
    (he : c.spoken = before ++ .runStarted run path :: after) :
    ∃ seen missed rest, log = seen ++ missed ++ rest
      ∧ InRound ws (accept id w₀ true).1 (accept id w₀ true).2 before (.runStarted run path)
        seen missed rest c w
      ∧ ofRun run (eventsIn before) = ofRun run (Bridge.heardBy c.session seen) := by
  have hnone : ∀ m ∈ (accept id w₀ true).1.spoken, m.run? = none := by
    simp [accept, spoken, Sent.message?, ServerMessage.run?]
  obtain ⟨seen, missed, rest, hlog, hround⟩ :=
    h.inRound rfl hnone he rfl (by simp [ServerMessage.run?])
  exact ⟨seen, missed, rest, hlog, hround, congrArg (ofRun run) (hround.events_eq hruns)⟩

/-- The script writes before its connection has looked into the channel. -/
theorem output_overtakes :
    ∃ log c w, History .unconfined (reader readingSettings).1 (reader readingSettings).2 log c w
      ∧ c.spoken = [.connected (.ofNat 1), .output (.ofNat 7) .stdout "hi",
        .runStarted (.ofNat 7) "/s"] := by
  obtain ⟨acts, hruns⟩ := readingStarted_runs reading_asked
  obtain ⟨log, hwait⟩ := studio_waitUpTo_history .unconfined (readingStarted readingSettings).1 none
    (fun w => w.bridge.router.next? 0) 100 hruns
  have hplay : (play .unconfined ((readingStarted readingSettings).1,
      (Studio.waitUpTo none (fun w => w.bridge.router.next? 0) 100
        (readingStarted readingSettings).2).1)
      [.forward true, .pass, .forward true]).map (·.1.spoken)
      = some [.connected (.ofNat 1), .output (.ofNat 7) .stdout "hi",
        .runStarted (.ofNat 7) "/s"] := by
    cbv
  obtain ⟨⟨c, w⟩, hout, hspoken⟩ := Option.map_eq_some_iff.mp hplay
  have hsend := History.of_play hout (by simp [Move.IsFresh])
  have hbefore := (readingStarted_history reading_asked).append hwait
  exact ⟨_, c, w, hbefore.append hsend, hspoken⟩

/-- **Output of a run need not come after the answer that the run has started.**  A script that is
quick has written before its connection has looked at the answers for the first time. -/
theorem not_started_before_output :
    ¬ ∀ (ws : Workspace) (settings : RunSettings) (acts : List Bridge.Act) (id : Id)
      (w₀ w : Studio) (c : Connection) (log : List (SessionId × Output.Event)),
      Bridge.Runs settings acts w₀.bridge →
      History ws (accept id w₀ true).1 (accept id w₀ true).2 log c w →
      ∀ before run path after, c.spoken = before ++ .runStarted run path :: after →
        ofRun run (eventsIn before) = [] := by
  intro hall
  obtain ⟨log, c, w, h, hspoken⟩ := output_overtakes
  have hnone := hall _ _ _ _ _ _ _ _ .begin h
    [.connected (.ofNat 1), .output (.ofNat 7) .stdout "hi"] (.ofNat 7) "/s" [] hspoken
  exact absurd hnone (by decide)

/-- The piece that was sent first had been passed on when the channel was found empty. -/
theorem overtaking_seen :
    ∃ log c w seen missed rest, History .unconfined (reader readingSettings).1
        (reader readingSettings).2 log c w
      ∧ log = seen ++ missed ++ rest
      ∧ ofRun (.ofNat 7) (Bridge.heardBy c.session seen) = [⟨.ofNat 7, .stdout, "hi"⟩] := by
  have hbegin : Bridge.Runs readingSettings [] (readingStudio readingSettings).bridge := .begin
  obtain ⟨log, c, w, h, hspoken⟩ := output_overtakes
  have he : c.spoken = [.connected (.ofNat 1), .output (.ofNat 7) .stdout "hi"]
      ++ .runStarted (.ofNat 7) "/s" :: [] := hspoken
  obtain ⟨seen, missed, rest, hlog, -, hseen⟩ := started_in_turn hbegin h he
  exact ⟨log, c, w, seen, missed, rest, h, hlog, hseen.symm⟩

end Connection
end Scriptorium
