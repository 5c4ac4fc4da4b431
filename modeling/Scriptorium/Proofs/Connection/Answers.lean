import Mathlib.Data.List.Forall2
import Scriptorium.Proofs.Connection.Steps

/-!
# Every text is answered once, and in its turn

A client sends texts, and each of them has one answer: a message that can be read has the answer
that its kind asks for (`Answers`), any other text has an error of its own (`Settles`).  Answers
reach the client in two ways: most wait in `Connection.replies`, where the ends of runs wait too,
but the error for a text that cannot be read is sent past them.

The answers that a connection has given are those that it has sent and those that still wait
(`Connection.given`), and they only grow at their end.  When a connection has come to look for a
frame, the ends of runs may wait again, but no answers do (`InTurn`): answers are put there by the
connection itself, which looks for them first.  So there is nothing that the error could overtake.
The answers are therefore in the order of the texts at all times (`Accounted`), and are all sent
whenever the connection looks for a frame (`answers_in_order`).
-/
namespace Scriptorium

/-! ## 1. What answers what -/

/-- The identifier that a file request came with; none if it is another message. -/
def ClientMessage.fileRequest? : ClientMessage → Option (Option String)
  | .listDirectory _ id | .tree _ _ id | .readFile _ id | .writeFile _ _ id | .createFile _ id
  | .deletePath _ id | .renamePath _ _ id => some id
  | .run _ _ | .stdin _ | .endStdin | .cancel | .ping => none

/-- Whether a message answers a text.  The others tell of the session and of what its runs do. -/
def ServerMessage.isDirect : ServerMessage → Bool
  | .runStarted _ _ | .runFailed none _ _ | .stdinResult _ | .cancelResult _ | .fileResult _ _
  | .error _ _ _ | .pong => true
  | .connected _ | .output _ _ _ | .runFinished _ | .runFailed (some _) _ _ => false

/-- The message that was sent. -/
def Sent.message? : Sent → Option ServerMessage
  | .message m => some m
  | .pong _ => none

namespace Connection

/-- The answers that a message can have. -/
inductive Answers : ClientMessage → ServerMessage → Prop
  | runStarted {path : String} {content : Option String} (run : Id) (script : String) :
      Answers (.run path content) (.runStarted run script)
  | notSaved {path : String} {content : Option String} (e : Workspace.Error) :
      Answers (.run path content) (.runFailed none e.message e.code)
  | notStarted {path : String} {content : Option String} (e : Run.Error) :
      Answers (.run path content) (.runFailed none e.message e.code)
  | stdin {data : String} (accepted : Bool) : Answers (.stdin data) (.stdinResult accepted)
  | endStdin (accepted : Bool) : Answers .endStdin (.stdinResult accepted)
  | cancel (cancelled : Bool) : Answers .cancel (.cancelResult cancelled)
  | ping : Answers .ping .pong
  | fileResult {q : ClientMessage} {id : Option String} (result : Json.Value) :
      q.fileRequest? = some id → Answers q (.fileResult id result)
  | fileFailed {q : ClientMessage} {id : Option String} (e : Workspace.Error) :
      q.fileRequest? = some id → Answers q (.error e.message (some e.code) id)
  /-- There is a result, but it cannot be written. -/
  | fileUnfit {q : ClientMessage} {id : Option String} : q.fileRequest? = some id →
      Answers q
        (.error s!"Failed to encode result: {Workspace.notTextMessage}" (some "INTERNAL") id)

/-- The answers that a text can have. -/
inductive Settles (text : String) : ServerMessage → Prop
  | answered {q : ClientMessage} {m : ServerMessage} : ClientMessage.ofText text = .ok q →
      Answers q m → Settles text m
  | unreadable {fault : Json.Fault} : ClientMessage.ofText text = .error fault →
      Settles text
        (.error s!"Invalid message format: {fault.message}" (some "INVALID_MESSAGE") none)

theorem Answers.isDirect {q : ClientMessage} {m : ServerMessage} (h : Answers q m) :
    m.isDirect = true := by
  cases h <;> rfl

/-- What a message can bring about: its answer, or what the answer is made of later. -/
def Fits (q : ClientMessage) : Handling → Prop
  | .answered m => Answers q m
  | .started _ => ∃ path content, q = .run path content
  | .writing _ => ∃ data, q = .stdin data

/-- Looking at files is answered at once, with the text that the request was named by and with
nothing else. -/
theorem fits_look {α : Type} {w : Studio} {q : ClientMessage} {id : Option String}
    (hq : q.fileRequest? = some id) (write? : α → Option Json.Value)
    (found : Except Workspace.Error α) : Fits q (w.look id write? found).2 := by
  cases found with
  | error e => exact .fileFailed e hq
  | ok a =>
    simp only [Studio.look, Fits, ServerMessage.ofFileAnswer, ServerMessage.ofFileResult]
    split
    · exact .fileResult _ hq
    · exact .fileUnfit hq

theorem fits_change {w : Studio} {q : ClientMessage} {id : Option String}
    (hq : q.fileRequest? = some id) (changed : Except Workspace.Error FileSystem) :
    Fits q (w.change id changed).2 := by
  cases changed with
  | error e => exact .fileFailed e hq
  | ok files => exact .fileResult .null hq

/-- A request to run a script is answered once: with the start of the run, or with the failure, be
it that the script was not saved or that it was not started. -/
theorem fits_runScript (w : Studio) (ws : Workspace) (fresh : Id) (session : SessionId) (p : Path)
    {path : String} {content content' : Option String} :
    Fits (.run path content) (w.runScript ws fresh session p content').2 := by
  unfold Studio.runScript
  split
  · exact .notSaved _
  · split
    · exact .notSaved _
    · split
      · exact .notStarted _
      · exact ⟨path, content, rfl⟩

theorem fits_beginWrite (w : Studio) (session : SessionId) (data : String) :
    Fits (.stdin data) (w.beginWrite session data).2 := by
  unfold Studio.beginWrite
  split
  · exact ⟨data, rfl⟩
  · exact .stdin false

/-- **Each of the messages brings about what it asks for.**  The answer is of the kind that belongs
to the message and bears the text that the message was named by, whether the request succeeds or
not. -/
theorem fits_handle (w : Studio) (ws : Workspace) (fresh : Id) (session : SessionId)
    (q : ClientMessage) : Fits q (w.handle ws fresh session q).2 := by
  cases q with
  | run path content => exact fits_runScript w ws fresh session (.ofString path)
  | stdin data => exact fits_beginWrite w session data
  | endStdin => exact .endStdin _
  | cancel => exact .cancel _
  | listDirectory path id => exact fits_look rfl _ _
  | tree path depth id => exact fits_look rfl _ _
  | readFile path id => exact fits_look rfl _ _
  | writeFile path content id => exact fits_change rfl _
  | createFile path id => exact fits_change rfl _
  | deletePath path id => exact fits_look (w := w) rfl _ _
  | renamePath source target id => exact fits_change rfl _
  | ping => exact .ping

/-! ## 2. What has been said -/

/-- The answers among messages. -/
def directs (ms : List ServerMessage) : List ServerMessage := ms.filter (·.isDirect)

/-- The answers among what was sent. -/
def answersIn (sent : List Sent) : List ServerMessage := directs (sent.filterMap (·.message?))

/-- The answers that were given: those that were sent, and those that wait. -/
def given (c : Connection) : List ServerMessage := answersIn c.sent ++ directs c.replies

variable {ws : Workspace} {goes : Studio → Studio → Prop}
variable {c c' : Connection} {w w' : Studio} {log : List Move}

theorem directs_append (ms ns : List ServerMessage) :
    directs (ms ++ ns) = directs ms ++ directs ns := by
  simp [directs]

theorem answersIn_concat (sent : List Sent) (m : ServerMessage) :
    answersIn (sent ++ [.message m]) = answersIn sent ++ directs [m] := by
  simp [answersIn, directs, Sent.message?]

theorem given_reply (c : Connection) (m : ServerMessage) :
    (c.reply m).given = c.given ++ directs [m] := by
  simp [given, reply, directs_append]

/-- Sending the next message that waits says nothing new. -/
theorem given_forward {m : ServerMessage} {rest : List ServerMessage} (hr : c.replies = m :: rest) :
    given { c with replies := rest, sent := c.sent ++ [.message m] } = c.given := by
  simp only [given, hr, answersIn_concat, List.append_assoc]
  rw [← directs_append, List.singleton_append]

/-- What is sent past the answers that wait comes behind them if there are none. -/
theorem given_send (hr : directs c.replies = []) (m : ServerMessage) :
    given { c with sent := c.sent ++ [.message m] } = c.given ++ directs [m] := by
  simp only [given, hr, answersIn_concat, List.append_nil]

@[simp] theorem directs_answer {q : ClientMessage} {m : ServerMessage} (h : Answers q m) :
    directs [m] = [m] := by
  simp [directs, h.isDirect]

@[simp] theorem directs_ofEvent (e : Output.Event) : directs [.ofEvent e] = [] := rfl

@[simp] theorem directs_ofResult (run : Id) (r : RunResult) : directs [.ofResult run r] = [] := by
  cases r <;> rfl

/-- A connection that looks for a frame has no answers left to send, and one that waits for a write
has not looked for anything since it took the frame in. -/
structure InTurn (c : Connection) : Prop where
  anew_of_write : ∀ p, c.write = some p → c.look = .output
  directs_of_frames : c.look = .frames → directs c.replies = []

theorem InTurn.of_output (h : c.look = .output) : c.InTurn where
  anew_of_write _ _ := h
  directs_of_frames hl := absurd (h.symm.trans hl) (by simp)

/-- **Answers come to wait only after the connection has started again**, so it looks for them
before it looks for the next frame. -/
theorem InTurn.move {m : Move} (h : c.InTurn) (hm : c.move? ws w m = some (c', w')) :
    c'.InTurn := by
  cases m with
  | forward works => exact .of_output (look_of_forward hm)
  | pass =>
    obtain ⟨hn, -, ⟨-, -, rfl⟩ | ⟨-, hr, rfl⟩ | ⟨-, rfl⟩⟩ := pass_cases hm
    · exact ⟨fun p hp => absurd (hn.symm.trans hp) (by simp), fun hl => absurd hl (by simp)⟩
    · exact ⟨fun p hp => absurd (hn.symm.trans hp) (by simp), fun _ => congrArg directs hr⟩
    · exact .of_output rfl
  | receive frame fresh works => exact .of_output (look_of_receive hm)
  | acknowledge =>
    obtain ⟨p, accepted, hp, -, rfl, -⟩ := acknowledge_cases hm
    exact .of_output (h.anew_of_write p hp)
  | report run =>
    obtain ⟨r, -, rfl, -⟩ := report_cases hm
    refine ⟨h.anew_of_write, fun hl => ?_⟩
    have hnone : directs c.replies = [] := h.directs_of_frames hl
    simp [reply, directs_append, hnone]

/-- The texts are answered one after the other, each by one message, except that the last of them
may ask for a write that is not decided yet. -/
inductive Accounted (texts : List String) (c : Connection) : Prop
  | settled : c.write = none → List.Forall₂ Settles texts c.given → Accounted texts c
  | writing {p : PendingWrite} {before : List String} {text data : String} :
      c.write = some p → texts = before ++ [text] → ClientMessage.ofText text = .ok (.stdin data) →
      List.Forall₂ Settles before c.given → Accounted texts c

namespace Accounted

variable {texts : List String}

theorem forall_given (h : Accounted texts c) (hw : c.write = none) :
    List.Forall₂ Settles texts c.given := by
  cases h with
  | settled _ hall => exact hall
  | writing hp => exact absurd (hw.symm.trans hp) (by simp)

/-- What is not about the answers changes nothing. -/
theorem congr (h : Accounted texts c) (hw : c'.write = c.write) (hg : c'.given = c.given) :
    Accounted texts c' := by
  cases h with
  | settled hn hall => exact .settled (hw.trans hn) (hg ▸ hall)
  | writing hp ht hq hall => exact .writing (hw.trans hp) ht hq (hg ▸ hall)

/-- When no answer waits, all were sent. -/
theorem sent (h : Accounted texts c) (hn : c.write = none) (hr : directs c.replies = []) :
    List.Forall₂ Settles texts (answersIn c.sent) := by
  have hall := h.forall_given hn
  rwa [given, hr, List.append_nil] at hall

theorem concat {before : List String} {ms : List ServerMessage} {text : String} {m : ServerMessage}
    (h : List.Forall₂ Settles before ms) (hs : Settles text m) :
    List.Forall₂ Settles (before ++ [text]) (ms ++ [m]) :=
  List.rel_append h (.cons hs .nil)

/-- A text that comes in is answered at once, or asks for a write. -/
theorem text (h : Accounted texts c) (hn : c.write = none) (hr : directs c.replies = [])
    (fresh : Id) (text : String) :
    Accounted (texts ++ [text]) (c.receive w ws fresh true (.text text)).1 := by
  have hall := h.forall_given hn
  simp only [receive]
  split
  · rename_i q hq
    have hfits := fits_handle w ws fresh c.session q
    cases hh : (w.handle ws fresh c.session q).2 with
    | answered m =>
      rw [hh] at hfits
      refine .settled hn ?_
      rw [note, given_reply, directs_answer hfits]
      exact concat hall (.answered hq hfits)
    | started info =>
      rw [hh] at hfits
      obtain ⟨path, content, rfl⟩ := hfits
      have hanswer : Answers (.run path content) (.runStarted info.id info.script.display) :=
        .runStarted _ _
      refine .settled hn ?_
      rw [note, given_reply, directs_answer hanswer]
      exact concat hall (.answered hq hanswer)
    | writing p =>
      rw [hh] at hfits
      obtain ⟨data, rfl⟩ := hfits
      exact .writing rfl rfl hq hall
  · rename_i fault hq
    refine .settled hn ?_
    simp only [send, if_true]
    rw [given_send hr]
    exact concat hall (.unreadable hq)

/-- **A move keeps the answers in order.**  An answer is put behind those that wait, and those that
wait are sent from the front; nothing else touches them. -/
theorem next {m : Move} (h : Accounted (textsIn log) c) (ht : c.InTurn)
    (hm : c.move? ws w m = some (c', w')) (hworks : m.works = true) :
    Accounted (textsIn (log ++ [m])) c' := by
  cases m with
  | forward works =>
    obtain rfl : works = true := hworks
    rw [textsIn_of_quiet log rfl]
    obtain ⟨-, ⟨e, router, -, -, hc⟩ | ⟨m, rest, -, hr, hc⟩⟩ := forward_cases hm
    · obtain ⟨rfl, -⟩ := Prod.mk.inj hc
      refine h.congr rfl ?_
      rw [given, answersIn_concat, directs_ofEvent, List.append_nil]
      rfl
    · obtain ⟨rfl, -⟩ := Prod.mk.inj hc
      exact h.congr rfl (given_forward hr)
  | pass =>
    rw [textsIn_of_quiet log rfl]
    obtain ⟨-, -, ⟨-, -, rfl⟩ | ⟨-, -, rfl⟩ | ⟨-, rfl⟩⟩ := pass_cases hm
    all_goals exact h.congr rfl rfl
  | receive frame fresh works =>
    obtain rfl : works = true := hworks
    obtain ⟨hlisten, hc⟩ := receive_cases hm
    obtain ⟨-, hn, hl⟩ := isListening_iff.mp hlisten
    obtain rfl : c' = (c.anew.receive w ws fresh true frame).1 := congrArg Prod.fst hc
    have hanew : Accounted (textsIn log) c.anew := h.congr rfl rfl
    cases frame with
    | text text =>
      rw [textsIn_concat]
      exact hanew.text hn (ht.directs_of_frames hl) fresh text
    | binary data =>
      rw [textsIn_of_quiet log rfl]
      exact hanew
    | ping data =>
      rw [textsIn_of_quiet log rfl]
      refine hanew.congr rfl ?_
      simp [receive, given, answersIn, Sent.message?]
    | close =>
      rw [textsIn_of_quiet log rfl]
      exact hanew.congr rfl rfl
  | acknowledge =>
    rw [textsIn_of_quiet log rfl]
    obtain ⟨p, accepted, hp, -, rfl, -⟩ := acknowledge_cases hm
    cases h with
    | settled hn => exact absurd (hn.symm.trans hp) (by simp)
    | @writing _ before text data _ ht hq hall =>
      have hanswer : Answers (.stdin data) (.stdinResult accepted) := .stdin accepted
      refine .settled rfl ?_
      rw [given_reply, directs_answer hanswer, ht]
      exact concat hall (.answered hq hanswer)
  | report run =>
    rw [textsIn_of_quiet log rfl]
    obtain ⟨r, -, rfl, -⟩ := report_cases hm
    refine h.congr rfl ?_
    rw [given_reply, directs_ofResult, List.append_nil]
    rfl

end Accounted

theorem Steps.inTurn {c₀ : Connection} {w₀ : Studio} (h : Steps ws goes c₀ w₀ log c w)
    (h₀ : c₀.InTurn) : c.InTurn := by
  induction h with
  | begin => exact h₀
  | next m _ hm ih => exact ih.move hm
  | meanwhile _ _ ih => exact ih

/-- **The answers are in order at all times.**  What was sent of them and what waits are together
the answers to the messages that came in, in their order. -/
theorem Steps.accounted {c₀ : Connection} {w₀ : Studio} (h : Steps ws goes c₀ w₀ log c w)
    (h₀ : Accounted [] c₀) (ht : c₀.InTurn) (hworks : ∀ m ∈ log, m.works = true) :
    Accounted (textsIn log) c := by
  induction h with
  | begin => exact h₀
  | next m hbefore hm ih =>
    have hnow := ih fun m' hm' => hworks m' (List.mem_append_left _ hm')
    exact hnow.next (hbefore.inTurn ht) hm (hworks m (by simp))
  | meanwhile _ _ ih => exact ih hworks

/-- No text ends a connection. -/
theorem isOpen_text (c : Connection) (w : Studio) (ws : Workspace) (fresh : Id) (text : String) :
    (c.receive w ws fresh true (.text text)).1.isOpen = c.isOpen := by
  simp only [receive]
  split
  · cases (w.handle ws fresh c.session _).2 <;> rfl
  · rfl

/-- A connection that has ended, though everything could be sent, has no answers left to send. -/
theorem Steps.directs_of_closed {c₀ : Connection} {w₀ : Studio} (h : Steps ws goes c₀ w₀ log c w)
    (h₀ : c₀.isOpen = true) (ht : c₀.InTurn) (hworks : ∀ m ∈ log, m.works = true)
    (hc : c.isOpen = false) : c.write = none ∧ directs c.replies = [] := by
  induction h with
  | begin => exact absurd (h₀.symm.trans hc) (by simp)
  | @next log c c' w w' m hbefore hm ih =>
    have hopen := isOpen_of_move hm
    have hm' : m.works = true := hworks m (by simp)
    cases m with
    | forward works =>
      obtain rfl : works = true := hm'
      obtain ⟨-, ⟨e, router, -, -, hout⟩ | ⟨m, rest, -, -, hout⟩⟩ := forward_cases hm
      all_goals
        obtain ⟨rfl, -⟩ := Prod.mk.inj hout
        exact absurd (hopen.symm.trans hc) (by simp)
    | pass =>
      obtain ⟨-, -, ⟨-, -, rfl⟩ | ⟨-, -, rfl⟩ | ⟨-, rfl⟩⟩ := pass_cases hm
      all_goals exact absurd (hopen.symm.trans hc) (by simp)
    | receive frame fresh works =>
      obtain rfl : works = true := hm'
      obtain ⟨hlisten, hrec⟩ := receive_cases hm
      obtain ⟨-, hn, hl⟩ := isListening_iff.mp hlisten
      obtain rfl : c' = (c.anew.receive w ws fresh true frame).1 := congrArg Prod.fst hrec
      cases frame with
      | close => exact ⟨hn, (hbefore.inTurn ht).directs_of_frames hl⟩
      | text text =>
        rw [isOpen_text] at hc
        exact absurd (hopen.symm.trans hc) (by simp)
      | binary data => exact absurd (hopen.symm.trans hc) (by simp)
      | ping data => exact absurd (hopen.symm.trans hc) (by simp)
    | acknowledge =>
      obtain ⟨p, accepted, -, -, rfl, -⟩ := acknowledge_cases hm
      exact absurd (hopen.symm.trans hc) (by simp)
    | report run =>
      obtain ⟨r, -, rfl, -⟩ := report_cases hm
      exact absurd (hopen.symm.trans hc) (by simp)
  | meanwhile _ _ ih => exact ih hworks hc

/-! ## 3. What waits gets sent -/

/-- The number of events that wait in a channel. -/
def pending (r : Output.Router) (i : Nat) : Nat := (r.channels[i]?.map (·.queue.length)).getD 0

/-- Taking an event out of a channel leaves one less to wait there. -/
theorem pending_next {r r' : Output.Router} {i : Nat} {e : Output.Event}
    (h : r.next? i = some (e, r')) : pending r i = pending r' i + 1 := by
  unfold Output.Router.next? at h
  split at h
  · rename_i e' queue hi
    obtain ⟨rfl, rfl⟩ := Prod.mk.inj (Option.some.inj h)
    have hlt : i < r.channels.length := (List.getElem?_eq_some_iff.mp hi).1
    simp only [pending, hi, List.getElem?_set_self hlt, Option.map_some, Option.getD_some,
      List.length_cons]
  · exact absurd h (by simp)

/-- From the beginning of a round, a connection can send what waits until nothing does. -/
theorem drains_anew (ws : Workspace) (goes : Studio → Studio → Prop) (c : Connection) (w : Studio)
    (hopen : c.isOpen = true) (hn : c.write = none) (hl : c.look = .output) :
    ∃ more c' w', Steps ws goes c w more c' w' ∧ (∀ m ∈ more, m.isOwn = true)
      ∧ c'.isIdle w' = true := by
  cases hx : w.bridge.router.next? c.channel with
  | some out =>
    obtain ⟨e, router⟩ := out
    have hm : c.move? ws w (.forward true)
        = some ({ c with sent := c.sent ++ [.message (.ofEvent e)] },
          { w with bridge := { w.bridge with router } }) := by
      simp [move?, hopen, hn, forward?, hl, hx, send]
    have hless : pending router c.channel + c.replies.length
        < pending w.bridge.router c.channel + c.replies.length := by
      rw [pending_next hx]
      omega
    obtain ⟨more, c', w', hmore, hall, hidle⟩ :=
      drains_anew ws goes { c with sent := c.sent ++ [.message (.ofEvent e)] }
        { w with bridge := { w.bridge with router } } hopen hn hl
    exact ⟨_, c', w', (Steps.begin.next _ hm).append hmore,
      List.forall_mem_cons.mpr ⟨rfl, hall⟩, hidle⟩
  | none =>
    have hpass : c.move? ws w .pass = some ({ c with look := .replies }, w) := by
      simp [move?, hopen, hn, pass?, hl, hx]
    have hlooked : Steps ws goes c w [.pass] { c with look := .replies } w :=
      Steps.begin.next _ hpass
    cases hr : c.replies with
    | nil =>
      have hpass' : move? ws { c with look := .replies } w .pass
          = some ({ c with look := .frames }, w) := by
        simp [move?, hopen, hn, pass?, hr]
      refine ⟨_, _, w, hlooked.next _ hpass', by simp [Move.isOwn], ?_⟩
      exact isIdle_iff.mpr ⟨isListening_iff.mpr ⟨hopen, hn, rfl⟩, hr, hx⟩
    | cons m rest =>
      have hm : move? ws { c with look := .replies } w (.forward true)
          = some ({ c.anew with replies := rest, sent := c.sent ++ [.message m] }, w) := by
        simp [move?, hopen, hn, forward?, hr, send, anew]
      have hless : pending w.bridge.router c.channel + rest.length
          < pending w.bridge.router c.channel + c.replies.length := by
        simp [hr]
      obtain ⟨more, c', w', hmore, hall, hidle⟩ :=
        drains_anew ws goes { c.anew with replies := rest, sent := c.sent ++ [.message m] } w hopen
          hn rfl
      exact ⟨_, c', w', (hlooked.next _ hm).append hmore,
        List.forall_mem_cons.mpr ⟨rfl, List.forall_mem_cons.mpr ⟨rfl, hall⟩⟩, hidle⟩
termination_by pending w.bridge.router c.channel + c.replies.length
decreasing_by all_goals exact hless

/-- Wherever a connection looks, it can come to the beginning of a round. -/
theorem starts_again (ws : Workspace) (goes : Studio → Studio → Prop) (hopen : c.isOpen = true)
    (hn : c.write = none) :
    ∃ more c', Steps ws goes c w more c' w ∧ (∀ m ∈ more, m.isOwn = true)
      ∧ c'.isOpen = true ∧ c'.write = none ∧ c'.look = .output := by
  have hframes (c : Connection) (hopen : c.isOpen = true) (hn : c.write = none)
      (hl : c.look = .frames) : c.move? ws w .pass = some (c.anew, w) := by
    simp [move?, hopen, hn, pass?, hl]
  cases hl : c.look with
  | output => exact ⟨[], c, .begin, by simp, hopen, hn, hl⟩
  | replies =>
    cases hr : c.replies with
    | nil =>
      have hpass : c.move? ws w .pass = some ({ c with look := .frames }, w) := by
        simp [move?, hopen, hn, pass?, hl, hr]
      have hpass' := hframes { c with look := .frames } hopen hn rfl
      exact ⟨_, _, (Steps.begin.next _ hpass).next _ hpass', by simp [Move.isOwn], hopen, hn, rfl⟩
    | cons m rest =>
      have hm : c.move? ws w (.forward true)
          = some ({ c.anew with replies := rest, sent := c.sent ++ [.message m] }, w) := by
        simp [move?, hopen, hn, forward?, hl, hr, send, anew]
      exact ⟨_, _, Steps.begin.next _ hm, by simp [Move.isOwn], hopen, hn, rfl⟩
  | frames =>
    exact ⟨_, _, Steps.begin.next _ (hframes c hopen hn hl), by simp [Move.isOwn], hopen, hn, rfl⟩

/-- A connection can send what waits until nothing does. -/
theorem drains (ws : Workspace) (goes : Studio → Studio → Prop) (c : Connection) (w : Studio)
    (hopen : c.isOpen = true) (hn : c.write = none) :
    ∃ more c' w', Steps ws goes c w more c' w' ∧ (∀ m ∈ more, m.isOwn = true)
      ∧ c'.isIdle w' = true := by
  obtain ⟨more, c₁, hmore, hall, hopen₁, hn₁, hl₁⟩ := starts_again (w := w) ws goes hopen hn
  obtain ⟨more', c', w', hmore', hall', hidle⟩ := drains_anew ws goes c₁ w hopen₁ hn₁ hl₁
  exact ⟨_, c', w', hmore.append hmore', List.forall_mem_append.mpr ⟨hall, hall'⟩, hidle⟩

/-- A write whose time is up can be answered. -/
theorem acknowledge_of_deadline (ws : Workspace) {p : PendingWrite} (hopen : c.isOpen = true)
    (hp : c.write = some p) (hup : p.deadline ≤ w.machine.now) :
    ∃ accepted, c.move? ws w .acknowledge
      = some (reply { c with write := none } (.stdinResult accepted), w.giveUp p) := by
  have hverdict : ∃ accepted, w.verdict? p = some accepted := by
    unfold Studio.verdict?
    split
    · exact ⟨_, rfl⟩
    · exact ⟨true, if_pos hup⟩
  obtain ⟨accepted, ha⟩ := hverdict
  exact ⟨accepted, by simp [move?, hopen, acknowledge?, hp, ha]⟩

/-- An open connection can come to the point where nothing waits, with nothing coming in, if the
time of a write that it waits for is up. -/
theorem settles (ws : Workspace) (goes : Studio → Studio → Prop) (hopen : c.isOpen = true)
    (hup : ∀ p, c.write = some p → p.deadline ≤ w.machine.now) :
    ∃ more c' w', Steps ws goes c w more c' w' ∧ (∀ m ∈ more, m.isOwn = true)
      ∧ c'.isIdle w' = true := by
  cases hw : c.write with
  | none => exact drains ws goes c w hopen hw
  | some p =>
    obtain ⟨accepted, hm⟩ := acknowledge_of_deadline ws hopen hw (hup p hw)
    obtain ⟨more, c', w', hmore, hall, hidle⟩ :=
      drains ws goes (reply { c with write := none } (.stdinResult accepted)) (w.giveUp p) hopen rfl
    exact ⟨_, c', w', (Steps.begin.next _ hm).append hmore,
      List.forall_mem_cons.mpr ⟨rfl, hall⟩, hidle⟩

theorem textsIn_of_isOwn {more : List Move} (h : ∀ m ∈ more, m.isOwn = true) :
    textsIn more = [] := by
  refine List.filterMap_eq_nil_iff.mpr fun m hm => ?_
  have hown := h m hm
  cases m with
  | receive frame fresh works => exact absurd hown (by simp [Move.isOwn])
  | _ => rfl

/-- What moves one after the other lead to, while the studio stands still. -/
def play (ws : Workspace) (out : Connection × Studio) : List Move → Option (Connection × Studio)
  | [] => some out
  | m :: rest => (out.1.move? ws out.2 m).bind fun out => play ws out rest

/-- Moves that are played one after the other, with nothing between them, are steps of the
connection with whatever goes on besides. -/
theorem steps_of_play (goes : Studio → Studio → Prop) {out out' : Connection × Studio}
    {log : List Move} (h : play ws out log = some out') :
    Steps ws goes out.1 out.2 log out'.1 out'.2 := by
  induction log generalizing out with
  | nil =>
    obtain rfl := Option.some.inj h
    exact .begin
  | cons m rest ih =>
    obtain ⟨next, hm, hrest⟩ := Option.bind_eq_some_iff.mp h
    exact (Steps.begin.next m hm).append (ih hrest)

/-! ## 4. The whole connection -/

theorem accounted_accept (id : Id) (w : Studio) : Accounted [] (accept id w true).1 :=
  .settled rfl .nil

theorem inTurn_accept (id : Id) (w : Studio) : (accept id w true).1.InTurn := .of_output rfl

/-- **The answers to the texts of a client are sent one for each text, in the order of the texts.**
This holds at all times of a connection on which everything can be sent, whatever its runs and the
rest of the studio do meanwhile; only for a write that is not decided yet the answer is still to
come.  When the connection looks for a frame or has ended, all answers were sent.  So they are when
a text comes that cannot be read: its error is sent at once and overtakes no answer.  Binary frames
bring nothing about; the connection only starts again with its looks.  And without any further frame
an open connection can send all that it owes. -/
theorem answers_in_order {ws : Workspace} {goes : Studio → Studio → Prop} {id : Id} {w₀ : Studio}
    {log : List Move} {c : Connection} {w : Studio}
    (h : Steps ws goes (accept id w₀ true).1 (accept id w₀ true).2 log c w)
    (hworks : ∀ m ∈ log, m.works = true) :
    Accounted (textsIn log) c
      ∧ (c.isListening = true ∨ c.isOpen = false →
          List.Forall₂ Settles (textsIn log) (answersIn c.sent))
      ∧ (∀ text fault fresh c' w', ClientMessage.ofText text = .error fault →
          c.move? ws w (.receive (.text text) fresh true) = some (c', w') →
          List.Forall₂ Settles (textsIn log) (answersIn c.sent)
            ∧ c'.sent = c.sent ++ [.message (.unreadable fault)] ∧ directs c'.replies = [])
      ∧ (∀ data fresh works c' w',
          c.move? ws w (.receive (.binary data) fresh works) = some (c', w') →
          c' = c.anew ∧ w' = w)
      ∧ (c.isOpen = true → (∀ p, c.write = some p → p.deadline ≤ w.machine.now) →
          ∃ more c' w', Steps ws goes c w more c' w' ∧ (∀ m ∈ more, m.isOwn = true)
            ∧ c'.isIdle w' = true ∧ List.Forall₂ Settles (textsIn log) (answersIn c'.sent)) := by
  have hacc := h.accounted (accounted_accept id w₀) (inTurn_accept id w₀) hworks
  have hturn := h.inTurn (inTurn_accept id w₀)
  refine ⟨hacc, ?_, ?_, ?_, ?_⟩
  · rintro (hlisten | hclosed)
    · obtain ⟨-, hn, hl⟩ := isListening_iff.mp hlisten
      exact hacc.sent hn (hturn.directs_of_frames hl)
    · obtain ⟨hn, hr⟩ := h.directs_of_closed rfl (inTurn_accept id w₀) hworks hclosed
      exact hacc.sent hn hr
  · intro text fault fresh c' w' hfault hm
    obtain ⟨hlisten, hc⟩ := receive_cases hm
    obtain ⟨-, hn, hl⟩ := isListening_iff.mp hlisten
    have hr : directs c.replies = [] := hturn.directs_of_frames hl
    obtain rfl : c' = _ := congrArg Prod.fst hc
    refine ⟨hacc.sent hn hr, ?_, ?_⟩
    · simp [receive, hfault, send, anew]
    · simpa [receive, hfault, send, anew] using hr
  · intro data fresh works c' w' hm
    exact Prod.mk.inj (receive_cases hm).2
  · intro hopen hup
    obtain ⟨more, c', w', hmore, hown, hidle⟩ := settles ws goes hopen hup
    refine ⟨more, c', w', hmore, hown, hidle, ?_⟩
    have hall := (h.append hmore).accounted (accounted_accept id w₀) (inTurn_accept id w₀) (by
      intro m hm
      rcases List.mem_append.mp hm with hm | hm
      · exact hworks m hm
      · exact Move.works_of_isOwn (hown m hm))
    rw [textsIn_append, textsIn_of_isOwn hown, List.append_nil] at hall
    obtain ⟨hlisten, hr, -⟩ := isIdle_iff.mp hidle
    exact hall.sent (isListening_iff.mp hlisten).2.1 (congrArg directs hr)

/-- Behind a request comes a text that says nothing: the request is answered before the error for
the text is sent. -/
theorem cancel_before_unreadable :
    ∃ log c w, Steps .unconfined (fun _ _ => True)
        (accept (.ofNat 1) ⟨{ files := .empty }, { settings := {} }, [], 0, []⟩ true).1
        (accept (.ofNat 1) ⟨{ files := .empty }, { settings := {} }, [], 0, []⟩ true).2 log c w
      ∧ textsIn log = ["\x7b\"type\":\"cancel\"\x7d", "no"]
      ∧ List.Forall₂ Settles (textsIn log) (answersIn c.sent)
      ∧ (answersIn c.sent).map (·.word) = ["cancel_result", "error"] := by
  have hplay : (play .unconfined
        (accept (.ofNat 1) ⟨{ files := .empty }, { settings := {} }, [], 0, []⟩ true)
        [.pass, .pass, .receive (.text "\x7b\"type\":\"cancel\"\x7d") .nil true, .pass,
          .forward true, .pass, .pass, .receive (.text "no") .nil true, .pass, .pass]).map
        (fun out => (out.1.isListening, (answersIn out.1.sent).map (·.word)))
      = some (true, ["cancel_result", "error"]) := by
    decide +kernel
  obtain ⟨⟨c, w⟩, hout, heq⟩ := Option.map_eq_some_iff.mp hplay
  obtain ⟨hlisten, hwords⟩ := Prod.mk.inj heq
  have h := steps_of_play (fun _ _ => True) hout
  obtain ⟨-, hsent, -⟩ := answers_in_order h (by decide)
  exact ⟨_, c, w, h, by decide, hsent (.inl hlisten), hwords⟩

end Connection
end Scriptorium
