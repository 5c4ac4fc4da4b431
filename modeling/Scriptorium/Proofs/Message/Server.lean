import Mathlib.Data.List.Forall2
import Scriptorium.Connection.Requests
import Scriptorium.Proofs.Json.Floatless
import Scriptorium.Proofs.Run.Id

/-!
# What a client can read

The members of a message show its type and then each of its fields (`ServerMessage.Says`): a text
as it is, a number in full, a missing field as `null`, an identifier in its hyphenated form, and
the result of a file request with the members of its objects in order.  `read_back` proves that
the text of a message is one object with these members and holds no control character, so that
nothing of a message is lost on the way.

This needs the numbers of a message to be whole and in range (`Sendable`), which those of an answer
to a client always are (`answersSendable_handle`).  Results are the same if they are when brought
in order (`settled`).
-/
namespace Scriptorium.ServerMessage

open Json Json.Reader Run

variable {m m' : ServerMessage} {ms : List (String × Value)}

/-! ## 1. Messages that can be sent -/

/-- The numbers of a message are whole and in range. -/
def Sendable : ServerMessage → Prop
  | .runFinished o => (∀ code, o.exitCode = some code → IsWhole code) ∧ IsWhole o.durationMs
  | .fileResult _ result => result.Floatless
  | _ => True

/-- A message with the members of its result in order. -/
def settled : ServerMessage → ServerMessage
  | .fileResult requestId result => .fileResult requestId result.sorted
  | m => m

/-- The members of the result of a message are in order, no name being repeated. -/
def InOrder : ServerMessage → Prop
  | .fileResult _ result => result.Ordered
  | _ => True

theorem InOrder.settled_eq (h : m.InOrder) : m.settled = m := by
  cases m with
  | fileResult requestId result => exact congrArg (ServerMessage.fileResult requestId) h.sorted_eq
  | _ => rfl

theorem floatless_optional (s : Option String) : (Value.optional s).Floatless := by
  cases s with
  | none => exact .null
  | some s => exact .string s

/-- A message whose numbers are whole and in range is written with no other numbers, whatever it
tells. -/
theorem Sendable.floatless (h : m.Sendable) : m.toJson.Floatless := by
  refine .object fun x hx => ?_
  rcases List.mem_cons.mp hx with rfl | hx
  · exact .string _
  cases m with
  | pong => simp [members] at hx
  | connected session | runStarted run path | output run stream data | stdinResult accepted
  | cancelResult cancelled =>
    simp only [members, List.mem_cons, List.not_mem_nil, or_false] at hx
    rcases hx with rfl | rfl | rfl <;> constructor
  | runFinished o =>
    obtain ⟨hcode, hduration⟩ := h
    simp only [members, Outcome.members, List.mem_cons, List.not_mem_nil, or_false] at hx
    rcases hx with rfl | rfl | rfl | rfl | rfl | rfl
    · exact .string _
    · cases hexit : o.exitCode with
      | none => exact .null
      | some code => exact .whole (hcode code hexit)
    · exact .string _
    · exact .string _
    · exact .string _
    · exact .whole hduration
  | runFailed run message code =>
    simp only [members, List.mem_cons, List.not_mem_nil, or_false] at hx
    rcases hx with rfl | rfl | rfl
    · exact floatless_optional _
    · exact .string _
    · exact .string _
  | fileResult requestId result =>
    simp only [members, List.mem_cons, List.not_mem_nil, or_false] at hx
    rcases hx with rfl | rfl
    · exact floatless_optional _
    · exact Value.Floatless.sorted h
  | error message code requestId =>
    simp only [members, List.mem_cons, List.not_mem_nil, or_false] at hx
    rcases hx with rfl | rfl | rfl
    · exact .string _
    · exact floatless_optional _
    · exact floatless_optional _

/-! ## 2. What the server answers -/

section Files

open Workspace

variable {e : Entry} {v : Value}

theorem floatless_of_members? (h : e.members? = some ms) : ∀ x ∈ ms, x.2.Floatless := by
  obtain ⟨path, -, rfl⟩ := Option.map_eq_some_iff.mp h
  intro x hx
  simp only [List.mem_cons, List.not_mem_nil, or_false] at hx
  rcases hx with rfl | rfl | rfl
  · exact .string _
  · exact .string _
  · exact .bool _

/-- What comes of the items of a list comes of one of them. -/
theorem exists_of_mem_mapM {α β : Type} {f : α → Option β} {xs : List α} {ys : List β}
    (h : xs.mapM f = some ys) : ∀ y ∈ ys, ∃ x ∈ xs, f x = some y := by
  induction xs generalizing ys with
  | nil =>
    obtain rfl := Option.some.inj h
    simp
  | cons x xs ih =>
    rw [List.mapM_cons] at h
    obtain ⟨y, hy, h⟩ := Option.bind_eq_some_iff.mp h
    obtain ⟨zs, hzs, h⟩ := Option.bind_eq_some_iff.mp h
    obtain rfl := Option.some.inj h
    intro z hz
    rcases List.mem_cons.mp hz with rfl | hz
    · exact ⟨x, List.mem_cons_self, hy⟩
    · obtain ⟨w, hw, heq⟩ := ih hzs z hz
      exact ⟨w, List.mem_cons_of_mem _ hw, heq⟩

theorem floatless_of_entries {es : List Entry} (h : entriesToJson? es = some v) : v.Floatless := by
  obtain ⟨vs, hvs, rfl⟩ := Option.map_eq_some_iff.mp h
  refine .array fun v hv => ?_
  obtain ⟨e, -, he⟩ := exists_of_mem_mapM hvs v hv
  obtain ⟨ms, hms, rfl⟩ := Option.map_eq_some_iff.mp he
  exact .object (floatless_of_members? hms)

mutual

/-- A node of a tree is written with texts and truth values only, on every level. -/
theorem floatless_of_node : ∀ (t : TreeNode) {v : Value}, t.toJson? = some v → v.Floatless
  | .node e children, v, h => by
    rw [TreeNode.toJson?] at h
    obtain ⟨ms, hms, h⟩ := Option.bind_eq_some_iff.mp h
    obtain ⟨vs, hvs, h⟩ := Option.bind_eq_some_iff.mp h
    obtain rfl := Option.some.inj h
    refine .object fun x hx => ?_
    rcases List.mem_append.mp hx with hx | hx
    · exact floatless_of_members? hms x hx
    · obtain rfl := List.mem_singleton.mp hx
      exact .array (floatless_of_nodes children hvs)

/-- The nodes of a tree are written with texts and truth values only. -/
theorem floatless_of_nodes : ∀ (ts : List TreeNode) {vs : List Value}, nodesToJson? ts = some vs →
    ∀ v ∈ vs, v.Floatless
  | [], vs, h => by
    rw [nodesToJson?] at h
    obtain rfl := Option.some.inj h
    simp
  | t :: ts, vs, h => by
    rw [nodesToJson?] at h
    obtain ⟨w, hw, h⟩ := Option.bind_eq_some_iff.mp h
    obtain ⟨ws, hws, h⟩ := Option.bind_eq_some_iff.mp h
    obtain rfl := Option.some.inj h
    intro v hv
    rcases List.mem_cons.mp hv with rfl | hv
    · exact floatless_of_node t hw
    · exact floatless_of_nodes ts hws v hv

end

/-- The answer to a request for files can be sent, whether it tells of a failure or of what was
found. -/
theorem sendable_ofFileAnswer {α : Type} {requestId : Option String} {write? : α → Option Value}
    (hwrite : ∀ a v, write? a = some v → v.Floatless) (found : Except Workspace.Error α) :
    (ofFileAnswer requestId write? found).Sendable := by
  cases found with
  | error e => trivial
  | ok a =>
    rw [ofFileAnswer]
    cases hw : write? a with
    | none => trivial
    | some v => exact hwrite a v hw

/-- What is answered at once can be sent. -/
def AnswersSendable (handled : Studio × Handling) : Prop :=
  ∀ m, handled.2 = .answered m → m.Sendable

theorem answersSendable_answered (w : Studio) (h : m.Sendable) :
    AnswersSendable (w, .answered m) := by
  intro m' hm
  obtain rfl := Handling.answered.inj hm
  exact h

theorem answersSendable_change (w : Studio) (requestId : Option String)
    (changed : Except Workspace.Error FileSystem) :
    AnswersSendable (w.change requestId changed) := by
  cases changed with
  | ok files => exact answersSendable_answered (w.withFiles files) Value.Floatless.null
  | error e => exact answersSendable_answered (m := .ofFileError requestId e) w trivial

/-- What is answered at once to a request to run a script can be sent: the start of the run, or why
there is none. -/
theorem answersSendable_runScript (w : Studio) (ws : Workspace) (fresh : Id) (session : SessionId)
    (p : Path) (content : Option String) :
    AnswersSendable (w.runScript ws fresh session p content) := by
  rw [Studio.runScript]
  split
  · exact answersSendable_answered (m := .ofScriptError _) w trivial
  · split
    · exact answersSendable_answered (m := .ofScriptError _) w trivial
    · split
      · exact answersSendable_answered (m := .ofRunError none _) w trivial
      · intro m hm
        nomatch hm

theorem answersSendable_beginWrite (w : Studio) (session : SessionId) (data : String) :
    AnswersSendable (w.beginWrite session data) := by
  rw [Studio.beginWrite]
  split
  · intro m hm
    nomatch hm
  · exact answersSendable_answered (m := .stdinResult false) _ trivial

/-- **Whatever a client asks for, the answer can be sent.**  No float gets into an answer, and no
number out of range, so what is shown of sendable messages holds of all that is answered at once. -/
theorem answersSendable_handle (w : Studio) (ws : Workspace) (fresh : Id) (session : SessionId)
    (q : ClientMessage) : AnswersSendable (w.handle ws fresh session q) := by
  cases q with
  | run path content => exact answersSendable_runScript w ws fresh session (.ofString path) content
  | stdin data => exact answersSendable_beginWrite w session data
  | endStdin => exact answersSendable_answered (m := .stdinResult _) _ trivial
  | cancel => exact answersSendable_answered (m := .cancelResult _) _ trivial
  | listDirectory path id =>
    exact answersSendable_answered w (sendable_ofFileAnswer (fun _ _ => floatless_of_entries) _)
  | tree path depth id =>
    refine answersSendable_answered w (sendable_ofFileAnswer (fun nodes v hv => ?_) _)
    obtain ⟨vs, hvs, rfl⟩ := Option.map_eq_some_iff.mp hv
    exact .array (floatless_of_nodes nodes hvs)
  | readFile path id =>
    refine answersSendable_answered w (sendable_ofFileAnswer (fun text v hv => ?_) _)
    obtain rfl := Option.some.inj hv
    exact .string text
  | writeFile path content id => exact answersSendable_change w id _
  | createFile path id => exact answersSendable_change w id _
  | deletePath path id =>
    refine answersSendable_answered _ (sendable_ofFileAnswer (fun _ v hv => ?_) _)
    obtain rfl := Option.some.inj hv
    exact .null
  | renamePath source target id => exact answersSendable_change w id _
  | ping => exact answersSendable_answered (m := .pong) w trivial

end Files

/-! ## 3. What members say -/

/-- The members of an object say a message. -/
inductive Says : ServerMessage → List (String × Value) → Prop
  | connected {session : Id} {s : String} : session.Hyphenated s →
      Says (.connected session) [("type", .string "connected"), ("session_id", .string s)]
  | runStarted {run : Id} {r : String} (path : String) : run.Hyphenated r →
      Says (.runStarted run path)
        [("type", .string "run_started"), ("run_id", .string r), ("path", .string path)]
  | output {run : Id} {r : String} (stream : Stream) (data : String) : run.Hyphenated r →
      Says (.output run stream data)
        [("type", .string "output"), ("run_id", .string r), ("stream", .string stream.word),
          ("data", .string data)]
  | runFinished {o : Outcome} {r : String} : o.runId.Hyphenated r →
      Says (.runFinished o)
        [("type", .string "run_finished"), ("run_id", .string r),
          ("exit_code", Outcome.optionalWhole o.exitCode), ("stdout", .string o.stdout),
          ("stderr", .string o.stderr), ("termination", .string o.termination.word),
          ("duration_ms", .whole o.durationMs)]
  | runFailed {run : Option Id} {r : Option String} (message code : String) :
      Option.Rel Id.Hyphenated run r →
      Says (.runFailed run message code)
        [("type", .string "run_failed"), ("run_id", .optional r), ("message", .string message),
          ("code", .string code)]
  | stdinResult (accepted : Bool) :
      Says (.stdinResult accepted)
        [("type", .string "stdin_result"), ("accepted", .bool accepted)]
  | cancelResult (cancelled : Bool) :
      Says (.cancelResult cancelled)
        [("type", .string "cancel_result"), ("cancelled", .bool cancelled)]
  | fileResult (requestId : Option String) (result : Value) :
      Says (.fileResult requestId result)
        [("type", .string "file_result"), ("request_id", .optional requestId),
          ("result", result.sorted)]
  | error (message : String) (code requestId : Option String) :
      Says (.error message code requestId)
        [("type", .string "error"), ("message", .string message), ("code", .optional code),
          ("request_id", .optional requestId)]
  | pong : Says .pong [("type", .string "pong")]

/-- The members that a message is written as say just what the message does. -/
theorem says_members (m : ServerMessage) : m.Says (("type", .string m.word) :: m.members) := by
  cases m with
  | connected session => exact .connected session.hyphenated_text
  | runStarted run path => exact .runStarted path run.hyphenated_text
  | output run stream data => exact .output stream data run.hyphenated_text
  | runFinished o => exact .runFinished o.runId.hyphenated_text
  | runFailed run message code =>
    refine .runFailed message code ?_
    cases run with
    | none => exact .none
    | some run => exact .some run.hyphenated_text
  | stdinResult accepted => exact .stdinResult accepted
  | cancelResult cancelled => exact .cancelResult cancelled
  | fileResult requestId result => exact .fileResult requestId result
  | error message code requestId => exact .error message code requestId
  | pong => exact .pong

theorem Says.type_eq (h : m.Says ms) : ms.head? = some ("type", .string m.word) := by
  cases h <;> rfl

theorem optional_inj {s t : Option String} (h : Value.optional s = .optional t) : s = t := by
  cases s <;> cases t <;> simp_all [Value.optional]

theorem optionalWhole_inj {i j : Option Int}
    (h : Outcome.optionalWhole i = Outcome.optionalWhole j) : i = j := by
  cases i <;> cases j <;> simp_all [Outcome.optionalWhole, Value.whole]

theorem stream_word_inj {s t : Stream} (h : s.word = t.word) : s = t := by
  cases s <;> cases t <;> first | rfl | exact absurd h (by decide)

theorem termination_word_inj {s t : Termination} (h : s.word = t.word) : s = t := by
  cases s <;> cases t <;> first | rfl | exact absurd h (by decide)

theorem Says.word_eq (h : m.Says ms) (h' : m'.Says ms) : m.word = m'.word := by
  have htype := h.type_eq.symm.trans h'.type_eq
  simpa using htype

/-- **Members say one message**, but for the order within its result. -/
theorem Says.settled_eq (h : m.Says ms) (h' : m'.Says ms) : m.settled = m'.settled := by
  have hword := h.word_eq h'
  generalize hms : ms = ms' at h'
  -- the words tell the ten kinds apart, and of one kind the members are compared one by one
  cases h <;> cases h' <;> simp only [word, String.reduceEq] at hword <;>
    simp only [List.cons.injEq, Prod.mk.injEq, Value.string.injEq, Value.bool.injEq, true_and,
      and_true] at hms
  case connected.connected hid _ _ hid' =>
    subst hms
    rw [hid.unique hid']
  case runStarted.runStarted hid _ _ _ hid' =>
    obtain ⟨rfl, rfl⟩ := hms
    rw [hid.unique hid']
  case output.output hid _ _ _ _ hid' =>
    obtain ⟨rfl, hstream, rfl⟩ := hms
    rw [hid.unique hid', stream_word_inj hstream]
  case runFinished.runFinished o _ hid o' _ hid' =>
    obtain ⟨rfl, hcode, hstdout, hstderr, htermination, hduration⟩ := hms
    have hrun := hid.unique hid'
    have hexit := optionalWhole_inj hcode
    have hend := termination_word_inj htermination
    have hlast : o.durationMs = o'.durationMs := by
      simp only [Value.whole, Value.number.injEq, Number.whole.injEq] at hduration
      omega
    have houtcome : o = o' := by
      cases o
      cases o'
      rw [Outcome.mk.injEq]
      exact ⟨hrun, hexit, hstdout, hstderr, hend, hlast⟩
    rw [houtcome]
  case runFailed.runFailed hid _ _ _ _ hid' =>
    obtain ⟨hrun, rfl, rfl⟩ := hms
    obtain rfl := optional_inj hrun
    rw [Id.eq_of_rel_hyphenated hid hid']
  case stdinResult.stdinResult => rw [hms]
  case cancelResult.cancelResult => rw [hms]
  case fileResult.fileResult =>
    obtain ⟨hid, hresult⟩ := hms
    simp only [settled, optional_inj hid, hresult]
  case error.error =>
    obtain ⟨rfl, hcode, hid⟩ := hms
    rw [optional_inj hcode, optional_inj hid]
  case pong.pong => rfl

/-! ## 4. Texts -/

/-- **What is sent is read back.**  The text of a message has no raw control characters, so it stays
on one line, and a reader that goes deep enough finds in it just the members that the message says.
Two messages with the same text are the same, but for the order of the members within a result,
which a client never sees. -/
theorem read_back (m : ServerMessage) (h : m.Sendable) :
    (∀ x ∈ m.text.toList, 0x20 ≤ x.toNat)
      ∧ (∃ ms, m.Says ms ∧ ∀ d, (Value.object ms).nesting < d →
          parseWithin d m.text = .ok (.object ms))
      ∧ ∀ m' : ServerMessage, m'.Sendable → m'.text = m.text →
          m'.settled = m.settled ∧ (m'.InOrder → m.InOrder → m' = m) := by
  refine ⟨?_, ⟨_, m.says_members, fun d hd => h.floatless.parseWithin_render hd⟩, ?_⟩
  · rw [text, Value.render, String.toList_ofList]
    exact h.floatless.printable
  · intro m' h' htext
    have hsame := h'.floatless.render_inj h.floatless htext
    have hmembers :
        ("type", .string m'.word) :: m'.members = ("type", .string m.word) :: m.members :=
      Value.object.inj hsame
    have hsays := m.says_members
    rw [← hmembers] at hsays
    have hsettled := m'.says_members.settled_eq hsays
    refine ⟨hsettled, fun horder' horder => ?_⟩
    rwa [horder'.settled_eq, horder.settled_eq] at hsettled

/-- The members of an entry are sent in order, and the characters of its name that are written with
a backslash come back. -/
theorem tree_read_back :
    let entry := [("name", .string "\"\x01"), ("path", .string "/ض\\"),
      ("is_directory", .bool true), ("children", .array [.object [("size", .whole (-1))]])]
    let m : ServerMessage := .fileResult (some "\n") (.array [.object entry])
    m.Sendable
      ∧ m.text = "\x7b\"type\":\"file_result\",\"request_id\":\"\\n\",\"result\":[\x7b\"children\":"
          ++ "[\x7b\"size\":-1\x7d],\"is_directory\":true,\"name\":\"\\\"\\u0001\","
          ++ "\"path\":\"/ض\\\\\"\x7d]\x7d"
      ∧ parse m.text = .ok (.object [("type", .string "file_result"), ("request_id", .string "\n"),
          ("result", .array [.object [("children", .array [.object [("size", .whole (-1))]]),
            ("is_directory", .bool true), ("name", .string "\"\x01"),
            ("path", .string "/ض\\")]])]) := by
  intro entry m
  have hsend : m.Sendable := by
    refine .array fun v hv => ?_
    obtain rfl := List.mem_singleton.mp hv
    refine .object fun x hx => ?_
    simp only [entry, List.mem_cons, List.not_mem_nil, or_false] at hx
    rcases hx with rfl | rfl | rfl | rfl
    · exact .string _
    · exact .string _
    · exact .bool _
    · refine .array fun v hv => ?_
      obtain rfl := List.mem_singleton.mp hv
      refine .object fun x hx => ?_
      obtain rfl := List.mem_singleton.mp hx
      exact .whole ⟨by decide, by decide⟩
  have hsorted : (Value.array [.object entry]).sorted
      = .array [.object [("children", .array [.object [("size", .whole (-1))]]),
        ("is_directory", .bool true), ("name", .string "\"\x01"), ("path", .string "/ض\\")]] := by
    cbv
  obtain ⟨-, ⟨ms, hsays, hread⟩, -⟩ :=
    read_back (.fileResult (some "\n") (.array [.object entry])) hsend
  refine ⟨hsend, by decide +kernel, ?_⟩
  cases hsays
  have hparse := hread maxDepth (by rw [hsorted]; decide)
  rwa [hsorted] at hparse

end Scriptorium.ServerMessage
