import Scriptorium.Connection.Progress

/-!
# What happens on a connection

A connection makes its moves, and in between the studio goes on: runs, processes and the clock, and
other clients.  `Connection.Steps` is any stretch of this.  What the studio may do in between is a
parameter, so that what is shown of all stretches holds whatever happens there.

The lemmas of the second part say what each move does to the connection.
-/
namespace Scriptorium

/-! ## 1. Moves one after the other -/

/-- From the connection `c` to the studio `w`, the moves of `log`, oldest first, have led to `c'`
and `w'`; between them the studio has gone on as `goes` lets it. -/
inductive Connection.Steps (ws : Workspace) (goes : Studio → Studio → Prop) (c : Connection)
    (w : Studio) : List Move → Connection → Studio → Prop
  | begin : Steps ws goes c w [] c w
  | next {log : List Move} {c' c'' : Connection} {w' w'' : Studio} (m : Move) :
      Steps ws goes c w log c' w' → c'.move? ws w' m = some (c'', w'') →
      Steps ws goes c w (log ++ [m]) c'' w''
  | meanwhile {log : List Move} {c' : Connection} {w' w'' : Studio} :
      Steps ws goes c w log c' w' → goes w' w'' → Steps ws goes c w log c' w''

/-- Whether what a move sends can be sent. -/
def Move.works : Move → Bool
  | .forward works | .receive _ _ works => works
  | .pass | .acknowledge | .report _ => true

/-- Nothing comes in with the move, and what is sent can be sent. -/
def Move.isOwn : Move → Bool
  | .forward works => works
  | .pass | .acknowledge => true
  | .receive _ _ _ | .report _ => false

theorem Move.works_of_isOwn {m : Move} (h : m.isOwn = true) : m.works = true := by
  cases m with
  | receive frame fresh works => exact absurd h (by simp [isOwn])
  | forward works => exact h
  | _ => rfl

/-- The text that comes in with a move. -/
def Move.text? : Move → Option String
  | .receive (.text s) _ _ => some s
  | _ => none

/-- The texts that a client has sent. -/
def textsIn (log : List Move) : List String := log.filterMap (·.text?)

theorem textsIn_append (log more : List Move) :
    textsIn (log ++ more) = textsIn log ++ textsIn more := by
  simp [textsIn]

theorem textsIn_concat (log : List Move) (m : Move) :
    textsIn (log ++ [m]) = textsIn log ++ m.text?.toList := by
  cases h : m.text? <;> simp [textsIn, h]

theorem textsIn_of_quiet {m : Move} (log : List Move) (h : m.text? = none) :
    textsIn (log ++ [m]) = textsIn log := by
  simp [textsIn_concat, h]

namespace Connection

variable {ws : Workspace} {goes : Studio → Studio → Prop}
variable {c c' : Connection} {w w' : Studio} {log : List Move}

/-- Stretches put together. -/
theorem Steps.append {c'' : Connection} {w'' : Studio} {more : List Move}
    (h : Steps ws goes c w log c' w') (h' : Steps ws goes c' w' more c'' w'') :
    Steps ws goes c w (log ++ more) c'' w'' := by
  induction h' with
  | begin => simpa using h
  | next m _ hm ih =>
    rw [← List.append_assoc]
    exact ih.next m hm
  | meanwhile _ hg ih => exact ih.meanwhile hg

/-! ## 2. What a move does -/

/-- A connection that is closed makes no move. -/
theorem isOpen_of_move {m : Move} (h : c.move? ws w m = some (c', w')) : c.isOpen = true := by
  cases m with
  | forward works =>
    obtain ⟨hc, -⟩ := Option.ite_none_right_eq_some.mp h
    exact (Bool.and_eq_true_iff.mp hc).1
  | pass =>
    obtain ⟨hc, -⟩ := Option.ite_none_right_eq_some.mp h
    exact (Bool.and_eq_true_iff.mp hc).1
  | receive frame fresh works =>
    obtain ⟨hc, -⟩ := Option.ite_none_right_eq_some.mp h
    simp only [isListening, Bool.and_eq_true] at hc
    exact hc.1.1
  | acknowledge => exact (Option.ite_none_right_eq_some.mp h).1
  | report run => exact (Option.ite_none_right_eq_some.mp h).1

/-- What is found is sent, and the connection starts again.  Only the place where it looks matters:
answers may be sent while output has come in. -/
theorem forward_cases {works : Bool} (h : c.move? ws w (.forward works) = some (c', w')) :
    c.write = none
      ∧ ((∃ e router, c.look = .output ∧ w.bridge.router.next? c.channel = some (e, router)
          ∧ (c', w') = c.send { w with bridge := { w.bridge with router } } works
            (.message (.ofEvent e)))
        ∨ ∃ m rest, c.look = .replies ∧ c.replies = m :: rest
          ∧ (c', w') = send { c.anew with replies := rest } w works (.message m)) := by
  obtain ⟨hc, h⟩ := Option.ite_none_right_eq_some.mp h
  refine ⟨Option.isNone_iff_eq_none.mp (Bool.and_eq_true_iff.mp hc).2, ?_⟩
  unfold forward? at h
  split at h
  · rename_i hl
    split at h
    · rename_i e router hn
      exact .inl ⟨e, router, hl, hn, (Option.some.inj h).symm⟩
    · exact absurd h (by simp)
  · rename_i hl
    split at h
    · rename_i m rest hr
      exact .inr ⟨m, rest, hl, hr, (Option.some.inj h).symm⟩
    · exact absurd h (by simp)
  · exact absurd h (by simp)

/-- Where a look finds nothing, the next one is taken. -/
theorem pass_cases (h : c.move? ws w .pass = some (c', w')) :
    c.write = none ∧ w' = w
      ∧ ((c.look = .output ∧ w.bridge.router.next? c.channel = none
          ∧ c' = { c with look := .replies })
        ∨ (c.look = .replies ∧ c.replies = [] ∧ c' = { c with look := .frames })
        ∨ (c.look = .frames ∧ c' = c.anew)) := by
  obtain ⟨hc, h⟩ := Option.ite_none_right_eq_some.mp h
  obtain ⟨out, hpass, hout⟩ := Option.map_eq_some_iff.mp h
  obtain ⟨rfl, rfl⟩ := Prod.mk.inj hout
  refine ⟨Option.isNone_iff_eq_none.mp (Bool.and_eq_true_iff.mp hc).2, rfl, ?_⟩
  unfold pass? at hpass
  split at hpass
  · rename_i hl
    obtain ⟨hn, hpass⟩ := Option.ite_none_right_eq_some.mp hpass
    exact .inl ⟨hl, Option.isNone_iff_eq_none.mp hn, (Option.some.inj hpass).symm⟩
  · rename_i hl
    obtain ⟨hr, hpass⟩ := Option.ite_none_right_eq_some.mp hpass
    exact .inr (.inl ⟨hl, List.isEmpty_iff.mp hr, (Option.some.inj hpass).symm⟩)
  · rename_i hl
    exact .inr (.inr ⟨hl, (Option.some.inj hpass).symm⟩)

@[simp] theorem session_anew (c : Connection) : c.anew.session = c.session := rfl

theorem isListening_iff :
    c.isListening = true ↔ c.isOpen = true ∧ c.write = none ∧ c.look = .frames := by
  simp [isListening, and_assoc]

theorem isIdle_iff :
    c.isIdle w = true ↔ c.isListening = true ∧ c.replies = []
      ∧ w.bridge.router.next? c.channel = none := by
  simp [isIdle, and_assoc]

/-- A frame is taken in when the connection looks for one, and then it starts again. -/
theorem receive_cases {frame : Frame} {fresh : Id} {works : Bool}
    (h : c.move? ws w (.receive frame fresh works) = some (c', w')) :
    c.isListening = true ∧ (c', w') = c.anew.receive w ws fresh works frame := by
  obtain ⟨hc, h⟩ := Option.ite_none_right_eq_some.mp h
  exact ⟨hc, (Option.some.inj h).symm⟩

theorem look_send (c : Connection) (w : Studio) (works : Bool) (s : Sent) :
    (c.send w works s).1.look = c.look := by
  cases works <;> rfl

/-- A frame is received at the end of a round, so it does not change where the connection looks
next. -/
theorem look_receive (c : Connection) (w : Studio) (fresh : Id) (works : Bool) (frame : Frame) :
    (c.receive w ws fresh works frame).1.look = c.look := by
  cases frame with
  | text s =>
    simp only [receive]
    split
    · cases (w.handle ws fresh c.session _).2 <;> rfl
    · exact look_send c w works _
  | ping data => cases works <;> rfl
  | binary data => rfl
  | close => rfl

/-- A connection that has found something starts again. -/
theorem look_of_forward {works : Bool} (h : c.move? ws w (.forward works) = some (c', w')) :
    c'.look = .output := by
  obtain ⟨-, ⟨e, router, hl, -, hc⟩ | ⟨m, rest, -, -, hc⟩⟩ := forward_cases h
  · obtain rfl : c' = _ := congrArg Prod.fst hc
    exact (look_send c _ works _).trans hl
  · obtain rfl : c' = _ := congrArg Prod.fst hc
    exact look_send { c.anew with replies := rest } w works _

theorem look_of_receive {frame : Frame} {fresh : Id} {works : Bool}
    (h : c.move? ws w (.receive frame fresh works) = some (c', w')) : c'.look = .output := by
  obtain ⟨-, hc⟩ := receive_cases h
  obtain rfl : c' = _ := congrArg Prod.fst hc
  exact look_receive c.anew w fresh works frame

/-- What comes of a write becomes an answer. -/
theorem acknowledge_cases (h : c.move? ws w .acknowledge = some (c', w')) :
    ∃ p accepted, c.write = some p ∧ w.verdict? p = some accepted
      ∧ c' = reply { c with write := none } (.stdinResult accepted) ∧ w' = w.giveUp p := by
  obtain ⟨-, h⟩ := Option.ite_none_right_eq_some.mp h
  obtain ⟨p, hp, h⟩ := Option.bind_eq_some_iff.mp h
  obtain ⟨accepted, ha, h⟩ := Option.bind_eq_some_iff.mp h
  obtain ⟨rfl, rfl⟩ := Prod.mk.inj (Option.some.inj h)
  exact ⟨p, accepted, hp, ha, rfl, rfl⟩

/-- The end of a run is put behind the answers that wait. -/
theorem report_cases {run : Id} (h : c.move? ws w (.report run) = some (c', w')) :
    ∃ r, w.bridge.result? run = some r
      ∧ c' = reply { c with watched := c.watched.erase run } (.ofResult run r) ∧ w' = w := by
  obtain ⟨-, h⟩ := Option.ite_none_right_eq_some.mp h
  obtain ⟨-, h⟩ := Option.ite_none_right_eq_some.mp h
  obtain ⟨r, hr, h⟩ := Option.map_eq_some_iff.mp h
  obtain ⟨rfl, rfl⟩ := Prod.mk.inj h
  exact ⟨r, hr, rfl, rfl⟩

end Connection
end Scriptorium
