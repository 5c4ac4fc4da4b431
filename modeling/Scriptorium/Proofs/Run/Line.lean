import Scriptorium.Proofs.Run.Steps

/-!
# Callers and the writer of a run

Several callers may write to the input of a run at the same time, or end it, while the writer works
through the queue and the run may come to its end at any moment.  A caller does not do its errand at
once: it takes hold of the input, adds its write, waits for the fate of the write, and lets go of
the input, and between any two of these everybody else may go on.  So a caller who has hold of the
input can add a write long after another has ended it, and the answer to a write may be known before
the queue is closed.

`Line.Step` is one such part of an errand, or one step of the writer, and `Line.History` any number
of them from the start of a run.  `Line.Fed` says where the bytes that were added are at one moment:
the pipe has taken the writes in their order, the last of them perhaps in part, and the others wait.
It holds at every moment (`Line.History.accounted`), and when the writer stops, for whatever reason,
the pipe takes nothing more (`Line.Steps.fed_of_halted`).
-/
namespace Scriptorium.Run

/-! ## 1. Errands -/

/-- What a caller who has hold of the input of a run is about. -/
inductive Errand where
  /-- It is about to add a write. -/
  | adding (data : Bytes)
  /-- It has added a write, and waits for the fate of it. -/
  | waiting (write : Nat)
  /-- It has taken the input from the session, and is about to look whether it is still open. -/
  | ending
  /-- It has its answer, and is about to let go of the input. -/
  | leaving (answer : Bool)
  deriving DecidableEq, Repr

/-- The answer can only be that there is no input, if the queue is closed. -/
def Errand.isVain : Errand → Bool
  | .adding _ | .ending => true
  | .leaving answer => !answer
  | .waiting _ => false

/-- A caller, by the number that it came with. -/
structure Caller where
  number : Nat
  errand : Errand
  deriving DecidableEq, Repr

/-- The input of a run, with those who have hold of it. -/
structure Line where
  writer : Writer := {}
  callers : List Caller := []
  /-- How many callers have come so far. -/
  came : Nat := 0
  /-- Whether the run is over. -/
  isOver : Bool := false
  /-- Whether the writer has stopped; its queue may be open for a moment after that. -/
  halted : Bool := false
  deriving DecidableEq, Repr

namespace Line

/-- What happens on a line. -/
inductive Act where
  /-- A caller takes hold of the input. -/
  | came (caller : Nat)
  | added (data : Bytes)
  /-- A caller lets go of the input with its answer. -/
  | answered (caller : Nat) (answer : Bool)
  /-- The pipe takes something. -/
  | passed (bytes : Bytes)
  /-- The pipe does not take the rest of a write. -/
  | refused
  /-- The writer sends the end of the input. -/
  | inputEnded
  | runEnded
  /-- The writer learns that the run is over. -/
  | learned
  /-- Something else happens. -/
  | aside
  deriving DecidableEq, Repr

/-- The writer stops. -/
def Act.halts : Act → Bool
  | .refused | .inputEnded | .learned => true
  | .came _ | .added _ | .answered _ _ | .passed _ | .runEnded | .aside => false

/-- What is added. -/
def Act.added? : Act → Option Bytes
  | .added data => some data
  | _ => none

/-- What the pipe takes. -/
def Act.taken : Act → Bytes
  | .passed bytes => bytes
  | _ => []

/-- The fate of a write, if it is known.  A stopped writer lets go of the write under way before it
closes the queue. -/
def fate? (l : Line) (write : Nat) : Option Bool :=
  match l.writer.fate? write with
  | some accepted => some accepted
  | none => if l.halted && l.writer.current.any (·.number == write) then some false else none

/-- A caller takes hold of the input. -/
def hold (l : Line) (errand : Errand) : Line :=
  { l with
    writer := { l.writer with callers := l.writer.callers + 1 }
    callers := l.callers ++ [⟨l.came, errand⟩]
    came := l.came + 1 }

/-- One of the callers lets go of the input, and these are left. -/
def letGo (l : Line) (rest : List Caller) : Line :=
  { l with writer := { l.writer with callers := l.writer.callers - 1 }, callers := rest }

/-- The input can no longer be reached through the session. -/
def detach (l : Line) : Line := { l with writer := { l.writer with attached := false } }

/-- One part of an errand, or one step of the writer. -/
inductive Step (l : Line) : Act → Line → Prop
  | write (data : Bytes) : l.writer.attached = true →
      Step l (.came l.came) (l.hold (.adding data))
  | endInput : l.writer.attached = true → Step l (.came l.came) (l.hold .ending).detach
  | add {before after : List Caller} {k n : Nat} {data : Bytes} {w : Writer} :
      l.callers = before ++ ⟨k, .adding data⟩ :: after → l.writer.add data = (w, some n) →
      Step l (.added data) { l with writer := w, callers := before ++ ⟨k, .waiting n⟩ :: after }
  | addNot {before after : List Caller} {k : Nat} {data : Bytes} :
      l.callers = before ++ ⟨k, .adding data⟩ :: after → l.writer.isOpen = false →
      Step l .aside { l with callers := before ++ ⟨k, .leaving false⟩ :: after }
  | hear {before after : List Caller} {k n : Nat} {accepted : Bool} :
      l.callers = before ++ ⟨k, .waiting n⟩ :: after → l.fate? n = some accepted →
      Step l .aside { l with callers := before ++ ⟨k, .leaving accepted⟩ :: after }
  /-- A write that is not decided in time counts as accepted. -/
  | timeUp {before after : List Caller} {k n : Nat} :
      l.callers = before ++ ⟨k, .waiting n⟩ :: after →
      Step l .aside { l with callers := before ++ ⟨k, .leaving true⟩ :: after }
  | look {before after : List Caller} {k : Nat} :
      l.callers = before ++ ⟨k, .ending⟩ :: after →
      Step l .aside { l with callers := before ++ ⟨k, .leaving l.writer.isOpen⟩ :: after }
  | leave {before after : List Caller} {k : Nat} {answer : Bool} :
      l.callers = before ++ ⟨k, .leaving answer⟩ :: after →
      Step l (.answered k answer) (l.letGo (before ++ after))
  /-- A caller is given up before it has its answer. -/
  | abandon {before after : List Caller} {caller : Caller} :
      l.callers = before ++ caller :: after → Step l .aside (l.letGo (before ++ after))
  /-- The run is removed from the registry or replaced there. -/
  | detach : Step l .aside l.detach
  | begin {w : Writer} : l.halted = false → l.writer.begin? = some w →
      Step l .aside { l with writer := w }
  | pass {c : Write} (n : Nat) : l.halted = false → l.writer.current = some c →
      Step l (.passed (c.data.take n)) { l with writer := l.writer.advance n }
  | complete {w : Writer} : l.halted = false → l.writer.complete? = some w →
      Step l .aside { l with writer := w }
  | refuse {c : Write} : l.halted = false → l.writer.current = some c →
      Step l .refused { l with
        writer := { l.writer.refuse with isOpen := l.writer.isOpen }, halted := true }
  | finish : l.halted = false → l.writer.atEnd = true → Step l .inputEnded { l with halted := true }
  | runEnds : Step l .runEnded { l with isOver := true }
  | learn : l.halted = false → l.isOver = true → Step l .learned { l with halted := true }
  | close : l.halted = true → Step l .aside { l with writer := l.writer.stop }

/-- From `l`, what `log` says has happened, oldest first, and has led to `l'`. -/
inductive Steps (l : Line) : List Act → Line → Prop
  | begin : Steps l [] l
  | next {log : List Act} {act : Act} {l' l'' : Line} :
      Steps l log l' → Step l' act l'' → Steps l (log ++ [act]) l''

/-- What may happen to the input of a run since the run was started. -/
abbrev History (log : List Act) (l : Line) : Prop := Steps {} log l

/-- The writes that were added, oldest first. -/
def enqueued (log : List Act) : List Bytes := log.filterMap (·.added?)

/-- What the pipe has taken. -/
def fed (log : List Act) : Bytes := log.flatMap (·.taken)

variable {log more before after : List Act} {act : Act} {l l' : Line}

/-- Stretches put together. -/
theorem Steps.append {more' : List Act} {l'' : Line} (h : Steps l more l')
    (h' : Steps l' more' l'') : Steps l (more ++ more') l'' := by
  induction h' with
  | begin => simpa using h
  | next _ hstep ih =>
    rw [← List.append_assoc]
    exact ih.next hstep

theorem enqueued_append (log more : List Act) :
    enqueued (log ++ more) = enqueued log ++ enqueued more :=
  List.filterMap_append

theorem fed_append (log more : List Act) : fed (log ++ more) = fed log ++ fed more :=
  List.flatMap_append

/-- Nothing is added and nothing is taken. -/
theorem enqueued_concat (log : List Act) (h : act.added? = none) :
    enqueued (log ++ [act]) = enqueued log := by
  simp [enqueued, h]

theorem fed_concat (log : List Act) (h : act.taken = []) : fed (log ++ [act]) = fed log := by
  simp [fed, h]

/-! ## 2. Writes in a row -/

/-- Writes with the numbers that they get when they are added. -/
def numbered (writes : List Bytes) : List Write := writes.zipIdx.map fun e => ⟨e.2, e.1⟩

@[simp] theorem length_numbered (writes : List Bytes) :
    (numbered writes).length = writes.length := by
  simp [numbered]

theorem numbered_concat (writes : List Bytes) (data : Bytes) :
    numbered (writes ++ [data]) = numbered writes ++ [⟨writes.length, data⟩] := by
  simp [numbered, List.zipIdx_append]

/-- The first write that waits is the next one. -/
theorem cons_eq_drop_numbered {writes : List Bytes} {next : Write} {rest : List Write} {d : Nat}
    (h : next :: rest = (numbered writes).drop d) :
    writes[d]? = some next.data ∧ next.number = d ∧ rest = (numbered writes).drop (d + 1) := by
  have hhead : (numbered writes)[d]? = some next := by
    rw [← List.head?_drop, ← h]
    rfl
  have htail : rest = (numbered writes).drop (d + 1) := by
    rw [← List.tail_drop, ← h]
    rfl
  simp only [numbered, List.getElem?_map, List.getElem?_zipIdx, Option.map_map,
    Option.map_eq_some_iff] at hhead
  obtain ⟨data, hdata, rfl⟩ := hhead
  exact ⟨hdata, by simp, htail⟩

/-- `bytes` is what comes of some of the writes in a row, and a part of the next one. -/
def Cut (writes : List Bytes) (bytes : Bytes) : Prop :=
  ∃ d done, d ≤ writes.length ∧ bytes = (writes.take d).flatten ++ done
    ∧ done <+: writes[d]?.getD []

theorem Cut.concat {writes : List Bytes} {bytes : Bytes} (h : Cut writes bytes) (data : Bytes) :
    Cut (writes ++ [data]) bytes := by
  obtain ⟨d, done, hd, hbytes, hdone⟩ := h
  refine ⟨d, done, by simp; omega, by rwa [List.take_append_of_le_length hd], ?_⟩
  rcases Nat.lt_or_eq_of_le hd with hlt | rfl
  · rwa [List.getElem?_append_left hlt]
  · obtain rfl : done = [] := by simpa using hdone
    exact List.nil_prefix

/-- They are what comes of all of them, from the beginning on. -/
theorem Cut.isPrefix {writes : List Bytes} {bytes : Bytes} (h : Cut writes bytes) :
    bytes <+: writes.flatten := by
  obtain ⟨d, done, -, rfl, hdone⟩ := h
  have hrest : done <+: (writes.drop d).flatten := by
    cases hd : writes[d]? with
    | none =>
      rw [hd, Option.getD_none, List.prefix_nil] at hdone
      exact hdone ▸ List.nil_prefix
    | some next =>
      rw [hd, Option.getD_some] at hdone
      obtain ⟨hlt, rfl⟩ := List.getElem?_eq_some_iff.mp hd
      rw [List.drop_eq_getElem_cons hlt, List.flatten_cons]
      exact hdone.trans (List.prefix_append _ _)
  have hall : writes.flatten = (writes.take d).flatten ++ (writes.drop d).flatten := by
    rw [← List.flatten_append, List.take_append_drop]
  rw [hall]
  exact (List.prefix_append_right_inj _).mpr hrest

/-! ## 3. Where the bytes are -/

/-- How far the pipe has come with the writes: what it has taken, the rest of the write under way,
and the writes that wait.  Of a writer that has stopped, only what the pipe has taken matters. -/
inductive Progress (writes : List Bytes) (bytes : Bytes) : Option Write → List Write → Bool → Prop
  | between {d : Nat} : d ≤ writes.length → bytes = (writes.take d).flatten →
      Progress writes bytes none ((numbered writes).drop d) false
  | within {d : Nat} {done rest : Bytes} : writes[d]? = some (done ++ rest) →
      bytes = (writes.take d).flatten ++ done →
      Progress writes bytes (some ⟨d, rest⟩) ((numbered writes).drop (d + 1)) false
  | stopped {current : Option Write} {waiting : List Write} : Cut writes bytes →
      Progress writes bytes current waiting true

namespace Progress

variable {writes : List Bytes} {bytes : Bytes} {current : Option Write} {waiting : List Write}
variable {halted : Bool}

theorem cut (h : Progress writes bytes current waiting halted) : Cut writes bytes := by
  cases h with
  | @between d hd hbytes => exact ⟨d, [], hd, by simpa using hbytes, List.nil_prefix⟩
  | @within d done rest hd hbytes =>
    have hlt := (List.getElem?_eq_some_iff.mp hd).1
    exact ⟨d, done, Nat.le_of_lt hlt, hbytes, by simp [hd]⟩
  | stopped hcut => exact hcut

/-- A write is added. -/
theorem add (h : Progress writes bytes current waiting halted) (data : Bytes) :
    Progress (writes ++ [data]) bytes current (waiting ++ [⟨writes.length, data⟩]) halted := by
  have hdrop {d : Nat} (hd : d ≤ writes.length) :
      (numbered writes).drop d ++ [⟨writes.length, data⟩]
        = (numbered (writes ++ [data])).drop d := by
    rw [numbered_concat, List.drop_append_of_le_length (by simpa using hd)]
  cases h with
  | between hd hbytes =>
    rw [hdrop hd]
    exact .between (by simp; omega) (by rwa [List.take_append_of_le_length hd])
  | within hd hbytes =>
    have hlt := (List.getElem?_eq_some_iff.mp hd).1
    rw [hdrop hlt]
    exact .within (by rwa [List.getElem?_append_left hlt])
      (by rwa [List.take_append_of_le_length (Nat.le_of_lt hlt)])
  | stopped hcut => exact .stopped (hcut.concat data)

/-- The next write is taken up. -/
theorem begin {next : Write} {rest : List Write}
    (h : Progress writes bytes none (next :: rest) false) :
    Progress writes bytes (some next) rest false := by
  generalize hw : next :: rest = waiting at h
  cases h with
  | @between d hd hbytes =>
    obtain ⟨hnext, rfl, rfl⟩ := cons_eq_drop_numbered hw
    have hwhole : writes[next.number]? = some ([] ++ next.data) := hnext
    exact .within hwhole (by simpa using hbytes)

/-- The pipe takes a part of the write under way. -/
theorem pass {c : Write} (h : Progress writes bytes (some c) waiting false) (n : Nat) :
    Progress writes (bytes ++ c.data.take n) (some ⟨c.number, c.data.drop n⟩) waiting false := by
  cases h with
  | @within d done rest hd hbytes =>
    have hparts : writes[d]? = some ((done ++ rest.take n) ++ rest.drop n) := by
      rw [hd, List.append_assoc, List.take_append_drop]
    exact .within hparts (by rw [hbytes, List.append_assoc])

/-- All of the write under way has been taken. -/
theorem complete {n : Nat} (h : Progress writes bytes (some ⟨n, []⟩) waiting false) :
    Progress writes bytes none waiting false ∧ n < writes.length
      ∧ (writes.take (n + 1)).flatten = bytes := by
  cases h with
  | @within d done rest hd hbytes =>
    have hlt := (List.getElem?_eq_some_iff.mp hd).1
    have hall : (writes.take (n + 1)).flatten = bytes := by
      rw [List.take_add_one, hd, hbytes]
      simp
    exact ⟨.between hlt hall.symm, hlt, hall⟩

/-- Nothing is under way and nothing waits. -/
theorem all (h : Progress writes bytes none [] false) : bytes = writes.flatten := by
  generalize hw : [] = waiting at h
  cases h with
  | between hd hbytes =>
    have hle := List.drop_eq_nil_iff.mp hw.symm
    rwa [List.take_of_length_le (by simpa using hle)] at hbytes

end Progress

/-- Where the bytes that were added to a line are. -/
structure Fed (log : List Act) (l : Line) : Prop where
  added : l.writer.added = (enqueued log).length
  progress : Progress (enqueued log) (fed log) l.writer.current l.writer.waiting l.halted
  accepted : ∀ n, (n, true) ∈ l.writer.acknowledged →
    n < (enqueued log).length ∧ ((enqueued log).take (n + 1)).flatten <+: fed log

/-- No write is added. -/
theorem Fed.goesOn (h : Fed log l) (ha : act.added? = none)
    (hadded : l'.writer.added = l.writer.added)
    (hp : Progress (enqueued log) (fed (log ++ [act])) l'.writer.current l'.writer.waiting
      l'.halted)
    (haccepted : ∀ n, (n, true) ∈ l'.writer.acknowledged → (n, true) ∈ l.writer.acknowledged
      ∨ n < (enqueued log).length
        ∧ ((enqueued log).take (n + 1)).flatten <+: fed (log ++ [act])) :
    Fed (log ++ [act]) l' := by
  refine ⟨?_, ?_, fun n hn => ?_⟩
  · rw [hadded, h.added, enqueued_concat log ha]
  · rwa [enqueued_concat log ha]
  · rw [enqueued_concat log ha]
    rcases haccepted n hn with hn | hnew
    · obtain ⟨hlt, hprefix⟩ := h.accepted n hn
      rw [fed_append]
      exact ⟨hlt, hprefix.trans (List.prefix_append _ _)⟩
    · exact hnew

/-- Nothing has happened to the queue. -/
theorem Fed.congr (h : Fed log l) (ha : act.added? = none) (ht : act.taken = [])
    (hadded : l'.writer.added = l.writer.added) (hcurrent : l'.writer.current = l.writer.current)
    (hwaiting : l'.writer.waiting = l.writer.waiting)
    (hacknowledged : l'.writer.acknowledged = l.writer.acknowledged)
    (hhalted : l'.halted = l.halted) : Fed (log ++ [act]) l' := by
  refine h.goesOn ha hadded ?_ fun n hn => .inl (hacknowledged ▸ hn)
  rw [hcurrent, hwaiting, hhalted, fed_concat log ht]
  exact h.progress

/-- The writer stops, and accepts no write. -/
theorem Fed.halt (h : Fed log l) (ha : act.added? = none) (ht : act.taken = [])
    (hadded : l'.writer.added = l.writer.added)
    (hacknowledged : ∀ n, (n, true) ∈ l'.writer.acknowledged → (n, true) ∈ l.writer.acknowledged)
    (hhalted : l'.halted = true) : Fed (log ++ [act]) l' := by
  refine h.goesOn ha hadded ?_ fun n hn => .inl (hacknowledged n hn)
  rw [hhalted, fed_concat log ht]
  exact .stopped h.progress.cut

theorem add_eq_some {w w' : Writer} {data : Bytes} {n : Nat} (h : w.add data = (w', some n)) :
    w.isOpen = true ∧ n = w.added
      ∧ w' = { w with waiting := w.waiting ++ [⟨w.added, data⟩], added := w.added + 1 } := by
  unfold Writer.add at h
  split at h
  · rename_i hopen
    obtain ⟨rfl, hn⟩ := Prod.mk.inj h
    exact ⟨hopen, (Option.some.inj hn).symm, rfl⟩
  · exact absurd h (by simp)

theorem begin?_eq_some {w w' : Writer} (h : w.begin? = some w') :
    w.isOpen = true ∧ ∃ next rest, w.current = none ∧ w.waiting = next :: rest
      ∧ w' = { w with current := some next, waiting := rest } := by
  unfold Writer.begin? at h
  split at h
  · rename_i next rest hopen hc hw
    exact ⟨hopen, next, rest, hc, hw, (Option.some.inj h).symm⟩
  · exact absurd h (by simp)

theorem complete?_eq_some {w w' : Writer} (h : w.complete? = some w') :
    w.isOpen = true ∧ ∃ n, w.current = some ⟨n, []⟩
      ∧ w' = { w with current := none, acknowledged := (n, true) :: w.acknowledged } := by
  unfold Writer.complete? at h
  split at h
  · rename_i n hopen hc
    exact ⟨hopen, n, hc, (Option.some.inj h).symm⟩
  · exact absurd h (by simp)

theorem atEnd_iff {w : Writer} : w.atEnd = true ↔ w.isOpen = true ∧ w.current = none
    ∧ w.waiting = [] ∧ w.attached = false ∧ w.callers = 0 := by
  simp [Writer.atEnd, and_assoc]

/-- **Each step keeps the bytes where they belong.**  Callers add at the end of the queue, the
writer takes from its front, and the pipe gets what the writer holds. -/
theorem Fed.step (h : Fed log l) (hstep : Step l act l') : Fed (log ++ [act]) l' := by
  cases hstep with
  | @add before after k n data w hc hadd =>
    obtain ⟨-, rfl, rfl⟩ := add_eq_some hadd
    have henqueued : enqueued (log ++ [.added data]) = enqueued log ++ [data] :=
      enqueued_append log _
    have hfed : fed (log ++ [.added data]) = fed log := fed_concat log rfl
    refine ⟨by simp [henqueued, h.added], ?_, fun n hn => ?_⟩
    · rw [henqueued, hfed, h.added]
      exact h.progress.add data
    · obtain ⟨hlt, hprefix⟩ := h.accepted n hn
      rw [henqueued, hfed, List.take_append_of_le_length hlt]
      exact ⟨by simp; omega, hprefix⟩
  | begin hrun hbegin =>
    obtain ⟨-, next, rest, hc, hw, rfl⟩ := begin?_eq_some hbegin
    have hp := h.progress
    rw [hc, hw, hrun] at hp
    refine h.goesOn rfl rfl ?_ fun n hn => .inl hn
    rw [fed_concat log rfl, hrun]
    exact hp.begin
  | @pass c n hrun hc =>
    have hp := h.progress
    rw [hc, hrun] at hp
    refine h.goesOn rfl rfl ?_ fun n hn => .inl hn
    have hfed : fed (log ++ [.passed (c.data.take n)]) = fed log ++ c.data.take n := by
      simp [fed, Act.taken]
    rw [hfed, hrun]
    simpa [Writer.advance, hc] using hp.pass n
  | complete hrun hcomplete =>
    obtain ⟨-, n, hc, rfl⟩ := complete?_eq_some hcomplete
    have hp := h.progress
    rw [hc, hrun] at hp
    obtain ⟨hdone, hlt, hall⟩ := hp.complete
    have hfed : fed (log ++ [.aside]) = fed log := fed_concat log rfl
    refine h.goesOn rfl rfl (by rwa [hfed, hrun]) fun m hm => ?_
    rcases List.mem_cons.mp hm with he | hm
    · obtain ⟨rfl, -⟩ := Prod.mk.inj he
      have hfull : ((enqueued log).take (m + 1)).flatten = fed (log ++ [.aside]) :=
        hall.trans hfed.symm
      exact .inr ⟨hlt, hfull ▸ List.prefix_rfl⟩
    · exact .inl hm
  | refuse _ hc =>
    refine h.halt rfl rfl (by simp [Writer.refuse, hc]) (fun n hn => ?_) rfl
    simpa [Writer.refuse, hc] using hn
  | finish _ _ | learn _ _ => exact h.halt rfl rfl rfl (fun _ hn => hn) rfl
  | _ => exact h.congr rfl rfl rfl rfl rfl rfl rfl

theorem History.accounted (h : History log l) : Fed log l := by
  induction h with
  | begin => exact ⟨rfl, .between (d := 0) (Nat.zero_le _) rfl, fun n hn => absurd hn (by simp)⟩
  | next _ hstep ih => exact ih.step hstep

/-! ## 4. How the writer stops -/

/-- The writer stops when a step says so, and it never goes on. -/
theorem Step.halted_eq (h : Step l act l') : l'.halted = (l.halted || act.halts) := by
  cases h with
  | refuse hrun _ | finish hrun _ | learn hrun _ => simp [Act.halts]
  | _ => simp [Act.halts, hold, letGo, Line.detach]

theorem History.halted_iff (h : History log l) :
    l.halted = true ↔ ∃ act ∈ log, act.halts = true := by
  induction h with
  | begin => simp
  | next _ hstep ih => simp [hstep.halted_eq, ih, or_and_right, exists_or]

theorem Step.isOver_eq (h : Step l act l') : l'.isOver = (l.isOver || act == .runEnded) := by
  cases h <;> simp [hold, letGo, Line.detach]

theorem History.isOver_iff (h : History log l) : l.isOver = true ↔ .runEnded ∈ log := by
  induction h with
  | begin => simp
  | next _ hstep ih =>
    rw [hstep.isOver_eq, Bool.or_eq_true, ih, beq_iff_eq, List.mem_append, List.mem_singleton,
      eq_comm]

/-- A writer that has stopped takes nothing to the pipe. -/
theorem Step.taken_of_halted (h : Step l act l') (hl : l.halted = true) : act.taken = [] := by
  cases h with
  | pass n hrun _ => exact absurd (hl.symm.trans hrun) (by simp)
  | _ => rfl

/-- The writer only learns of the end of a run that is over. -/
theorem History.runEnded_of_learned (h : History log l) (hl : .learned ∈ log) :
    .runEnded ∈ log := by
  induction h with
  | begin => exact absurd hl (by simp)
  | next hbefore hstep ih =>
    refine List.mem_append_left _ ?_
    rcases List.mem_append.mp hl with hl | hl
    · exact ih hl
    · obtain rfl := List.mem_singleton.mp hl
      cases hstep with
      | learn _ hover => exact (History.isOver_iff hbefore).mp hover

/-- The number of callers that the writer knows of is that of the callers that there are. -/
theorem Step.callers_eq (h : Step l act l') (hl : l.writer.callers = l.callers.length) :
    l'.writer.callers = l'.callers.length := by
  cases h with
  | write _ _ => simp [hold, hl]
  | endInput _ => simp [hold, Line.detach, hl]
  | add hc hadd =>
    obtain ⟨-, -, rfl⟩ := add_eq_some hadd
    simpa [hc] using hl
  | addNot hc _ | hear hc _ | timeUp hc | look hc => simpa [hc] using hl
  | leave hc | abandon hc => simp [letGo, hl, hc]
  | begin _ hbegin =>
    obtain ⟨-, next, rest, -, -, rfl⟩ := begin?_eq_some hbegin
    exact hl
  | complete _ hcomplete =>
    obtain ⟨-, n, -, rfl⟩ := complete?_eq_some hcomplete
    exact hl
  | refuse _ hc => simpa [Writer.refuse, hc] using hl
  | _ => exact hl

theorem History.callers_eq (h : History log l) : l.writer.callers = l.callers.length := by
  induction h with
  | begin => rfl
  | next _ hstep ih => exact hstep.callers_eq ih

/-- Nobody has hold of the input, and it cannot be reached through the session. -/
def IsLeft (l : Line) : Prop := l.callers = [] ∧ l.writer.attached = false

/-- An input that nobody has hold of stays so, and nothing is added to it. -/
theorem Step.isLeft (h : Step l act l') (hl : l.IsLeft) : l'.IsLeft ∧ act.added? = none := by
  obtain ⟨hnone, hdetached⟩ := hl
  cases h with
  | write _ ha | endInput ha => exact absurd (ha.symm.trans hdetached) (by simp)
  | add hc _ | addNot hc _ | hear hc _ | timeUp hc | look hc | leave hc | abandon hc =>
    exact absurd (hc.symm.trans hnone) (by simp)
  | begin _ hbegin =>
    obtain ⟨-, next, rest, -, -, rfl⟩ := begin?_eq_some hbegin
    exact ⟨⟨hnone, hdetached⟩, rfl⟩
  | complete _ hcomplete =>
    obtain ⟨-, n, -, rfl⟩ := complete?_eq_some hcomplete
    exact ⟨⟨hnone, hdetached⟩, rfl⟩
  | refuse _ hc => exact ⟨⟨hnone, by simpa [Writer.refuse, hc] using hdetached⟩, rfl⟩
  | detach => exact ⟨⟨hnone, rfl⟩, rfl⟩
  | _ => exact ⟨⟨hnone, hdetached⟩, rfl⟩

/-- **When the end of the input is sent, the pipe has taken everything**, nobody has hold of the
input any more, and nothing is ever added to it. -/
theorem History.all_of_inputEnded (h : History log l) (he : .inputEnded ∈ log) :
    fed log = (enqueued log).flatten ∧ l.IsLeft := by
  induction h with
  | begin => exact absurd he (by simp)
  | @next log act l l' hbefore hstep ih =>
    rcases List.mem_append.mp he with he | he
    · obtain ⟨hall, hleft⟩ := ih he
      have hhalted : l.halted = true := (History.halted_iff hbefore).mpr ⟨_, he, rfl⟩
      obtain ⟨hleft', hadded⟩ := hstep.isLeft hleft
      rw [enqueued_concat log hadded, fed_concat log (hstep.taken_of_halted hhalted)]
      exact ⟨hall, hleft'⟩
    · obtain rfl := List.mem_singleton.mp he
      cases hstep with
      | finish hrun hend =>
        obtain ⟨-, hc, hw, hdetached, hcallers⟩ := atEnd_iff.mp hend
        have hp := (History.accounted hbefore).progress
        rw [hc, hw, hrun] at hp
        rw [History.callers_eq hbefore, List.length_eq_zero_iff] at hcallers
        rw [enqueued_concat log rfl, fed_concat log rfl]
        exact ⟨hp.all, hcallers, hdetached⟩

/-- **A writer that has stopped writes nothing more.**  Its queue may still be open and callers may
still add to it; all this is in vain. -/
theorem Steps.fed_of_halted (h : Steps l more l') (hl : l.halted = true) : fed more = [] := by
  have hkept : l'.halted = true ∧ fed more = [] := by
    induction h with
    | begin => exact ⟨hl, rfl⟩
    | next _ hstep ih =>
      obtain ⟨hhalted, hfed⟩ := ih
      rw [fed_concat _ (hstep.taken_of_halted hhalted), hstep.halted_eq, hhalted]
      exact ⟨rfl, hfed⟩
  exact hkept.2

/-- A writer that goes on was going on before. -/
theorem Step.goes_before (h : Step l act l') (hgoes : l'.halted = false) : l.halted = false := by
  rw [h.halted_eq, Bool.or_eq_false_iff] at hgoes
  exact hgoes.1

/-- The queue is only closed behind a writer that has stopped. -/
theorem History.isOpen (h : History log l) (hgoes : l.halted = false) :
    l.writer.isOpen = true := by
  induction h with
  | begin => rfl
  | next _ hstep ih =>
    have hopen := ih (hstep.goes_before hgoes)
    cases hstep with
    | add _ hadd =>
      obtain ⟨-, -, rfl⟩ := add_eq_some hadd
      exact hopen
    | begin _ hbegin =>
      obtain ⟨-, next, rest, -, -, rfl⟩ := begin?_eq_some hbegin
      exact hopen
    | complete _ hcomplete =>
      obtain ⟨-, n, -, rfl⟩ := complete?_eq_some hcomplete
      exact hopen
    | close hhalted => exact absurd (hhalted.symm.trans hgoes) (by simp)
    | _ => exact hopen

/-- The writer of a run that is not over has sent the end of the input, or a write has failed. -/
theorem History.halted_cases (h : History log l) (hl : l.halted = true) :
    .inputEnded ∈ log ∨ .refused ∈ log ∨ .runEnded ∈ log := by
  obtain ⟨act, hact, hhalts⟩ := h.halted_iff.mp hl
  cases act with
  | inputEnded => exact .inl hact
  | refused => exact .inr (.inl hact)
  | learned => exact .inr (.inr (h.runEnded_of_learned hact))
  | _ => exact absurd hhalts (by simp [Act.halts])

/-- What is known of the fate of a write stays known. -/
theorem Step.acknowledged (h : Step l act l') {e : Nat × Bool} (he : e ∈ l.writer.acknowledged) :
    e ∈ l'.writer.acknowledged := by
  cases h with
  | add _ hadd =>
    obtain ⟨-, -, rfl⟩ := add_eq_some hadd
    exact he
  | begin _ hbegin =>
    obtain ⟨-, next, rest, -, -, rfl⟩ := begin?_eq_some hbegin
    exact he
  | complete _ hcomplete =>
    obtain ⟨-, n, -, rfl⟩ := complete?_eq_some hcomplete
    exact List.mem_cons_of_mem _ he
  | refuse _ hc => simpa [Writer.refuse, hc] using .inr he
  | _ => exact he

/-- If the pipe does not take the rest of a write, that write has failed. -/
theorem History.failed_of_refused (h : History log l) (hr : .refused ∈ log) :
    ∃ n, (n, false) ∈ l.writer.acknowledged := by
  induction h with
  | begin => exact absurd hr (by simp)
  | next _ hstep ih =>
    rcases List.mem_append.mp hr with hr | hr
    · obtain ⟨n, hn⟩ := ih hr
      exact ⟨n, hstep.acknowledged hn⟩
    · obtain rfl := List.mem_singleton.mp hr
      cases hstep with
      | @refuse c _ hc => exact ⟨c.number, by simp [Writer.refuse, hc]⟩

end Line
end Scriptorium.Run
