import Scriptorium.Output.Router
import Scriptorium.Proofs.Run.Steps

/-!
# The course of a run

`Supervision.Step` says what a run can come to by one step.  A `Course` also keeps what was done in
each step: the piece that a pump has read, the end or the fault that it found, or the event that the
supervisor has learned of, and what was done about it.

Three views of a course are what later modules are about: what the pumps have read from a stream
(`piecesOf`), what the supervisor has learned (`seenOf`, which is a history in the sense of
`Watch`), and what it has passed on for the listeners of the session (`relayed`).  Nothing is lost
between the pumps and the supervisor: what the supervisor has learned, followed by what waits in the
queue, is what the pumps have handed on (`handedFrom`), so the bytes that it accounts for are those
that were read (`Course.carried_handedFrom`).
-/
namespace Scriptorium.Run

/-! ## 1. Steps with what is done in them -/

/-- What is done in a step of a run. -/
inductive Deed where
  | read (stream : Stream) (piece : Bytes)
  | readEnd (stream : Stream)
  | readFailed (stream : Stream) (cause : OsError)
  /-- The supervisor learns of an event. -/
  | learned (e : Event)
  deriving DecidableEq, Repr

/-- What was done in a step, and what was done about it. -/
structure Done where
  deed : Deed
  reaction : Reaction := {}
  deriving DecidableEq, Repr

/-- One step of a run, at a time and with the request to stop made or not. -/
inductive Supervision.Does (now : Nat) (cancelled : Bool) (s : Supervision) :
    Done → Supervision → Prop
  | read (stream : Stream) (piece : Bytes) : s.canRead stream = true → piece ≠ [] →
      piece.length ≤ s.terms.chunkSize →
      Does now cancelled s ⟨.read stream piece, {}⟩ (s.read stream piece)
  | readEnd (stream : Stream) : s.canRead stream = true →
      Does now cancelled s ⟨.readEnd stream, {}⟩ (s.readEnd stream)
  | readFailed (stream : Stream) (cause : OsError) : s.canRead stream = true →
      Does now cancelled s ⟨.readFailed stream cause, {}⟩ (s.readFailed stream cause)
  | take (e : Event) (rest : List Chunk) : s.supervisor.isActive = true →
      s.supervisor.streamsOpen = true → s.next? = some (e, rest) →
      Does now cancelled s ⟨.learned e, (s.learn now e).2⟩
        { (s.learn now e).1 with queue := rest }
  | learn (e : Event) : s.supervisor.isActive = true → s.supervisor.allows e = true →
      s.Brings now cancelled e →
      Does now cancelled s ⟨.learned e, (s.learn now e).2⟩ (s.learn now e).1

/-- From `s`, what `log` says was done, oldest first, and has led to `s'`. -/
inductive Course (s : Supervision) : List Done → Supervision → Prop
  | begin : Course s [] s
  | next {log : List Done} {s' s'' : Supervision} {x : Done} (now : Nat) (cancelled : Bool) :
      Course s log s' → s'.Does now cancelled x s'' → Course s (log ++ [x]) s''

namespace Supervision

variable {s s' : Supervision} {r : Reaction} {now : Nat} {cancelled : Bool} {x : Done}

/-- **The steps of a run are those in which something is done.**  The deeds tell what the pumps and
the supervisor have met with, which the state alone does not. -/
theorem step_iff_does : Step now cancelled s s' r ↔ ∃ deed, s.Does now cancelled ⟨deed, r⟩ s' := by
  constructor
  · intro h
    cases h with
    | read stream piece hopen hne hle => exact ⟨_, .read stream piece hopen hne hle⟩
    | readEnd stream hopen => exact ⟨_, .readEnd stream hopen⟩
    | readFailed stream cause hopen => exact ⟨_, .readFailed stream cause hopen⟩
    | take ha ht =>
      obtain ⟨ho, e, rest, hn, -, rfl, rfl⟩ := take?_cases ht
      exact ⟨_, .take e rest ha ho hn⟩
    | learn e ha hallow hb => exact ⟨_, .learn e ha hallow hb⟩
  · rintro ⟨deed, h⟩
    cases h with
    | read stream piece hopen hne hle => exact .read stream piece hopen hne hle
    | readEnd stream hopen => exact .readEnd stream hopen
    | readFailed stream cause hopen => exact .readFailed stream cause hopen
    | take e rest ha ho hn =>
      refine .take ha ?_
      simp only [take?, ho, if_true, hn, Option.map_some]
      rfl
    | learn e ha hallow hb => exact .learn e ha hallow hb

end Supervision

/-! ## 2. Views of a course -/

/-- What the supervisor has learned, with what it did about it. -/
def Done.seen? (x : Done) : Option Seen :=
  match x.deed with
  | .learned e => some ⟨e, x.reaction⟩
  | _ => none

/-- What the supervisor has learned in a course. -/
def seenOf (log : List Done) : List Seen := log.filterMap (·.seen?)

/-- What was done in a course. -/
def deedsOf (log : List Done) : List Deed := log.map (·.deed)

/-- The piece that was read from a stream. -/
def Deed.pieceOf? (stream : Stream) : Deed → Option Bytes
  | .read from_ piece => if from_ = stream then some piece else none
  | _ => none

/-- The pieces that were read from a stream. -/
def piecesOf (stream : Stream) (log : List Done) : List Bytes :=
  log.filterMap (·.deed.pieceOf? stream)

/-- What a reaction passes on to the listeners of the session, as `Bridge.deliver` does. -/
def Reaction.event? (run : Id) (r : Reaction) : Option Output.Event :=
  r.emitted.map fun (stream, payload) => ⟨run, stream, payload⟩

/-- What was passed on to the listeners of the session. -/
def relayed (run : Id) (log : List Seen) : List Output.Event :=
  log.filterMap (·.reaction.event? run)

/-- The payloads that come from a stream. -/
def payloadsOf (stream : Stream) (es : List Output.Event) : List String :=
  (es.filter (·.stream = stream)).map (·.payload)

/-- The stream that a chunk comes from. -/
def Chunk.stream : Chunk → Stream
  | .data stream _ _ | .failed stream _ => stream

/-- The number of bytes that a chunk stands for. -/
def Chunk.bytes : Chunk → Nat
  | .data _ _ bytes => bytes
  | .failed _ _ => 0

/-- The text of a chunk. -/
def Chunk.text? : Chunk → Option String
  | .data _ text _ => some text
  | .failed _ _ => none

/-- The chunk of a stream that the supervisor learns of. -/
def Event.chunkFrom? (stream : Stream) : Event → Option Chunk
  | .chunk c => if c.stream = stream then some c else none
  | _ => none

/-- The chunks of a stream among events. -/
def chunksFrom (stream : Stream) (es : List Event) : List Chunk :=
  es.filterMap (·.chunkFrom? stream)

/-- The pumps read what the process writes to its streams, each from its beginning on, and find the
end of a stream only behind all of it. -/
structure Reads (source : Stream → Bytes) (log : List Done) : Prop where
  begins : ∀ stream, (piecesOf stream log).flatten <+: source stream
  ends : ∀ stream, .readEnd stream ∈ deedsOf log → (piecesOf stream log).flatten = source stream

/-- What the pump of a stream has handed on: what was learned of it, and what waits in the queue. -/
def handedFrom (stream : Stream) (log : List Done) (s : Supervision) : List Chunk :=
  chunksFrom stream (eventsOf (seenOf log) ++ s.queue.map .chunk)

theorem seenOf_concat (log : List Done) (x : Done) :
    seenOf (log ++ [x]) = seenOf log ++ x.seen?.toList := by
  cases h : x.seen? <;> simp [seenOf, h]

theorem eventsOf_append (log more : List Seen) :
    eventsOf (log ++ more) = eventsOf log ++ eventsOf more := by
  simp [eventsOf]

theorem deedsOf_concat (log : List Done) (x : Done) :
    deedsOf (log ++ [x]) = deedsOf log ++ [x.deed] := by
  simp [deedsOf]

theorem piecesOf_concat (stream : Stream) (log : List Done) (x : Done) :
    piecesOf stream (log ++ [x]) = piecesOf stream log ++ (x.deed.pieceOf? stream).toList := by
  cases h : x.deed.pieceOf? stream <;> simp [piecesOf, h]

theorem deedsOf_append (log more : List Done) :
    deedsOf (log ++ more) = deedsOf log ++ deedsOf more := by
  simp [deedsOf]

theorem relayed_append (run : Id) (log more : List Seen) :
    relayed run (log ++ more) = relayed run log ++ relayed run more := by
  simp [relayed]

theorem relayed_concat (run : Id) (log : List Seen) (x : Seen) :
    relayed run (log ++ [x]) = relayed run log ++ (x.reaction.event? run).toList := by
  cases h : x.reaction.event? run <;> simp [relayed, h]

theorem payloadsOf_append (stream : Stream) (es fs : List Output.Event) :
    payloadsOf stream (es ++ fs) = payloadsOf stream es ++ payloadsOf stream fs := by
  simp [payloadsOf]

theorem chunksFrom_append (stream : Stream) (es fs : List Event) :
    chunksFrom stream (es ++ fs) = chunksFrom stream es ++ chunksFrom stream fs := by
  simp [chunksFrom]

theorem chunksFrom_concat (stream : Stream) (es : List Event) (e : Event) :
    chunksFrom stream (es ++ [e]) = chunksFrom stream es ++ (e.chunkFrom? stream).toList := by
  cases h : e.chunkFrom? stream <;> simp [chunksFrom, h]

/-- The chunks of a stream among events are those of its own, in whatever company they came. -/
theorem mem_chunksFrom {stream : Stream} {es : List Event} {c : Chunk} :
    c ∈ chunksFrom stream es ↔ .chunk c ∈ es ∧ c.stream = stream := by
  constructor
  · intro h
    obtain ⟨e, he, hc⟩ := List.mem_filterMap.mp h
    cases e with
    | chunk d =>
      obtain ⟨hs, hd⟩ := Option.ite_none_right_eq_some.mp hc
      exact ⟨Option.some.inj hd ▸ he, Option.some.inj hd ▸ hs⟩
    | _ => exact absurd hc (by simp [Event.chunkFrom?])
  · rintro ⟨he, hs⟩
    exact List.mem_filterMap.mpr ⟨.chunk c, he, by simp [Event.chunkFrom?, hs]⟩

theorem chunksFrom_map (stream : Stream) (cs : List Chunk) :
    chunksFrom stream (cs.map .chunk) = cs.filter (·.stream = stream) := by
  induction cs with
  | nil => rfl
  | cons c cs ih =>
    by_cases h : c.stream = stream <;> simpa [chunksFrom, Event.chunkFrom?, h] using ih

/-- The bytes that a stream has carried are those of its chunks. -/
theorem carried_eq (stream : Stream) (es : List Event) :
    carried stream es = ((chunksFrom stream es).map (·.bytes)).sum := by
  induction es with
  | nil => rfl
  | cons e es ih =>
    have hc : carried stream (e :: es) = e.bytesOf stream + carried stream es := by
      simp [carried]
    rw [hc, ih]
    cases e with
    | chunk c =>
      cases c with
      | data from_ text bytes =>
        by_cases h : from_ = stream <;>
          simp [chunksFrom, Event.chunkFrom?, Event.bytesOf, Chunk.stream, Chunk.bytes, h]
      | failed from_ cause =>
        by_cases h : from_ = stream <;>
          simp [chunksFrom, Event.chunkFrom?, Event.bytesOf, Chunk.stream, Chunk.bytes, h]
    | _ => simp [chunksFrom, Event.chunkFrom?, Event.bytesOf]

/-! ## 3. What one step does to a stream -/

/-- The stream whose pump does a deed; none if it is the supervisor. -/
def Deed.stream? : Deed → Option Stream
  | .read stream _ | .readEnd stream | .readFailed stream _ => some stream
  | .learned _ => none

/-- What the pump of a stream hands on in a deed, and what becomes of it. -/
def Pump.does (p : Pump) (stream : Stream) : Deed → List Chunk × Pump
  | .read from_ piece =>
    if from_ = stream then ([(p.push stream piece).1], (p.push stream piece).2) else ([], p)
  | .readEnd from_ => if from_ = stream then p.finish stream else ([], p)
  | .readFailed from_ cause =>
    if from_ = stream then ([(p.fail stream cause).1], (p.fail stream cause).2) else ([], p)
  | .learned _ => ([], p)

theorem Pump.does_of_ne {stream : Stream} {d : Deed} (p : Pump) (h : d.stream? ≠ some stream) :
    p.does stream d = ([], p) := by
  cases d <;> simp_all [Pump.does, Deed.stream?]

/-- A pump hands on chunks of its own stream only. -/
theorem Pump.stream_of_mem_does {p : Pump} {stream : Stream} {d : Deed} :
    ∀ c ∈ (p.does stream d).1, c.stream = stream := by
  intro c hc
  cases d with
  | read from_ piece =>
    simp only [Pump.does] at hc
    split at hc
    · rw [List.mem_singleton.mp hc]; rfl
    · exact absurd hc (by simp)
  | readEnd from_ =>
    simp only [Pump.does, Pump.finish] at hc
    split at hc
    · dsimp only at hc
      split at hc
      · rw [List.mem_singleton.mp hc]; rfl
      · exact absurd hc (by simp)
    · exact absurd hc (by simp)
  | readFailed from_ cause =>
    simp only [Pump.does] at hc
    split at hc
    · rw [List.mem_singleton.mp hc]; rfl
    · exact absurd hc (by simp)
  | learned e => exact absurd hc (by simp [Pump.does])

/-- The bytes that a pump accounts for are those that it reads; those that come with the end of its
stream were read before. -/
theorem Pump.bytes_does (p : Pump) (stream : Stream) (d : Deed) :
    ((p.does stream d).1.map (·.bytes)).sum = (d.pieceOf? stream).toList.flatten.length := by
  cases d with
  | read from_ piece =>
    by_cases h : from_ = stream <;> simp [Pump.does, Pump.push, Deed.pieceOf?, Chunk.bytes, h]
  | readEnd from_ =>
    simp only [Pump.does, Pump.finish, Deed.pieceOf?]
    split
    · dsimp only
      split <;> rfl
    · rfl
  | readFailed from_ cause =>
    by_cases h : from_ = stream <;> simp [Pump.does, Pump.fail, Deed.pieceOf?, Chunk.bytes, h]
  | learned e => rfl

/-- A pump tells of a failure only when reading has failed. -/
theorem Pump.eq_of_failed_mem_does {p : Pump} {stream : Stream} {d : Deed} {cause : OsError}
    (h : .failed stream cause ∈ (p.does stream d).1) : d = .readFailed stream cause := by
  cases d with
  | read from_ piece =>
    by_cases hf : from_ = stream <;> simp [Pump.does, Pump.push, hf] at h
  | readEnd from_ =>
    simp only [Pump.does, Pump.finish] at h
    split at h
    · dsimp only at h
      split at h <;> simp at h
    · exact absurd h (by simp)
  | readFailed from_ cause' =>
    by_cases hf : from_ = stream
    · subst hf
      simp only [Pump.does, Pump.fail, if_true, List.mem_singleton, Chunk.failed.injEq] at h
      rw [h.2]
    · simp [Pump.does, hf] at h
  | learned e => exact absurd h (by simp [Pump.does])

namespace Supervision

/-- A pump hands chunks on and goes over into another state. -/
def handOver (s : Supervision) (stream : Stream) (out : List Chunk × Pump) : Supervision :=
  { s.setPump stream out.2 with queue := s.queue ++ out.1 }

theorem pump_handOver (s : Supervision) (stream other : Stream) (out : List Chunk × Pump) :
    (s.handOver stream out).pump other = if stream = other then out.2 else s.pump other := by
  cases stream <;> cases other <;> rfl

@[simp] theorem queue_handOver (s : Supervision) (stream : Stream) (out : List Chunk × Pump) :
    (s.handOver stream out).queue = s.queue ++ out.1 := rfl

@[simp] theorem supervisor_handOver (s : Supervision) (stream : Stream) (out : List Chunk × Pump) :
    (s.handOver stream out).supervisor = s.supervisor := by cases stream <;> rfl

@[simp] theorem terms_handOver (s : Supervision) (stream : Stream) (out : List Chunk × Pump) :
    (s.handOver stream out).terms = s.terms := by cases stream <;> rfl

@[simp] theorem pump_with_queue (s : Supervision) (queue : List Chunk) (stream : Stream) :
    ({ s with queue } : Supervision).pump stream = s.pump stream := by cases stream <;> rfl

@[simp] theorem pump_learn (s : Supervision) (now : Nat) (e : Event) (stream : Stream) :
    (s.learn now e).1.pump stream = s.pump stream := by cases stream <;> rfl

/-- What is next in the queue is its first chunk, or its end when nobody adds to it any more. -/
theorem next?_cases {s : Supervision} {e : Event} {rest : List Chunk}
    (h : s.next? = some (e, rest)) :
    (∃ c, e = .chunk c ∧ s.queue = c :: rest)
      ∨ (e = .closed ∧ s.queue = [] ∧ rest = [] ∧ ∀ stream, (s.pump stream).isOpen = false) := by
  unfold next? at h
  split at h
  · rename_i c rest' hq
    obtain ⟨rfl, rfl⟩ := Prod.mk.inj (Option.some.inj h)
    exact .inl ⟨c, rfl, hq⟩
  · rename_i hq
    split at h
    · exact absurd h (by simp)
    · rename_i ho
      obtain ⟨rfl, rfl⟩ := Prod.mk.inj (Option.some.inj h)
      have ho : s.stdout.isOpen = false ∧ s.stderr.isOpen = false := by simpa using ho
      refine .inr ⟨rfl, hq, rfl, fun stream => ?_⟩
      cases stream
      · exact ho.1
      · exact ho.2

variable {s s' : Supervision} {now : Nat} {cancelled : Bool} {x : Done}

/-- **What a step can be**: a pump whose stream is read hands something on, or the supervisor learns
of an event that it looks for, which comes out of the queue or from elsewhere. -/
theorem Does.cases (h : s.Does now cancelled x s') :
    (∃ stream, x.deed.stream? = some stream ∧ x.reaction = {} ∧ s.canRead stream = true
        ∧ s' = s.handOver stream ((s.pump stream).does stream x.deed))
      ∨ ∃ e, x = ⟨.learned e, (s.learn now e).2⟩ ∧ s.supervisor.isActive = true
        ∧ s.supervisor.allows e = true
        ∧ ((∃ rest, s.next? = some (e, rest) ∧ s' = { (s.learn now e).1 with queue := rest })
          ∨ (s.Brings now cancelled e ∧ s' = (s.learn now e).1)) := by
  cases h with
  | read stream piece hr _ _ =>
    exact .inl ⟨stream, rfl, rfl, hr, by simp [Pump.does, handOver, Supervision.read]⟩
  | readEnd stream hr =>
    exact .inl ⟨stream, rfl, rfl, hr, by simp [Pump.does, handOver, Supervision.readEnd]⟩
  | readFailed stream cause hr =>
    exact .inl ⟨stream, rfl, rfl, hr, by simp [Pump.does, handOver, Supervision.readFailed]⟩
  | take e rest ha ho hn =>
    refine .inr ⟨e, rfl, ha, ?_, .inl ⟨rest, hn, rfl⟩⟩
    rcases next?_cases hn with ⟨c, rfl, -⟩ | ⟨rfl, -⟩
    · exact ho
    · exact ho
  | learn e ha hallow hb => exact .inr ⟨e, rfl, ha, hallow, .inr ⟨hb, rfl⟩⟩

theorem seen?_of_stream? {stream : Stream} (h : x.deed.stream? = some stream) : x.seen? = none := by
  unfold Done.seen?
  split
  · rename_i e he
    exact absurd h (by simp [he, Deed.stream?])
  · rfl

/-- A pump does something only as long as its stream is read. -/
theorem Does.isOpen {stream : Stream} (h : s.Does now cancelled x s')
    (hx : x.deed.stream? = some stream) : (s.pump stream).isOpen = true := by
  rcases h.cases with ⟨from_, hf, -, hr, -⟩ | ⟨e, rfl, -⟩
  · obtain rfl := Option.some.inj (hf.symm.trans hx)
    exact (Bool.and_eq_true_iff.mp hr).1
  · exact absurd hx (by simp [Deed.stream?])

/-- What becomes of the pump of a stream. -/
theorem Does.pump (h : s.Does now cancelled x s') (stream : Stream) :
    s'.pump stream = ((s.pump stream).does stream x.deed).2 := by
  rcases h.cases with ⟨from_, hf, -, -, rfl⟩ | ⟨e, rfl, -, -, ⟨rest, -, rfl⟩ | ⟨-, rfl⟩⟩
  · rw [pump_handOver]
    split
    · rename_i he
      rw [he]
    · rename_i he
      rw [Pump.does_of_ne _ (by simp [hf, he])]
  · simp [Pump.does]
  · simp [Pump.does]

/-- **What a pump hands on goes to the end of what it has handed on before.**  What the supervisor
does changes nothing about that. -/
theorem Does.handedFrom (h : s.Does now cancelled x s') (stream : Stream) (log : List Done) :
    handedFrom stream (log ++ [x]) s'
      = handedFrom stream log s ++ ((s.pump stream).does stream x.deed).1 := by
  unfold Run.handedFrom
  rw [seenOf_concat, eventsOf_append]
  rcases h.cases with ⟨from_, hf, -, -, rfl⟩ | ⟨e, rfl, -, -, ⟨rest, hn, rfl⟩ | ⟨hb, rfl⟩⟩
  · rw [seen?_of_stream? hf, queue_handOver, List.map_append]
    simp only [Option.toList_none, eventsOf, List.map_nil, List.append_nil]
    rw [← List.append_assoc, chunksFrom_append _ (_ ++ _), chunksFrom_map]
    congr 1
    by_cases he : from_ = stream
    · subst he
      exact List.filter_eq_self.mpr fun c hc => by simp [Pump.stream_of_mem_does c hc]
    · rw [Pump.does_of_ne (s.pump stream) (by simp [hf, he])]
      exact List.filter_eq_nil_iff.mpr fun c hc => by simp [Pump.stream_of_mem_does c hc, he]
  · rcases next?_cases hn with ⟨c, rfl, hq⟩ | ⟨rfl, hq, rfl, -⟩
    · simp [hq, Done.seen?, eventsOf, Pump.does]
    · simp [hq, Done.seen?, eventsOf, Pump.does, chunksFrom, Event.chunkFrom?]
  · have hnone : e.chunkFrom? stream = none := by
      cases e with
      | chunk c => exact absurd hb (by simp [Brings])
      | _ => rfl
    simp [Done.seen?, eventsOf, Pump.does, chunksFrom, hnone, Supervision.learn]

/-- A step keeps the terms, and adds to the history of the supervisor what it learns. -/
theorem Does.watch (h : s.Does now cancelled x s') {log : List Seen} {before : Supervisor}
    (hw : Watch s.terms before log s.supervisor) :
    s'.terms = s.terms ∧ Watch s.terms before (log ++ x.seen?.toList) s'.supervisor := by
  rcases h.cases with ⟨from_, hf, -, -, rfl⟩ | ⟨e, rfl, ha, hallow, hout⟩
  · refine ⟨by simp, ?_⟩
    rw [seen?_of_stream? hf, supervisor_handOver]
    simpa using hw
  · have hlimit : e = .timedOut → s.terms.deadline.isSome = true := by
      rintro rfl
      rcases hout with ⟨rest, hn, -⟩ | ⟨⟨t, ht, -⟩, -⟩
      · rcases next?_cases hn with ⟨c, hc, -⟩ | ⟨hc, -⟩ <;> exact absurd hc (by simp)
      · rw [ht]; rfl
    have hnext := hw.learn now e ⟨ha, hallow, hlimit⟩
    rcases hout with ⟨rest, -, rfl⟩ | ⟨-, rfl⟩
    · exact ⟨rfl, hnext⟩
    · exact ⟨rfl, hnext⟩

end Supervision

/-! ## 4. Whole courses -/

namespace Course

variable {s s' : Supervision} {log : List Done}

/-- Courses put together. -/
theorem append {s'' : Supervision} {more : List Done} (h : Course s log s')
    (h' : Course s' more s'') : Course s (log ++ more) s'' := by
  induction h' with
  | begin => simpa using h
  | next now cancelled _ hd ih =>
    rw [← List.append_assoc]
    exact ih.next now cancelled hd

/-- A course keeps the terms, and what the supervisor has learned in it is one of its histories. -/
theorem watch (h : Course s log s') :
    s'.terms = s.terms ∧ Watch s.terms s.supervisor (seenOf log) s'.supervisor := by
  induction h with
  | begin => exact ⟨rfl, .begin⟩
  | next now cancelled _ hd ih =>
    obtain ⟨hterms, hw⟩ := ih
    have hnext := hd.watch (hterms ▸ hw)
    rw [seenOf_concat]
    exact ⟨hnext.1.trans hterms, hterms ▸ hnext.2⟩

/-- Once the supervisor has learned that the streams are closed, nothing is read any more and
nothing waits. -/
theorem closed {terms : Terms} (h : Course (.start terms) log s)
    (hc : s.supervisor.streamsOpen = false) :
    s.queue = [] ∧ ∀ stream, (s.pump stream).isOpen = false := by
  induction h with
  | begin => exact absurd hc (by simp [Supervision.start])
  | @next log s s' x now cancelled _ hd ih =>
    rcases hd.cases with ⟨from_, hf, -, hr, rfl⟩ | ⟨e, rfl, -, hallow, ⟨rest, hn, rfl⟩ | ⟨hb, rfl⟩⟩
    · rw [Supervision.supervisor_handOver] at hc
      have hopen := (Bool.and_eq_true_iff.mp hr).1
      rw [(ih hc).2 from_] at hopen
      exact absurd hopen (by simp)
    · rcases Supervision.next?_cases hn with ⟨c, rfl, -⟩ | ⟨rfl, -, rfl, hclosed⟩
      · have hopen := (Supervisor.step_chunk_frame s.supervisor s.terms.ceiling now c).2.1
        change (s.supervisor.step s.terms.ceiling now (.chunk c)).1.streamsOpen = false at hc
        rw [hopen] at hc
        exact absurd (hc.symm.trans hallow) (by simp)
      · exact ⟨rfl, by simpa using hclosed⟩
    · change (s.supervisor.step s.terms.ceiling now e).1.streamsOpen = false at hc
      rw [Supervisor.step_streamsOpen] at hc
      cases e with
      | chunk c => exact absurd hb (by simp [Supervision.Brings])
      | closed => exact absurd hb (by simp [Supervision.Brings])
      | _ =>
        refine ⟨(ih hc).1, fun stream => ?_⟩
        rw [Supervision.pump_learn]
        exact (ih hc).2 stream

/-- The bytes that are accounted for are those that were read. -/
theorem carried_handedFrom {terms : Terms} (h : Course (.start terms) log s) (stream : Stream) :
    ((handedFrom stream log s).map (·.bytes)).sum = (piecesOf stream log).flatten.length := by
  induction h with
  | begin => simp [handedFrom, Supervision.start, seenOf, eventsOf, chunksFrom, piecesOf]
  | @next log s s' x now cancelled _ hd ih =>
    rw [hd.handedFrom, piecesOf_concat, List.map_append, List.sum_append, ih, Pump.bytes_does,
      List.flatten_append, List.length_append]

/-- A fault that was handed on was met. -/
theorem readFailed_of_mem {terms : Terms} (h : Course (.start terms) log s) {stream : Stream}
    {cause : OsError} (hm : .failed stream cause ∈ handedFrom stream log s) :
    .readFailed stream cause ∈ deedsOf log := by
  induction h with
  | begin =>
    simp [handedFrom, Supervision.start, seenOf, eventsOf, chunksFrom] at hm
  | @next log s s' x now cancelled _ hd ih =>
    rw [hd.handedFrom, List.mem_append] at hm
    rw [deedsOf_concat, List.mem_append, List.mem_singleton]
    rcases hm with hm | hm
    · exact .inl (ih hm)
    · exact .inr (Pump.eq_of_failed_mem_does hm).symm

/-- A stream that has come to its end is not read any more. -/
theorem isOpen_of_readEnd {s₀ : Supervision} (h : Course s₀ log s) {stream : Stream}
    (hm : .readEnd stream ∈ deedsOf log) : (s.pump stream).isOpen = false := by
  induction h with
  | begin => exact absurd hm (by simp [deedsOf])
  | @next log s s' x now cancelled _ hd ih =>
    rw [hd.pump]
    rw [deedsOf_concat, List.mem_append, List.mem_singleton] at hm
    rcases hm with hm | hm
    · by_cases hx : x.deed.stream? = some stream
      · exact absurd ((ih hm).symm.trans (hd.isOpen hx)) (by simp)
      · rw [Pump.does_of_ne _ hx]
        exact ih hm
    · rw [← hm]
      simp [Pump.does, Pump.finish]

end Course
end Scriptorium.Run
