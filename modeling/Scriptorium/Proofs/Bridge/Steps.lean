import Scriptorium.Bridge.Progress
import Scriptorium.Proofs.Run.Steps
import Scriptorium.Proofs.Succeeds

/-!
# Everything that can happen to a bridge

Sessions ask for what `Operations` offers and listen to their runs, which go on by themselves, all
in any order.
`Step` is one such step with what it says to an observer (`Act`), `Steps` any number of them,
and `Runs` a whole history of a bridge.

The results of starting an interpreter, the pieces that are read, the times and the errors of the
system are arbitrary; what is asked of a start is only that its identifier was not used before.
-/
namespace Scriptorium.Bridge

open Run

/-- What happens to a bridge. -/
inductive Act where
  | started (info : RunInfo)
  | refused (session : SessionId)
  | offered (session : SessionId)
  /-- The caller of a write no longer waits. -/
  | released (run : Id)
  | endedInput (session : SessionId)
  | cancelled (session : SessionId)
  | closed (session : SessionId)
  | subscribed (session : SessionId)
  | unsubscribed (session : SessionId)
  /-- The listener of a channel takes from it, or goes away. -/
  | listened (channel : Nat)
  /-- A run does a step by itself. -/
  | worked (run : Id)
  /-- The supervisor of a run removes it from the registry. -/
  | deregistered (run : Id)
  deriving DecidableEq

/-- One step of a bridge. -/
inductive Step (b : Bridge) : Act → Bridge → Prop
  | start {α : Type} {id : Id} {now : Nat} {session : SessionId} {requested : Path}
      {found : Option Path} {spawn : Path → Path → Except OsError α} {b' : Bridge}
      {info : RunInfo} {a : α} : (∀ t ∈ b.tasks, t.info.id ≠ id) →
      b.start id now session requested found spawn = .ok (b', info, a) → Step b (.started info) b'
  | refuse {α : Type} {id : Id} {now : Nat} {session : SessionId} {requested : Path}
      {found : Option Path} {spawn : Path → Path → Except OsError α} {e : Run.Error} :
      b.start id now session requested found spawn = .error e → Step b (.refused session) b
  | offer (session : SessionId) (data : Bytes) :
      Step b (.offered session) (b.offer session data).1
  | release (run : Id) : Step b (.released run) (b.release run)
  | endInput (session : SessionId) : Step b (.endedInput session) (b.endInput session).1
  | cancel (session : SessionId) : Step b (.cancelled session) (b.cancel session).1
  | close (session : SessionId) : Step b (.closed session) (b.closeSession session)
  | subscribe (session : SessionId) : Step b (.subscribed session) (b.subscribe session).1
  | unsubscribe (session : SessionId) : Step b (.unsubscribed session) (b.unsubscribe session).1
  | takeAll {i : Nat} {es : List Output.Event} {router : Output.Router} :
      b.router.take? i = some (es, router) → Step b (.listened i) { b with router }
  | takeNext {i : Nat} {e : Output.Event} {router : Output.Router} :
      b.router.next? i = some (e, router) → Step b (.listened i) { b with router }
  | hangUp (i : Nat) : Step b (.listened i) { b with router := b.router.hangUp i }
  | supervise {t : Task} {s s' : Supervision} {r : Reaction} (now : Nat) : t ∈ b.tasks →
      t.phase = .supervised s → Supervision.Step now t.cancelled s s' r →
      Step b (.worked t.info.id) (b.react t.info (s', r))
  | conclude {t : Task} {s : Supervision} (now : Nat) : t ∈ b.tasks → t.phase = .supervised s →
      s.supervisor.isActive = false → Step b (.worked t.info.id) (b.conclude t.info s now)
  | write {t : Task} {w : Writer} : t ∈ b.tasks → Writer.Step t.phase.isOver t.writer w →
      Step b (.worked t.info.id) (b.updateTask t.info.id fun t => { t with writer := w })
  | deregister {t : Task} {r : RunResult} {b' : Bridge} : t ∈ b.tasks → t.phase = .ended r →
      b.nextPhase? t = some b' → Step b (.deregistered t.info.id) b'
  | settle {t : Task} {b' : Bridge} : t ∈ b.tasks → (∀ r, t.phase ≠ .ended r) →
      b.nextPhase? t = some b' → Step b (.worked t.info.id) b'

/-- From `b`, what `log` says has happened, oldest first, and has led to `b'`. -/
inductive Steps (b : Bridge) : List Act → Bridge → Prop
  | begin : Steps b [] b
  | next {log : List Act} {b' b'' : Bridge} {act : Act} :
      Steps b log b' → Step b' act b'' → Steps b (log ++ [act]) b''

/-- The histories of a bridge with these settings, from the moment at which it is made. -/
abbrev Runs (settings : RunSettings) (log : List Act) (b : Bridge) : Prop :=
  Steps { settings } log b

/-- Histories put together. -/
theorem Steps.append {b b' b'' : Bridge} {log more : List Act} (h : Steps b log b')
    (h' : Steps b' more b'') : Steps b (log ++ more) b'' := by
  induction h' with
  | begin => simpa using h
  | next _ hstep ih =>
    rw [← List.append_assoc]
    exact ih.next hstep

end Scriptorium.Bridge
