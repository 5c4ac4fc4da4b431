import Scriptorium.Program
import Scriptorium.Proofs.Bridge.Speech
import Scriptorium.Proofs.Connection.Endings

/-!
# A terminal and its run

While a run goes on in a terminal, the printer, the typist and whoever interrupts act side by side
with the run itself, and nothing is said of who is quick and who is slow.  `Terminal.History` is any
stretch of their moves and of steps of the bridge, in any order; it lists what was passed on
meanwhile.  All that is asked is that what is printed can be printed.

Section 2 takes the moves apart once and for all (`Moved`).  What a terminal does while it waits by
itself is one of these histories (`waitUpTo_history`), and so is all that comes before a call ends
(`finish_history`).
-/
namespace Scriptorium

open Run

namespace Terminal

open Connection (Asked)

/-! ## 1. Histories -/

/-- From the terminal `t₀` and the studio `w₀`, moves of the terminal and steps of the bridge have
led to `t` and `w`; meanwhile the events of the list were passed on, each to its session.  Nothing
that was to be printed could not be. -/
inductive History (t₀ : Terminal) (w₀ : Studio) :
    List (SessionId × Output.Event) → Terminal → Studio → Prop
  | begin : History t₀ w₀ [] t₀ w₀
  | next {log : List (SessionId × Output.Event)} {t t' : Terminal} {w w' : Studio} {m : Move} :
      History t₀ w₀ log t w → m ≠ .print false → t.move? w m = some (t', w') →
      History t₀ w₀ log t' w'
  | meanwhile {log : List (SessionId × Output.Event)} {t : Terminal} {w w' : Studio}
      {act : Bridge.Act} {out : Option (SessionId × Output.Event)} :
      History t₀ w₀ log t w → w.bridge.Utters act out w'.bridge →
      act.LeavesAlone session t.channel → History t₀ w₀ (log ++ out.toList) t w'
  /-- The machine goes on, or time passes. -/
  | apart {log : List (SessionId × Output.Event)} {t : Terminal} {w w' : Studio} :
      History t₀ w₀ log t w → w'.bridge = w.bridge → History t₀ w₀ log t w'

/-! ## 2. What a move does -/

/-- What a move of a terminal comes to, as far as its run and what is printed are concerned. -/
inductive Moved (t : Terminal) (w : Studio) : Terminal → Studio → Prop
  | prints {e : Output.Event} {router : Output.Router} : t.printing = true →
      w.bridge.router.next? t.channel = some (e, router) →
      Moved t w { t with printed := t.printed ++ [e] }
        { w with bridge := { w.bridge with router } }
  /-- Nothing is left to be printed, and nothing can come. -/
  | runsDry : w.bridge.router.next? t.channel = none →
      w.bridge.router.isClosed t.channel = true → Moved t w { t with printing := false } w
  | asks {input : Bytes} {typing : Typing} {interruptible : Bool} {w' : Studio} :
      Asked w.bridge w'.bridge → Moved t w { t with input, typing, interruptible } w'
  | concludes {r : RunResult} {b : Bridge} {w' : Studio} : t.result = none →
      w.bridge.result? t.run = some r → Asked w.bridge b →
      w'.bridge = (b.unsubscribe session).1 →
      Moved t w { t with result := some r, typing := .over, interruptible := false } w'

variable {t₀ t t' : Terminal} {w₀ w w' : Studio} {m : Move}
variable {log more : List (SessionId × Output.Event)}
variable {b₀ : Bridge} {settings : RunSettings} {acts : List Bridge.Act}

theorem asked_offerInput (w : Studio) (session : SessionId) (data : Bytes) :
    Asked w.bridge (w.offerInput session data).1.bridge := by
  have hstep := Bridge.Step.offer (b := w.bridge) session data
  unfold Studio.offerInput
  split
  · exact .nothing
  · rename_i bridge run number ho
    rw [ho] at hstep
    exact .request rfl hstep

theorem asked_giveUp (w : Studio) (p : PendingWrite) : Asked w.bridge (w.giveUp p).bridge :=
  .request rfl (.release p.run)

/-- A terminal that can print shows the oldest event of its channel. -/
theorem moved_of_print (h : t.move? w (.print true) = some (t', w')) : Moved t w t' w' := by
  obtain ⟨hp, h⟩ := Option.ite_none_right_eq_some.mp h
  unfold print? at h
  split at h
  · rename_i e router hn
    obtain ⟨rfl, rfl⟩ := Prod.mk.inj (Option.some.inj h)
    exact .prints hp hn
  · rename_i hn
    obtain ⟨hc, h⟩ := Option.ite_none_right_eq_some.mp h
    obtain ⟨rfl, rfl⟩ := Prod.mk.inj (Option.some.inj h)
    exact .runsDry hn hc

/-- A typist hands the next line to the session and waits, or is done with the line before, or ends
the input because there is no line left to read. -/
theorem moved_of_type (h : t.move? w .type = some (t', w')) : Moved t w t' w' := by
  change t.type? w = some (t', w') at h
  have hends : Moved t w (t.endTyping w).1 (t.endTyping w).2 := .asks (.request rfl (.endInput _))
  unfold type? at h
  split at h
  · split at h
    · rename_i line rest _
      have hasked := asked_offerInput w session (line ++ [newline])
      split at h
      · rename_i w₁ p ho
        rw [ho] at hasked
        obtain ⟨rfl, rfl⟩ := Prod.mk.inj (Option.some.inj h)
        exact .asks hasked
      · rename_i w₁ ho
        rw [ho] at hasked
        obtain ⟨rfl, rfl⟩ := Prod.mk.inj (Option.some.inj h)
        exact .asks hasked
    · rwa [Option.some.inj h] at hends
    · rwa [Option.some.inj h] at hends
  · rename_i p _
    obtain ⟨taken, -, h⟩ := Option.bind_eq_some_iff.mp h
    obtain ⟨rfl, rfl⟩ := Prod.mk.inj (Option.some.inj h)
    exact .asks (asked_giveUp w p)
  · exact absurd h (by simp)

theorem moved_of_conclude (h : t.move? w .conclude = some (t', w')) : Moved t w t' w' := by
  obtain ⟨hnone, h⟩ := Option.ite_none_right_eq_some.mp h
  obtain ⟨r, hr, h⟩ := Option.bind_eq_some_iff.mp h
  obtain ⟨rfl, rfl⟩ := Prod.mk.inj (Option.some.inj h)
  refine .concludes (Option.isNone_iff_eq_none.mp hnone) hr ?_ rfl
  split
  · exact asked_giveUp w _
  · exact .nothing

/-- **What each of the moves does**, if all that is to be printed can be.  This is the step lemma of
a terminal, from which its invariants are shown. -/
theorem moved_of_move (hm : m ≠ .print false) (h : t.move? w m = some (t', w')) :
    Moved t w t' w' := by
  cases m with
  | print works =>
    cases works with
    | true => exact moved_of_print h
    | false => exact absurd rfl hm
  | type => exact moved_of_type h
  | interrupt =>
    obtain ⟨-, h⟩ := Option.ite_none_right_eq_some.mp h
    obtain ⟨rfl, rfl⟩ := Prod.mk.inj (Option.some.inj h)
    exact .asks (.request rfl (.cancel session))
  | conclude => exact moved_of_conclude h

/-! ## 3. Histories of the bridge -/

/-- What is asked of the run passes nothing on. -/
theorem speech_asked {b b' : Bridge} (h : Bridge.Speech b₀ log b) (hasked : Asked b b') :
    Bridge.Speech b₀ log b' := by
  cases hasked with
  | nothing => exact h
  | @request act _ ha hstep =>
    refine h.quiet hstep ?_
    cases act with
    | worked run => exact absurd ha (by simp [Bridge.Act.isRequest])
    | _ => rfl

/-- No move passes anything on. -/
theorem Moved.speech (hm : Moved t w t' w') (h : Bridge.Speech b₀ log w.bridge) :
    Bridge.Speech b₀ log w'.bridge := by
  cases hm with
  | prints _ hn => exact h.quiet (.takeNext hn) rfl
  | runsDry _ _ => exact h
  | asks hasked => exact speech_asked h hasked
  | concludes _ _ hasked hb =>
    rw [hb]
    exact (speech_asked h hasked).quiet (.unsubscribe session) rfl

namespace History

/-- What was passed on in a history is what the bridge has passed on. -/
theorem speech (h : History t₀ w₀ log t w) (h₀ : Bridge.Speech b₀ more w₀.bridge) :
    Bridge.Speech b₀ (more ++ log) w.bridge := by
  induction h with
  | begin => simpa using h₀
  | next _ hm hmove ih => exact (moved_of_move hm hmove).speech ih
  | meanwhile _ hu _ ih =>
    rw [← List.append_assoc]
    exact ih.next hu
  | apart _ hb ih => exact hb ▸ ih

theorem append {t'' : Terminal} {w'' : Studio} (h : History t₀ w₀ log t w)
    (h' : History t w more t'' w'') : History t₀ w₀ (log ++ more) t'' w'' := by
  induction h' with
  | begin => simpa using h
  | next _ hm hmove ih => exact ih.next hm hmove
  | meanwhile _ hu hl ih =>
    rw [← List.append_assoc]
    exact ih.meanwhile hu hl
  | apart _ hb ih => exact ih.apart hb

end History

/-! ## 4. What a terminal does while it waits -/

/-- The next step of a terminal by itself is a move. -/
theorem move_of_step? (h : t.step? w = some (t', w')) :
    ∃ m, m ≠ .print false ∧ t.move? w m = some (t', w') := by
  unfold step? at h
  rcases orElse_eq_some h with h | h
  · obtain ⟨-, h⟩ := Option.ite_none_right_eq_some.mp h
    exact ⟨.interrupt, by simp, h⟩
  · rcases orElse_eq_some h with h | h
    · exact ⟨.print true, by simp, h⟩
    · rcases orElse_eq_some h with h | h
      · exact ⟨.conclude, by simp, h⟩
      · exact ⟨.type, by simp, h⟩

theorem history_of_step? (h : t.step? w = some (t', w')) : History t w [] t' w' := by
  obtain ⟨m, hm, hmove⟩ := move_of_step? h
  exact History.begin.next hm hmove

/-- The next step of the studio. -/
theorem history_of_studio_step? {limit : Option Nat} (t : Terminal)
    (hs : Bridge.Speech { settings } more w.bridge) (h : w.step? limit = some w') :
    ∃ log, History t w log t w' := by
  obtain ⟨acts, hruns⟩ := hs.runs
  rcases Studio.step?_cases hruns h with hb | ⟨act, hown, hstep⟩
  · exact ⟨[], History.begin.apart hb⟩
  · obtain ⟨out, hu⟩ := Bridge.step_iff_utters.mp hstep
    exact ⟨_, History.begin.meanwhile hu (Connection.leavesAlone_of_isOwn hown _ _)⟩

/-- **What a terminal does while it waits is one of its histories**, however long it waits.  So a
terminal that is let go on until its call ends does nothing that the theory does not speak of. -/
theorem waitUpTo_history (fuel : Nat) (hs : Bridge.Speech { settings } more w.bridge) :
    ∃ log, History t w log (waitUpTo fuel t w).1 (waitUpTo fuel t w).2 := by
  induction fuel generalizing t w more with
  | zero => exact ⟨[], .begin⟩
  | succ fuel ih =>
    unfold waitUpTo
    split
    · exact ⟨[], .begin⟩
    · split
      · rename_i t' w' hstep
        have hnext := history_of_step? hstep
        obtain ⟨log, hlater⟩ := ih (t := t') (hnext.speech hs)
        exact ⟨_, hnext.append hlater⟩
      · split
        · rename_i w' hstep
          obtain ⟨out, hnext⟩ := history_of_studio_step? t hs hstep
          obtain ⟨log, hlater⟩ := ih (t := t) (hnext.speech hs)
          exact ⟨_, hnext.append hlater⟩
        · exact ⟨[], .begin⟩

end Terminal

/-- **All that comes before a call ends is a history of its terminal.** -/
theorem Begun.finish_history {settings : RunSettings} {more : List (SessionId × Output.Event)}
    {t : Terminal} {w : Studio} {e : Ending} (hs : Bridge.Speech { settings } more w.bridge)
    (h : (Begun.running t w).finish = some e) :
    ∃ log t' w' r, Terminal.History t w log t' w' ∧ t'.done? = some r
      ∧ e = .ofResult (t'.text .stdout) (t'.text .stderr) r := by
  obtain ⟨log, hhistory⟩ := Terminal.waitUpTo_history (t := t) Studio.patience hs
  obtain ⟨r, hdone, rfl⟩ := Option.map_eq_some_iff.mp h
  exact ⟨log, _, _, r, hhistory, hdone, rfl⟩

end Scriptorium
