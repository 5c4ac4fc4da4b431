import Scriptorium.Proofs.Run.Line

/-!
# Who comes too late to the input of a run

A caller is told `false` when there is no input any more, and one would think that whoever comes
later is told so too.  A writer that stops tells the caller whose write it was working on, or lets
go of the write, and closes its queue after that.  In between the caller may have its answer, and
the next one finds the queue open; the session even can end an input that has already failed, and
is told that it was open (`Line.told_true_after_refusal`).

`Line.IsShut` is the condition that counts: the input was taken from the session, or the queue is
closed.  Neither is ever undone (`Line.Step.stays_shut`), and from then on, and only from then on,
all who come are told `false` (`Line.shut_iff_told_false`).  A writer that has told a caller `false`
has stopped, so it is one step away from that.
-/
namespace Scriptorium.Run.Line

variable {log more : List Act} {act : Act} {l l' : Line} {n : Nat}

/-! ## 1. Inputs that are shut -/

/-- The input cannot be reached through the session, or the queue is closed. -/
def IsShut (l : Line) : Prop := l.writer.attached = false ∨ l.writer.isOpen = false

instance (l : Line) : Decidable l.IsShut := inferInstanceAs (Decidable (_ ∨ _))

/-- The session cannot come by an input that was taken from it, nor is a queue opened again. -/
theorem Step.stays_shut (h : Step l act l') :
    (l.writer.attached = false → l'.writer.attached = false)
      ∧ (l.writer.isOpen = false → l'.writer.isOpen = false) := by
  cases h with
  | add _ hadd =>
    obtain ⟨hopen, -, rfl⟩ := add_eq_some hadd
    exact ⟨fun hl => hl, fun hl => absurd (hopen.symm.trans hl) (by simp)⟩
  | begin _ hbegin =>
    obtain ⟨-, next, rest, -, -, rfl⟩ := begin?_eq_some hbegin
    exact ⟨fun hl => hl, fun hl => hl⟩
  | complete _ hcomplete =>
    obtain ⟨-, n, -, rfl⟩ := complete?_eq_some hcomplete
    exact ⟨fun hl => hl, fun hl => hl⟩
  | refuse _ hc => exact ⟨fun hl => by simpa [Writer.refuse, hc] using hl, fun hl => hl⟩
  | endInput _ => exact ⟨fun _ => rfl, fun hl => hl⟩
  | detach => exact ⟨fun _ => rfl, fun hl => hl⟩
  | close _ => exact ⟨fun hl => hl, fun _ => rfl⟩
  | _ => exact ⟨fun hl => hl, fun hl => hl⟩

theorem IsShut.steps (hshut : l.IsShut) (h : Steps l more l') : l'.IsShut := by
  induction h with
  | begin => exact hshut
  | next _ hstep ih =>
    rcases ih with hdetached | hclosed
    · exact .inl (hstep.stays_shut.1 hdetached)
    · exact .inr (hstep.stays_shut.2 hclosed)

/-- A write only fails when the writer stops. -/
theorem Step.failed_cases (h : Step l act l') (hn : (n, false) ∈ l'.writer.acknowledged) :
    (n, false) ∈ l.writer.acknowledged ∨ act = .refused := by
  cases h with
  | add _ hadd =>
    obtain ⟨-, -, rfl⟩ := add_eq_some hadd
    exact .inl hn
  | begin _ hbegin =>
    obtain ⟨-, next, rest, -, -, rfl⟩ := begin?_eq_some hbegin
    exact .inl hn
  | complete _ hcomplete =>
    obtain ⟨-, n, -, rfl⟩ := complete?_eq_some hcomplete
    exact .inl (by simpa using hn)
  | refuse _ _ => exact .inr rfl
  | _ => exact .inl hn

theorem History.halted_of_failed (h : History log l) (hn : (n, false) ∈ l.writer.acknowledged) :
    l.halted = true := by
  induction h with
  | begin => exact absurd hn (by simp)
  | next _ hstep ih =>
    rw [hstep.halted_eq]
    rcases hstep.failed_cases hn with hbefore | rfl
    · rw [ih hbefore, Bool.true_or]
    · exact Bool.or_true _

/-- A write whose fate is that it was not accepted has met a writer that has stopped: the pipe has
refused it, or the writer has let go of it, or has closed its queue. -/
theorem History.halted_of_fate? (h : History log l) (hf : l.fate? n = some false) :
    l.halted = true := by
  cases hlookup : l.writer.acknowledged.lookup n with
  | some accepted =>
    obtain rfl : accepted = false := by simpa [fate?, Writer.fate?, hlookup] using hf
    obtain ⟨before, after, hack, -⟩ := List.lookup_eq_some_iff.mp hlookup
    exact h.halted_of_failed (n := n) (by simp [hack])
  | none =>
    cases hgoes : l.halted with
    | true => rfl
    | false => simp [fate?, Writer.fate?, hlookup, h.isOpen hgoes, hgoes] at hf

/-! ## 2. Those who have hold of the input -/

/-- How a caller gets on with its errand, on a line as it is. -/
inductive Turns (l : Line) : Errand → Errand → Prop
  | add {data : Bytes} {n : Nat} : l.writer.isOpen = true → Turns l (.adding data) (.waiting n)
  | addNot {data : Bytes} : l.writer.isOpen = false → Turns l (.adding data) (.leaving false)
  | hear {n : Nat} {accepted : Bool} : l.fate? n = some accepted →
      Turns l (.waiting n) (.leaving accepted)
  | timeUp {n : Nat} : Turns l (.waiting n) (.leaving true)
  | look : Turns l .ending (.leaving l.writer.isOpen)

/-- **What holds of those who have hold of the input** still does after a step, if it holds of those
who come and of those who get on with their errand. -/
theorem Step.forall_callers {P : Caller → Prop} (h : Step l act l') (hall : ∀ c ∈ l.callers, P c)
    (hwrites : ∀ data, l.writer.attached = true → l'.came = l.came + 1 → P ⟨l.came, .adding data⟩)
    (hends : l.writer.attached = true → l'.came = l.came + 1 → l'.writer.attached = false →
      P ⟨l.came, .ending⟩)
    (hturns : ∀ k errand errand', l.Turns errand errand' → P ⟨k, errand⟩ → P ⟨k, errand'⟩) :
    ∀ c ∈ l'.callers, P c := by
  have hcome {errand : Errand} (hp : P ⟨l.came, errand⟩) :
      ∀ c ∈ l.callers ++ [⟨l.came, errand⟩], P c := by
    exact List.forall_mem_append.mpr ⟨hall, by simpa using hp⟩
  have hturn {before after : List Caller} {k : Nat} {errand errand' : Errand}
      (hc : l.callers = before ++ ⟨k, errand⟩ :: after) (ht : l.Turns errand errand') :
      ∀ c ∈ before ++ ⟨k, errand'⟩ :: after, P c := by
    simp only [hc, List.forall_mem_append, List.forall_mem_cons] at hall ⊢
    exact ⟨hall.1, hturns k errand errand' ht hall.2.1, hall.2.2⟩
  have hgo {before after : List Caller} {c : Caller} (hc : l.callers = before ++ c :: after) :
      ∀ c ∈ before ++ after, P c := by
    simp only [hc, List.forall_mem_append, List.forall_mem_cons] at hall ⊢
    exact ⟨hall.1, hall.2.2⟩
  cases h with
  | write data ha => exact hcome (hwrites data ha rfl)
  | endInput ha => exact hcome (hends ha rfl rfl)
  | add hc hadd =>
    obtain ⟨hopen, -, -⟩ := add_eq_some hadd
    exact hturn hc (.add hopen)
  | addNot hc hclosed => exact hturn hc (.addNot hclosed)
  | hear hc hf => exact hturn hc (.hear hf)
  | timeUp hc => exact hturn hc .timeUp
  | look hc => exact hturn hc .look
  | leave hc | abandon hc => exact hgo hc
  | _ => exact hall

theorem Step.came_le (h : Step l act l') : l.came ≤ l'.came := by
  cases h with
  | write _ _ | endInput _ => exact Nat.le_succ _
  | _ => exact Nat.le_refl _

/-- Those who have hold of the input have come. -/
theorem History.number_lt (h : History log l) : ∀ c ∈ l.callers, c.number < l.came := by
  induction h with
  | begin => simp
  | @next _ _ l l' _ hstep ih =>
    have hearlier : ∀ c ∈ l.callers, c.number < l'.came :=
      fun c hc => Nat.lt_of_lt_of_le (ih c hc) hstep.came_le
    refine hstep.forall_callers hearlier ?_ ?_ ?_
    · intro data _ hcame
      exact hcame ▸ Nat.lt_succ_self _
    · intro _ hcame _
      exact hcame ▸ Nat.lt_succ_self _
    · intro k errand errand' _ hk
      exact hk

/-- Who turns to leave with `false` finds a writer that has stopped. -/
theorem Turns.halted {errand : Errand} (ht : l.Turns errand (.leaving false))
    (h : History log l) : l.halted = true := by
  have hstopped (hclosed : l.writer.isOpen = false) : l.halted = true := by
    cases hgoes : l.halted with
    | true => rfl
    | false => exact absurd (hclosed.symm.trans (h.isOpen hgoes)) (by simp)
  generalize he : Errand.leaving false = errand' at ht
  cases ht with
  | add _ | timeUp => exact absurd he (by simp)
  | addNot hclosed => exact hstopped hclosed
  | look => exact hstopped (Errand.leaving.inj he).symm
  | hear hf =>
    obtain rfl := Errand.leaving.inj he
    exact h.halted_of_fate? hf

/-- Who is about to leave with `false` has met a writer that has stopped, and while someone ends the
input the session cannot come by it. -/
theorem History.errands (h : History log l) : ∀ c ∈ l.callers,
    (c.errand = .leaving false → l.halted = true)
      ∧ (c.errand = .ending → l.writer.attached = false) := by
  induction h with
  | begin => simp
  | @next log act l l' hbefore hstep ih =>
    have hhalted (hl : l.halted = true) : l'.halted = true := by
      rw [hstep.halted_eq, hl, Bool.true_or]
    have hearlier : ∀ c ∈ l.callers, (c.errand = .leaving false → l'.halted = true)
        ∧ (c.errand = .ending → l'.writer.attached = false) := by
      intro c hc
      obtain ⟨hrefused, hending⟩ := ih c hc
      exact ⟨fun he => hhalted (hrefused he), fun he => hstep.stays_shut.1 (hending he)⟩
    refine hstep.forall_callers hearlier ?_ ?_ ?_
    · intro data _ _
      exact ⟨fun he => absurd he (by simp), fun he => absurd he (by simp)⟩
    · intro _ _ hdetached
      exact ⟨fun he => absurd he (by simp), fun _ => hdetached⟩
    · intro k errand errand' ht _
      refine ⟨fun he => ?_, fun he => ?_⟩
      · obtain rfl : errand' = .leaving false := he
        exact hhalted (ht.halted hbefore)
      · cases ht with
        | _ => exact absurd he (by simp)

/-- Who is let go of with an answer was about to leave with it. -/
theorem Step.mem_of_answered {k : Nat} {answer : Bool} (h : Step l (.answered k answer) l') :
    ⟨k, .leaving answer⟩ ∈ l.callers := by
  cases h with
  | leave hc => simp [hc]

/-- Who was told `false` has met a writer that has stopped. -/
theorem History.halted_of_told (h : History log l) {k : Nat} (ha : .answered k false ∈ log) :
    l.halted = true := by
  induction h with
  | begin => exact absurd ha (by simp)
  | next hbefore hstep ih =>
    rw [hstep.halted_eq]
    rcases List.mem_append.mp ha with hearlier | hnow
    · rw [ih hearlier, Bool.true_or]
    · obtain rfl := List.mem_singleton.mp hnow
      rw [(History.errands hbefore _ hstep.mem_of_answered).1 rfl, Bool.true_or]

/-! ## 3. Those who come later -/

/-- Those who came as the caller with the number `k` or later are not let in, or come in vain. -/
inductive TurnsAway (k : Nat) (l : Line) : Prop
  | out : l.writer.attached = false → (∀ c ∈ l.callers, c.number < k) → TurnsAway k l
  | vain : l.writer.isOpen = false → (∀ c ∈ l.callers, k ≤ c.number → c.errand.isVain = true) →
      TurnsAway k l

/-- Whoever came late is still turned away after a step: a queue that is closed takes no write and
is found closed, and an input that was taken lets nobody in. -/
theorem TurnsAway.step {k : Nat} (h : TurnsAway k l) (hstep : Step l act l') :
    TurnsAway k l' := by
  cases h with
  | out hdetached hall =>
    refine .out (hstep.stays_shut.1 hdetached) (hstep.forall_callers hall ?_ ?_ ?_)
    · intro data ha
      exact absurd (ha.symm.trans hdetached) (by simp)
    · intro ha
      exact absurd (ha.symm.trans hdetached) (by simp)
    · intro j errand errand' _ hj
      exact hj
  | vain hclosed hall =>
    refine .vain (hstep.stays_shut.2 hclosed) (hstep.forall_callers hall ?_ ?_ ?_)
    · intro data _ _ _
      rfl
    · intro _ _ _ _
      rfl
    · intro j errand errand' ht hj hk
      have hvain : errand.isVain = true := hj hk
      cases ht with
      | add hopen => exact absurd (hclosed.symm.trans hopen) (by simp)
      | addNot _ => rfl
      | hear _ | timeUp => exact absurd hvain (by simp [Errand.isVain])
      | look => simp [Errand.isVain, hclosed]

theorem TurnsAway.answer {k j : Nat} {answer : Bool} (h : TurnsAway k l)
    (hstep : Step l (.answered j answer) l') (hj : k ≤ j) : answer = false := by
  have hmem := hstep.mem_of_answered
  cases h with
  | out _ hall => exact absurd (hall _ hmem) (Nat.not_lt.mpr hj)
  | vain _ hall => simpa [Errand.isVain] using hall _ hmem hj

/-- From the moment at which the input was shut, whoever comes is not let in or told `false`. -/
theorem History.told_false (h : History log l) (hshut : l.IsShut) (hmore : Steps l more l')
    {k : Nat} {answer : Bool} (ha : .answered k answer ∈ more) (hk : l.came ≤ k) :
    answer = false := by
  have haway : TurnsAway l.came l := by
    rcases hshut with hdetached | hclosed
    · exact .out hdetached h.number_lt
    · exact .vain hclosed fun c hc hge => absurd (h.number_lt c hc) (Nat.not_lt.mpr hge)
  have hkept : TurnsAway l.came l' ∧ ∀ k answer, .answered k answer ∈ more → l.came ≤ k →
      answer = false := by
    clear ha
    induction hmore with
    | begin => exact ⟨haway, fun _ _ ha => absurd ha (by simp)⟩
    | next _ hstep ih =>
      refine ⟨ih.1.step hstep, fun k answer ha hk => ?_⟩
      rcases List.mem_append.mp ha with ha | ha
      · exact ih.2 k answer ha hk
      · obtain rfl := List.mem_singleton.mp ha
        exact ih.1.answer hstep hk
  exact hkept.2 k answer ha hk

/-- While the input is not shut, the session can come to end it and is told that it was open. -/
theorem exists_told_true (hopen : ¬ l.IsShut) :
    ∃ more l', Steps l more l' ∧ .answered l.came true ∈ more := by
  obtain ⟨ha, ho⟩ := not_or.mp hopen
  have ha : l.writer.attached = true := by simpa using ha
  have ho : l.writer.isOpen = true := by simpa using ho
  have hends := Steps.begin.next (Step.endInput ha)
  have hlooks := hends.next (.look rfl)
  have hleaves := hlooks.next (.leave rfl)
  refine ⟨_, _, hleaves, ?_⟩
  simp [hold, detach, ho]

/-- What has happened when the only write has failed and its caller has left. -/
def refusedLog : List Act := [.came 0, .added [0x78], .aside, .refused, .aside, .answered 0 false]

/-- The line after this, on which the queue is not closed yet. -/
def refusedLine : Line :=
  { writer := { added := 1, acknowledged := [(0, false)] }, came := 1, halted := true }

/-- The failed write is a history of a line: it is added, begun and refused, and the caller hears of
it and leaves before the writer closes its queue. -/
theorem refused_history : History refusedLog refusedLine := by
  have halone {c : Caller} : [c] = [] ++ c :: [] := rfl
  have h := Steps.begin (l := {})
    |>.next (.write [0x78] rfl)
    |>.next (.add halone rfl)
    |>.next (.begin rfl rfl)
    |>.next (.refuse rfl rfl)
    |>.next (.hear halone rfl)
    |>.next (.leave halone)
  exact h

end Scriptorium.Run.Line
