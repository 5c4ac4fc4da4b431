import Scriptorium.Proofs.Bridge.Registry

/-!
# How runs go through their phases

A step of a bridge is the business of one run: that run goes on, by what its supervisor or a pump
does, or comes to its next phase, and the other runs stay as far as they were (`Step.moves`).  What
is said of a run and holds along `Phase.Moves` therefore holds as long as the bridge goes on.
-/
namespace Scriptorium

open Run

theorem Run.Terms.of_settings {settings : RunSettings} {now : Nat} {terms : Terms}
    (h : Terms.ofSettings? settings now = some terms) :
    terms.ceiling = settings.ceiling ∧ terms.chunkSize = settings.chunkSize := by
  unfold Terms.ofSettings? at h
  split at h
  · exact Option.some.inj h ▸ ⟨rfl, rfl⟩
  · split at h
    · exact Option.some.inj h ▸ ⟨rfl, rfl⟩
    · exact absurd h (by simp)

/-! ## 1. The moves of a run -/

/-- What a step can do to the phase of a run. -/
inductive Phase.Moves (info : RunInfo) : Phase → Phase → Prop
  | stays (p : Phase) : Moves info p p
  | goesOn {s s' : Supervision} {now : Nat} {cancelled : Bool} {r : Reaction} :
      Supervision.Step now cancelled s s' r → Moves info (.supervised s) (.supervised s')
  | ends {s : Supervision} (now : Nat) : s.supervisor.isActive = false →
      Moves info (.supervised s)
        (.ended (s.supervisor.outcome s.terms.ceiling info.id (now - info.started)))
  | removes (r : RunResult) : Moves info (.ended r) (.removed r)
  | settles (r : RunResult) : Moves info (.removed r) (.settled r)
  | reports (r : RunResult) : Moves info (.settled r) (.reported r)

namespace Bridge

variable {b b' : Bridge} {t t' : Task} {act : Act}

/-- Every run of `b'` is one of `b` and as far as it was. -/
def SamePhases (b b' : Bridge) : Prop :=
  ∀ t' ∈ b'.tasks, ∃ t ∈ b.tasks, t'.info = t.info ∧ t'.phase = t.phase

theorem SamePhases.refl (b : Bridge) : SamePhases b b := fun t ht => ⟨t, ht, rfl, rfl⟩

theorem SamePhases.trans {b'' : Bridge} (h : SamePhases b b') (h' : SamePhases b' b'') :
    SamePhases b b'' := by
  intro t'' ht''
  obtain ⟨t', ht', hi', hp'⟩ := h' t'' ht''
  obtain ⟨t, ht, hi, hp⟩ := h t' ht'
  exact ⟨t, ht, hi'.trans hi, hp'.trans hp⟩

theorem samePhases_updateTask {id : Id} {f : Task → Task}
    (hf : ∀ t, (f t).info = t.info ∧ (f t).phase = t.phase) :
    SamePhases b (b.updateTask id f) := by
  intro t' ht'
  obtain ⟨t, ht, rfl⟩ := List.mem_map.mp ht'
  refine ⟨t, ht, ?_⟩
  split
  · exact hf t
  · exact ⟨rfl, rfl⟩

theorem samePhases_fireCancel (b : Bridge) (id : Id) : SamePhases b (b.fireCancel id) :=
  samePhases_updateTask fun _ => ⟨rfl, rfl⟩

theorem samePhases_detach (b : Bridge) (id : Id) : SamePhases b (b.detach id) :=
  samePhases_updateTask fun _ => ⟨rfl, rfl⟩

theorem samePhases_cancel (b : Bridge) (session : SessionId) :
    SamePhases b (b.cancel session).1 := by
  unfold cancel
  split
  · exact samePhases_fireCancel b _
  · exact .refl b

theorem samePhases_displace (b : Bridge) (session : SessionId) :
    SamePhases b (b.displace session) := by
  unfold displace
  split
  · exact (samePhases_fireCancel b _).trans (samePhases_detach _ _)
  · exact .refl b

/-- A write does not bring any run nearer to its end. -/
theorem samePhases_offer (b : Bridge) (session : SessionId) (data : Bytes) :
    SamePhases b (b.offer session data).1 := by
  unfold offer
  split
  · exact .refl b
  · split
    · exact .refl b
    · split
      · exact .refl b
      · exact samePhases_updateTask fun _ => ⟨rfl, rfl⟩

theorem samePhases_endInput (b : Bridge) (session : SessionId) :
    SamePhases b (b.endInput session).1 := by
  unfold endInput
  split
  · exact .refl b
  · exact samePhases_detach b _

theorem samePhases_deregister (b : Bridge) (info : RunInfo) :
    SamePhases b (b.deregister info) := by
  unfold deregister
  split
  · split
    · exact samePhases_detach b _
    · exact .refl b
  · exact .refl b

@[simp] theorem tasks_react (b : Bridge) (info : RunInfo) (next : Supervision × Reaction) :
    (b.react info next).tasks = (b.setSupervision info.id next.1).tasks := by
  unfold react deliver
  split <;> rfl

/-- A run of the bridge has come to another phase; the others are as far as they were. -/
theorem moves_updateTask (hn : (b.tasks.map (·.info.id)).Nodup) (ht : t ∈ b.tasks) {p : Phase}
    (hp : t.phase.Moves t.info p) (hs : SamePhases b b')
    (ht' : t' ∈ (b'.updateTask t.info.id fun u => { u with phase := p }).tasks) :
    ∃ u ∈ b.tasks, t'.info = u.info ∧ u.phase.Moves u.info t'.phase := by
  obtain ⟨v, hv, rfl⟩ := List.mem_map.mp ht'
  obtain ⟨u, hu, hi, hph⟩ := hs v hv
  refine ⟨u, hu, ?_⟩
  by_cases h : v.info.id = t.info.id
  · obtain rfl := eq_of_id_eq hn ht hu (hi ▸ h)
    rw [if_pos h]
    exact ⟨hi, hp⟩
  · rw [if_neg h]
    exact ⟨hi, hph ▸ .stays _⟩

theorem SamePhases.moves (h : SamePhases b b') (ht' : t' ∈ b'.tasks) :
    ∃ t ∈ b.tasks, t'.info = t.info ∧ t.phase.Moves t.info t'.phase := by
  obtain ⟨t, ht, hi, hp⟩ := h t' ht'
  exact ⟨t, ht, hi, hp ▸ .stays _⟩

/-- **What a step does to the runs.**  A run that is there afterwards was there before, and has
come on by one move at most, or it has just started. -/
theorem Step.moves (hn : (b.tasks.map (·.info.id)).Nodup) (h : Step b act b')
    (ht' : t' ∈ b'.tasks) :
    (∃ t ∈ b.tasks, t'.info = t.info ∧ t.phase.Moves t.info t'.phase)
      ∨ (act = .started t'.info ∧ t'.phase = firstPhase b.settings t'.info.started) := by
  cases h with
  | start _ hs =>
    obtain ⟨script, -, -, -, rfl, rfl⟩ := start_eq_ok hs
    rw [register_tasks] at ht'
    rcases List.mem_append.mp ht' with ht' | ht'
    · exact .inl ((samePhases_displace b _).moves ht')
    · obtain rfl := List.mem_singleton.mp ht'
      exact .inr ⟨rfl, rfl⟩
  | refuse _ => exact .inl ((SamePhases.refl b).moves ht')
  | offer session data => exact .inl ((samePhases_offer b session data).moves ht')
  | release run =>
    have hs : SamePhases b (b.release run) := samePhases_updateTask fun _ => ⟨rfl, rfl⟩
    exact .inl (hs.moves ht')
  | endInput session => exact .inl ((samePhases_endInput b session).moves ht')
  | cancel session => exact .inl ((samePhases_cancel b session).moves ht')
  | close session => exact .inl ((samePhases_cancel (b.unsubscribe session).1 session).moves ht')
  | subscribe session => exact .inl ((SamePhases.refl b).moves ht')
  | unsubscribe session => exact .inl ((SamePhases.refl b).moves ht')
  | takeAll _ => exact .inl ((SamePhases.refl b).moves ht')
  | takeNext _ => exact .inl ((SamePhases.refl b).moves ht')
  | hangUp i => exact .inl ((SamePhases.refl b).moves ht')
  | supervise now ht hp hs =>
    rw [tasks_react] at ht'
    exact .inl (moves_updateTask hn ht (hp ▸ .goesOn hs) (.refl b) ht')
  | conclude now ht hp ha =>
    exact .inl (moves_updateTask hn ht (hp ▸ .ends now ha) (.refl b) ht')
  | @write t w ht _ =>
    have hs : SamePhases b (b.updateTask t.info.id fun t => { t with writer := w }) :=
      samePhases_updateTask fun _ => ⟨rfl, rfl⟩
    exact .inl (hs.moves ht')
  | @deregister t r _ ht hp hnext =>
    unfold nextPhase? at hnext
    rw [hp] at hnext
    obtain rfl := Option.some.inj hnext
    exact .inl (moves_updateTask hn ht (hp ▸ .removes r) (samePhases_deregister b t.info) ht')
  | @settle t _ ht hp hnext =>
    unfold nextPhase? at hnext
    split at hnext
    · rename_i r hr
      exact absurd hr (hp r)
    · rename_i r hr
      obtain rfl := Option.some.inj hnext
      exact .inl (moves_updateTask hn ht (hr ▸ .settles r) (.refl b) ht')
    · rename_i r hr
      obtain rfl := Option.some.inj hnext
      exact .inl (moves_updateTask hn ht (hr ▸ .reports r) (.refl b) ht')
    · exact absurd hnext (by simp)

variable {settings : RunSettings} {log : List Act}

/-- **What holds of a run that starts, and is kept by every move, holds of every run.**  A run has
one course of phases, so this is the induction that results, transcripts and reasons are all shown
by. -/
theorem phases_of_runs {P : RunInfo → Phase → Prop}
    (hstart : ∀ info, P info (firstPhase settings info.started))
    (hmove : ∀ info p p', P info p → p.Moves info p' → P info p') (h : Runs settings log b) :
    ∀ t ∈ b.tasks, P t.info t.phase := by
  induction h with
  | begin => exact fun t ht => absurd ht (by simp)
  | next hruns hstep ih =>
    have hc := Consistent.of_runs hruns
    intro t' ht'
    rcases hstep.moves hc.nodup ht' with ⟨t, ht, hi, hm⟩ | ⟨-, hp⟩
    · rw [hi]
      exact hmove _ _ _ (ih t ht) hm
    · rw [hp, hc.settings_eq]
      exact hstart t'.info

/-! ## 2. Every result is a verdict -/

/-- What the supervisor has learned of, or had learned of in the end, accounts for the phase. -/
def Accounted (settings : RunSettings) (info : RunInfo) : Phase → Prop
  | .supervised s => Terms.ofSettings? settings info.started = some s.terms
      ∧ ∃ log, Watch s.terms {} log s.supervisor
  | .ended r | .removed r | .settled r | .reported r =>
      ∃ log s terms now, Terms.ofSettings? settings info.started = some terms
        ∧ Watch terms {} log s ∧ s.isActive = false
        ∧ r = s.outcome terms.ceiling info.id (now - info.started)
  | .lost => Terms.ofSettings? settings info.started = none

theorem accounted_firstPhase (settings : RunSettings) (info : RunInfo) :
    Accounted settings info (firstPhase settings info.started) := by
  unfold firstPhase
  split
  · rename_i terms h
    exact ⟨h, [], .begin⟩
  · rename_i h
    exact h

/-- What a run has learned accounts for its next phase as well: while it is supervised it learns
more, and later phases only hand the result on. -/
theorem Accounted.moves {info : RunInfo} {p p' : Phase} (h : Accounted settings info p)
    (hm : p.Moves info p') : Accounted settings info p' := by
  cases hm with
  | stays => exact h
  | goesOn hs =>
    obtain ⟨hterms, log, hw⟩ := h
    obtain ⟨hsame, ⟨hsup, -⟩ | ⟨e, ha, hsup, -⟩⟩ := hs.watch
    · exact ⟨hsame ▸ hterms, log, by rwa [hsame, hsup]⟩
    · exact ⟨hsame ▸ hterms, _, by rw [hsame, hsup]; exact hw.learn _ e ha⟩
  | ends now ha =>
    obtain ⟨hterms, log, hw⟩ := h
    exact ⟨log, _, _, now, hterms, hw, ha, rfl⟩
  | removes r => exact h
  | settles r => exact h
  | reports r => exact h

theorem accounted_of_runs (h : Runs settings log b) :
    ∀ t ∈ b.tasks, Accounted settings t.info t.phase :=
  phases_of_runs (accounted_firstPhase settings) (fun _ _ _ ha hm => ha.moves hm) h

/-- The pumps of a run always ask for something. -/
theorem chunkSize_pos_of_runs (h : Runs settings log b) (ht : t ∈ b.tasks) {s : Supervision}
    (hp : t.phase = .supervised s) : 0 < s.terms.chunkSize := by
  have ha := accounted_of_runs h t ht
  rw [hp] at ha
  rw [(Terms.of_settings ha.1).2]
  exact settings.chunkSize_pos

end Bridge
end Scriptorium
