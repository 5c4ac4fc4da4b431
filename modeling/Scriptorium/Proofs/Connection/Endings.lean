import Scriptorium.Proofs.Connection.Delivery

/-!
# Every run is told of when it starts and when it ends

A run that a client's message starts is told of at once, and from then on the connection watches it
(`Connection.watched`); when its result can be had, its end is told and it is no longer watched.  So
at any moment each run of the session is either watched, and its end was not told, or it is not, and
its end was told once (`Tells.ends`).  It does not matter how many runs of the session go on at
the same time, in which order they end, or whether their supervisors come to an end at all: what is
told of the end is the result that can be had.

All of this is said of what was told (`told`), which is on the wire but for the answers that wait.
A connection that has nothing left to do has sent them all, and an open connection can always come
to that point.
-/
namespace Scriptorium

open Run

namespace ServerMessage

/-- The run whose start a message tells, and the path of its script. -/
def started? : ServerMessage → Option (Id × String)
  | .runStarted run path => some (run, path)
  | _ => none

variable {m : ServerMessage}

theorem started?_of_run? (h : m.run? = none) : m.started? = none := by
  cases m with
  | runStarted run path => exact absurd h (by simp [run?])
  | _ => rfl

@[simp] theorem started?_ofResult (run : Id) (r : RunResult) :
    (ofResult run r).started? = none := by
  cases r <;> rfl

end ServerMessage

/-! ## 1. The runs of a session, and their results -/

namespace Bridge

variable {settings : RunSettings} {acts : List Act} {b b' : Bridge}

theorem SameView.infos (h : SameView b b') : b'.infos = b.infos := by
  rw [← map_fst_starts_eq_infos, ← map_fst_starts_eq_infos, h.starts]

theorem nodup_runsOf (h : Runs settings acts b) (session : SessionId) :
    ((b.runsOf session).map (·.id)).Nodup :=
  (nodup_infos h).sublist (List.filter_sublist.map _)

theorem Step.runsOf_of_started {info : RunInfo} (hstep : Step b (.started info) b')
    (h : Runs settings acts b) :
    b'.runsOf info.session = b.runsOf info.session ++ [info] := by
  rw [runsOf, hstep.infos h, List.filter_append, ← runsOf]
  simp [startedIn]

/-- The runs of a session are as they were, and so are the results that can be had. -/
structure SameRuns (session : SessionId) (b b' : Bridge) : Prop where
  runsOf_eq : b'.runsOf session = b.runsOf session
  result? : ∀ run r, b.result? run = some r → b'.result? run = some r

theorem SameRuns.refl (session : SessionId) (b : Bridge) : SameRuns session b b :=
  ⟨rfl, fun _ _ hr => hr⟩

theorem sameRuns_of_utters {session : SessionId} {channel : Nat} {act : Act}
    {out : Option (SessionId × Output.Event)} (h : Runs settings acts b)
    (hu : Utters b act out b') (hl : act.LeavesAlone session channel) : SameRuns session b b' :=
  ⟨hu.step.runsOf_of_leavesAlone h hl, fun _ _ hr => (Steps.begin.next hu.step).result? h hr⟩

end Bridge

namespace Connection

variable {ws : Workspace} {c c' : Connection} {w w' : Studio}
variable {log : List (SessionId × Output.Event)}
variable {settings : RunSettings} {acts : List Bridge.Act}

theorem Asked.infos {b b' : Bridge} (h : Asked b b') (hruns : Bridge.Runs settings acts b) :
    b'.infos = b.infos := by
  cases h with
  | nothing => rfl
  | request ha hstep => exact hstep.infos_of_quiet hruns (Bridge.Act.isQuiet_of_request ha)

theorem Asked.sameRuns {b b' : Bridge} (h : Asked b b') (hruns : Bridge.Runs settings acts b)
    (session : SessionId) : Bridge.SameRuns session b b' := by
  obtain ⟨more, hmore⟩ := h.steps
  refine ⟨?_, fun run r hr => hmore.result? hruns hr⟩
  rw [Bridge.runsOf, h.infos hruns, ← Bridge.runsOf]

/-! ## 2. Starts and ends among messages -/

/-- The runs whose start is told, with the paths of their scripts. -/
def startsIn (ms : List ServerMessage) : List (Id × String) := ms.filterMap (·.started?)

/-- The messages that tell of the end of a run. -/
def endsOf (run : Id) (ms : List ServerMessage) : List ServerMessage :=
  ms.filter (·.ended? = some run)

/-- What is to be told of the start of runs. -/
def startsFor (infos : List RunInfo) : List (Id × String) :=
  infos.map fun info => (info.id, info.script.display)

theorem startsIn_append (ms ns : List ServerMessage) :
    startsIn (ms ++ ns) = startsIn ms ++ startsIn ns :=
  List.filterMap_append

theorem endsOf_append (run : Id) (ms ns : List ServerMessage) :
    endsOf run (ms ++ ns) = endsOf run ms ++ endsOf run ns :=
  List.filter_append _ _

theorem startsIn_eq_nil {ms : List ServerMessage} (h : ∀ m ∈ ms, m.started? = none) :
    startsIn ms = [] :=
  List.filterMap_eq_nil_iff.mpr h

theorem endsOf_eq_nil {run : Id} {ms : List ServerMessage} (h : ∀ m ∈ ms, m.ended? ≠ some run) :
    endsOf run ms = [] :=
  List.filter_eq_nil_iff.mpr fun m hmem => by simpa using h m hmem

/-! ## 3. What is told while a connection is open -/

/-- The end of a run was told once, as its result is. -/
def EndTold (b : Bridge) (run : Id) (ms : List ServerMessage) : Prop :=
  ∃ r, b.result? run = some r ∧ endsOf run ms = [.ofResult run r]

/-- What an open connection has told of the runs of its session. -/
structure Tells (log : List (SessionId × Output.Event)) (c : Connection) (b : Bridge) : Prop where
  starts : startsIn c.told = startsFor (b.runsOf c.session)
  nodup : c.watched.Nodup
  owned : ∀ run ∈ c.watched, ∃ info ∈ b.runsOf c.session, info.id = run
  ends : ∀ info ∈ b.runsOf c.session,
    (info.id ∈ c.watched ∧ endsOf info.id c.told = [])
      ∨ (info.id ∉ c.watched ∧ EndTold b info.id c.told)
  known : ∀ m ∈ c.told, ∀ run, m.run? = some run → ∃ info ∈ b.runsOf c.session, info.id = run
  heard : ∀ e ∈ Bridge.heardBy c.session log, ∃ info ∈ b.runsOf c.session, info.id = e.run

namespace Tells

variable {b b' : Bridge}

/-- Messages that tell of no start and no end come in between. -/
theorem insert (h : Tells log c b) (ms : List ServerMessage)
    (hsame : Bridge.SameRuns c.session b b') (hid : c'.id = c.id)
    (hwatched : c'.watched = c.watched) {xs ys : List ServerMessage}
    (htold : c.told = xs ++ ys) (htold' : c'.told = xs ++ (ms ++ ys))
    (hquiet : ∀ m ∈ ms, m.started? = none ∧ m.ended? = none)
    (hknown : ∀ m ∈ ms, ∀ run, m.run? = some run → ∃ info ∈ b.runsOf c.session, info.id = run) :
    Tells log c' b' := by
  have hsession : c'.session = c.session := congrArg Id.text hid
  have hstarts : startsIn c'.told = startsIn c.told := by
    rw [htold', htold, startsIn_append, startsIn_append, startsIn_append,
      startsIn_eq_nil fun m hm => (hquiet m hm).1, List.nil_append]
  have hends : ∀ run, endsOf run c'.told = endsOf run c.told := by
    intro run
    have hnone : ∀ m ∈ ms, m.ended? ≠ some run := fun m hm he =>
      absurd ((hquiet m hm).2.symm.trans he) (by simp)
    rw [htold', htold, endsOf_append, endsOf_append, endsOf_append, endsOf_eq_nil hnone,
      List.nil_append]
  refine ⟨?_, hwatched ▸ h.nodup, ?_, ?_, ?_, ?_⟩
  · rw [hstarts, hsession, hsame.runsOf_eq]
    exact h.starts
  · rw [hwatched, hsession, hsame.runsOf_eq]
    exact h.owned
  · rw [hwatched, hsession, hsame.runsOf_eq]
    intro info hinfo
    rw [hends]
    rcases h.ends info hinfo with hleft | ⟨hnot, r, hr, hend⟩
    · exact .inl hleft
    · exact .inr ⟨hnot, r, hsame.result? _ r hr, (hends _).trans hend⟩
  · rw [hsession, hsame.runsOf_eq]
    intro m hmem run hrun
    rw [htold', List.mem_append, List.mem_append] at hmem
    rcases hmem with hmem | hmem | hmem
    · exact h.known m (htold ▸ List.mem_append_left _ hmem) run hrun
    · exact hknown m hmem run hrun
    · exact h.known m (htold ▸ List.mem_append_right _ hmem) run hrun
  · rw [hsession, hsame.runsOf_eq]
    exact h.heard

/-- Messages about no run come in between. -/
theorem insert_plain (h : Tells log c b) (ms : List ServerMessage)
    (hsame : Bridge.SameRuns c.session b b') (hid : c'.id = c.id)
    (hwatched : c'.watched = c.watched) {xs ys : List ServerMessage}
    (htold : c.told = xs ++ ys) (htold' : c'.told = xs ++ (ms ++ ys))
    (hrun : ∀ m ∈ ms, m.run? = none) : Tells log c' b' := by
  refine h.insert ms hsame hid hwatched htold htold' (fun m hm => ?_) fun m hm run he => ?_
  · exact ⟨ServerMessage.started?_of_run? (hrun m hm), ServerMessage.ended?_of_run? (hrun m hm)⟩
  · exact absurd ((hrun m hm).symm.trans he) (by simp)

/-- Nothing was told of a run that has not started. -/
theorem endsOf_of_unknown (h : Tells log c b) {run : Id}
    (hrun : ∀ info ∈ b.runsOf c.session, info.id ≠ run) : endsOf run c.told = [] := by
  refine endsOf_eq_nil fun m hmem he => ?_
  obtain ⟨info, hinfo, hid⟩ := h.known m hmem run (ServerMessage.run?_of_ended? he)
  exact hrun info hinfo hid

/-- Where the connection looks makes no difference to what was told. -/
theorem anew (h : Tells log c b) : Tells log c.anew b :=
  ⟨h.starts, h.nodup, h.owned, h.ends, h.known, h.heard⟩

/-- **A run that starts is told of, and watched.**  From now on exactly one end is to be told of it.
-/
theorem started (h : Tells log c b) (hruns : Bridge.Runs settings acts b) {info : RunInfo}
    (hs : info.session = c.session) (hfresh : ∀ t ∈ b.tasks, t.info.id ≠ info.id)
    (hstep : Bridge.Step b (.started info) b') : Tells log (c.note (.started info)) b' := by
  have hkeep : ∀ run r, b.result? run = some r → b'.result? run = some r :=
    fun run r hr => (Bridge.Steps.begin.next hstep).result? hruns hr
  have hruns' : b'.runsOf c.session = b.runsOf c.session ++ [info] :=
    hs ▸ hstep.runsOf_of_started hruns
  have hnew : ∀ other ∈ b.runsOf c.session, other.id ≠ info.id := by
    intro other ho
    obtain ⟨hin, -⟩ := Bridge.mem_runsOf.mp ho
    obtain ⟨t, ht, rfl⟩ := List.mem_map.mp hin
    exact hfresh t ht
  have hunwatched : info.id ∉ c.watched := by
    intro hw
    obtain ⟨other, ho, he⟩ := h.owned _ hw
    exact hnew other ho he
  have hold : ∀ run, (∃ other ∈ b.runsOf c.session, other.id = run) →
      ∃ other ∈ b'.runsOf c.session, other.id = run := by
    rintro run ⟨other, ho, he⟩
    exact ⟨other, hruns' ▸ List.mem_append_left _ ho, he⟩
  have hself : ∃ other ∈ b'.runsOf c.session, other.id = info.id :=
    ⟨info, hruns' ▸ List.mem_append_right _ (List.mem_singleton_self info), rfl⟩
  have htold : (c.note (.started info)).told
      = c.told ++ [.runStarted info.id info.script.display] := told_reply _ _
  have hends : ∀ run, endsOf run (c.note (.started info)).told = endsOf run c.told := by
    intro run
    have hnone : endsOf run [.runStarted info.id info.script.display] = [] :=
      endsOf_eq_nil (by simp [ServerMessage.ended?])
    rw [htold, endsOf_append, hnone, List.append_nil]
  refine ⟨?_, ?_, ?_, ?_, ?_, fun e he => hold _ (h.heard e he)⟩
  · have hfor : startsFor (b'.runsOf c.session)
        = startsFor (b.runsOf c.session) ++ [(info.id, info.script.display)] := by
      rw [hruns', startsFor, List.map_append]
      rfl
    rw [htold, startsIn_append, h.starts]
    exact hfor.symm
  · have hconcat := h.nodup.concat hunwatched
    rw [List.concat_eq_append] at hconcat
    exact hconcat
  · intro run hrun
    rcases List.mem_append.mp hrun with hrun | hrun
    · exact hold run (h.owned run hrun)
    · exact List.mem_singleton.mp hrun ▸ hself
  · intro other ho
    rw [hends]
    rcases List.mem_append.mp (hruns' ▸ ho) with ho | ho
    · rcases h.ends other ho with ⟨hw, hend⟩ | ⟨hw, r, hr, hend⟩
      · exact .inl ⟨List.mem_append_left _ hw, hend⟩
      · refine .inr ⟨fun hmem => ?_, r, hkeep _ r hr, (hends _).trans hend⟩
        rcases List.mem_append.mp hmem with hmem | hmem
        · exact hw hmem
        · exact hnew other ho (List.mem_singleton.mp hmem)
    · obtain rfl := List.mem_singleton.mp ho
      exact .inl ⟨List.mem_append_right _ (List.mem_singleton_self _), h.endsOf_of_unknown hnew⟩
  · intro m hmem run hrun
    rw [htold] at hmem
    rcases List.mem_append.mp hmem with hmem | hmem
    · exact hold run (h.known m hmem run hrun)
    · rw [List.mem_singleton.mp hmem] at hrun
      obtain rfl := Option.some.inj hrun
      exact hself

/-- **A run whose result can be had is told of, and no longer watched.**  What is told is the result
itself, so it tells what the run has come to and no second one can follow. -/
theorem reported (h : Tells log c b) (hruns : Bridge.Runs settings acts b) {run : Id}
    {r : RunResult} (hw : run ∈ c.watched) (hr : b.result? run = some r) :
    Tells log (reply { c with watched := c.watched.erase run } (.ofResult run r)) b := by
  have hended := Bridge.ended?_ofResult hruns hr
  have htold : (reply { c with watched := c.watched.erase run } (.ofResult run r)).told
      = c.told ++ [.ofResult run r] := told_reply _ _
  refine ⟨?_, h.nodup.erase run, ?_, ?_, ?_, h.heard⟩
  · have hnone : startsIn [.ofResult run r] = [] := startsIn_eq_nil (by simp)
    rw [htold, startsIn_append, hnone, List.append_nil]
    exact h.starts
  · exact fun other ho => h.owned other (List.mem_of_mem_erase ho)
  · intro info hinfo
    rw [EndTold, htold, endsOf_append]
    by_cases hrun : info.id = run
    · subst hrun
      have hnone : endsOf info.id c.told = [] := by
        rcases h.ends info hinfo with ⟨-, hend⟩ | ⟨hnot, -⟩
        · exact hend
        · exact absurd hw hnot
      have hone : endsOf info.id [.ofResult info.id r] = [.ofResult info.id r] := by
        simp [endsOf, hended]
      rw [hnone, hone]
      exact .inr ⟨h.nodup.not_mem_erase, r, hr, rfl⟩
    · have hnone : endsOf info.id [.ofResult run r] = [] :=
        endsOf_eq_nil (by simpa [hended] using fun he => hrun he.symm)
      have hiff : info.id ∈ c.watched.erase run ↔ info.id ∈ c.watched :=
        List.mem_erase_of_ne hrun
      rw [hnone, List.append_nil]
      rcases h.ends info hinfo with ⟨hmem, hend⟩ | ⟨hnot, hend⟩
      · exact .inl ⟨hiff.mpr hmem, hend⟩
      · exact .inr ⟨fun hmem => hnot (hiff.mp hmem), hend⟩
  · intro m hmem other ho
    rw [htold] at hmem
    rcases List.mem_append.mp hmem with hmem | hmem
    · exact h.known m hmem other ho
    · rw [List.mem_singleton.mp hmem, ServerMessage.run?_of_ended? hended] at ho
      obtain rfl := Option.some.inj ho
      exact h.owned _ hw

/-- **Each move tells what is to be told.**  Starts are told when runs start, ends when their
results can be had, and each of them once. -/
theorem moved (h : Tells log c w.bridge) (hd : Delivered log c w)
    (hruns : Bridge.Runs settings acts w.bridge) (hopen : c.isOpen = true) (hm : Moved c w c' w')
    (hopen' : c'.isOpen = true) : Tells log c' w'.bridge := by
  have hsplit : c.told = c.spoken ++ ([] ++ c.replies) := rfl
  cases hm with
  | @output e router hn =>
    have hheard : e ∈ Bridge.heardBy c.session log := by
      rw [← hd.sent_eq hopen, ((hd.serves hopen).next? hn).2]
      exact List.mem_append_right _ List.mem_cons_self
    refine h.insert [.ofEvent e] ⟨rfl, fun _ _ hr => hr⟩ rfl rfl hsplit (told_sent c _)
      (fun m hmem => ?_) fun m hmem run hrun => ?_
    · rw [List.mem_singleton.mp hmem]
      exact ⟨rfl, rfl⟩
    · rw [List.mem_singleton.mp hmem] at hrun
      obtain rfl := Option.some.inj hrun
      exact h.heard e hheard
  | answer _ hr =>
    exact h.insert_plain [] (.refl _ _) rfl rfl hsplit (told_answer hr) (by simp)
  | @aside m hrun =>
    exact h.insert_plain [m] (.refl _ _) rfl rfl hsplit (told_sent c m) (by simpa using hrun)
  | @plain ms _ _ hadds hrun hasked =>
    refine h.insert_plain ms (hasked.sameRuns hruns _) hadds.id_eq hadds.watched_eq
      (List.append_nil _).symm ?_ hrun
    rw [List.append_nil]
    exact hadds.told
  | started hs hfresh hstep => exact h.anew.started hruns hs hfresh hstep
  | reported hw hr => exact h.reported hruns hw hr
  | gone _ _ => exact absurd hopen' (by simp)

/-- What happens meanwhile changes nothing of what was told. -/
theorem meanwhile (h : Tells log c b) (hruns : Bridge.Runs settings acts b) {act : Bridge.Act}
    {out : Option (SessionId × Output.Event)} (hu : b.Utters act out b')
    (hl : act.LeavesAlone c.session c.channel) : Tells (log ++ out.toList) c b' := by
  have hsame := Bridge.sameRuns_of_utters hruns hu hl
  have hsplit : c.told = c.told ++ [] := (List.append_nil _).symm
  have h' := h.insert_plain [] hsame rfl rfl hsplit hsplit (by simp)
  refine { h' with heard := fun e he => ?_ }
  rw [Bridge.heardBy_append, List.mem_append] at he
  rcases he with he | he
  · exact h'.heard e he
  · obtain ⟨⟨session, e'⟩, hout, rfl⟩ := List.mem_map.mp he
    obtain ⟨hin, hsession⟩ := List.mem_filter.mp hout
    obtain rfl : session = c.session := by simpa using hsession
    obtain rfl := Option.mem_toList.mp hin
    obtain ⟨t, ht, hid, hts, -⟩ := hu.speaker
    refine ⟨t.info, ?_, hid⟩
    rw [hsame.runsOf_eq]
    exact Bridge.mem_runsOf.mpr ⟨List.mem_map_of_mem ht, hts⟩

/-- A new connection, for a session that has not had a run. -/
theorem accepted {id : Id} (hnew : ∀ t ∈ w.bridge.tasks, t.info.session ≠ id.text) :
    Tells [] (accept id w true).1 (accept id w true).2.bridge := by
  have hnone : (accept id w true).2.bridge.runsOf (accept id w true).1.session = [] := by
    refine List.filter_eq_nil_iff.mpr fun info hinfo => ?_
    obtain ⟨t, ht, rfl⟩ := List.mem_map.mp hinfo
    simpa [accept, session] using hnew t ht
  have htold : (accept id w true).1.told = [.connected id] := by
    simp [accept, told, spoken, Sent.message?]
  refine ⟨?_, List.nodup_nil, fun run hrun => absurd hrun List.not_mem_nil, ?_, ?_,
    fun e he => absurd he List.not_mem_nil⟩
  · rw [hnone, htold]
    rfl
  · intro info hinfo
    rw [hnone] at hinfo
    exact absurd hinfo List.not_mem_nil
  · intro m hmem run hrun
    rw [htold, List.mem_singleton] at hmem
    rw [hmem] at hrun
    exact absurd hrun (by simp [ServerMessage.run?])

/-- When nothing waits, all that was told was sent. -/
theorem sent (h : Tells log c b) (hr : c.replies = []) :
    startsIn c.spoken = startsFor (b.runsOf c.session)
      ∧ ∀ info ∈ b.runsOf c.session, info.id ∉ c.watched → EndTold b info.id c.spoken := by
  have htold : c.told = c.spoken := by rw [told, hr, List.append_nil]
  rw [← htold]
  refine ⟨h.starts, fun info hinfo hnot => ?_⟩
  rcases h.ends info hinfo with ⟨hw, -⟩ | ⟨-, hend⟩
  · exact absurd hw hnot
  · exact hend

end Tells

/-! ## 4. What is on the wire -/

/-- What a connection has sent of the runs of its session, whether or not it is still open. -/
structure OnWire (c : Connection) (b : Bridge) : Prop where
  starts : startsIn c.spoken <+: startsFor (b.runsOf c.session)
  ends : ∀ run, endsOf run c.spoken = [] ∨ EndTold b run c.spoken
  known : ∀ m ∈ c.spoken, ∀ run, m.run? = some run → ∃ info ∈ b.runsOf c.session, info.id = run

/-- What is told of the runs of a session is on the wire or still waits, so when nothing waits any
more all of it was sent. -/
theorem Tells.onWire {b : Bridge} (h : Tells log c b) : OnWire c b := by
  refine ⟨?_, fun run => ?_, fun m hmem => h.known m (List.mem_append_left _ hmem)⟩
  · rw [← h.starts, told, startsIn_append]
    exact List.prefix_append _ _
  · have hsplit : endsOf run c.told = endsOf run c.spoken ++ endsOf run c.replies :=
      endsOf_append run _ _
    by_cases hrun : ∃ info ∈ b.runsOf c.session, info.id = run
    · obtain ⟨info, hinfo, rfl⟩ := hrun
      rcases h.ends info hinfo with ⟨-, hend⟩ | ⟨-, r, hr, hend⟩
      · rw [hsplit] at hend
        exact .inl (List.append_eq_nil_iff.mp hend).1
      · rw [hsplit, List.append_eq_singleton_iff] at hend
        rcases hend with ⟨hnone, -⟩ | ⟨hone, -⟩
        · exact .inl hnone
        · exact .inr ⟨r, hr, hone⟩
    · have hnone := h.endsOf_of_unknown fun info hinfo hid => hrun ⟨info, hinfo, hid⟩
      rw [hsplit] at hnone
      exact .inl (List.append_eq_nil_iff.mp hnone).1

/-- What was sent accounts for the runs of a session as long as nothing more was sent and these runs
stay as they are, whatever the others do. -/
theorem OnWire.congr {b b' : Bridge} (h : OnWire c b) (hsame : Bridge.SameRuns c.session b b')
    (hid : c'.id = c.id) (hspoken : c'.spoken = c.spoken) : OnWire c' b' := by
  have hsession : c'.session = c.session := congrArg Id.text hid
  refine ⟨?_, fun run => ?_, ?_⟩
  · rw [hspoken, hsession, hsame.runsOf_eq]
    exact h.starts
  · rw [hspoken]
    rcases h.ends run with hnone | ⟨r, hr, hone⟩
    · exact .inl hnone
    · exact .inr ⟨r, hsame.result? run r hr, hspoken ▸ hone⟩
  · rw [hspoken, hsession, hsame.runsOf_eq]
    exact h.known

/-- The end of a connection leaves what was sent. -/
theorem OnWire.gone (h : OnWire c w.bridge) (hruns : Bridge.Runs settings acts w.bridge)
    (hopen : c.isOpen = true) (hm : Moved c w c' w') (hclosed : c'.isOpen = false) :
    OnWire c' w'.bridge := by
  obtain ⟨more, hmore⟩ := hm.steps
  have hkeep : ∀ run r, w.bridge.result? run = some r → w'.bridge.result? run = some r :=
    fun run r hr => hmore.result? hruns hr
  cases hm with
  | @gone rest router _ _ =>
    have hview := Bridge.sameView_closeSession { w.bridge with router } c.session
    refine h.congr ⟨?_, hkeep⟩ rfl rfl
    exact congrArg (List.filter _) hview.infos
  | plain hadds _ _ =>
    rw [hadds.isOpen_eq] at hclosed
    exact absurd (hopen.symm.trans hclosed) (by simp)
  | _ => exact absurd (hopen.symm.trans hclosed) (by simp)

/-- **At every moment of a connection, the runs of its session are told of as they are.**  A run
that was started and not told the end of is one that is still watched. -/
theorem History.tells {id : Id} {w₀ : Studio}
    (h : History ws (accept id w₀ true).1 (accept id w₀ true).2 log c w)
    (hruns : Bridge.Runs settings acts w₀.bridge)
    (hnew : ∀ t ∈ w₀.bridge.tasks, t.info.session ≠ id.text) :
    (c.isOpen = true → Tells log c w.bridge) ∧ OnWire c w.bridge := by
  have hruns' : Bridge.Runs settings _ (accept id w₀ true).2.bridge :=
    hruns.next (.subscribe id.text)
  induction h with
  | begin => exact ⟨fun _ => .accepted hnew, (Tells.accepted hnew).onWire⟩
  | @next log c c' w w' m hbefore hfresh hm ih =>
    obtain ⟨acts', hnow⟩ := hbefore.runs hruns'
    have hopen := isOpen_of_move hm
    have hmoved := moved_of_move hfresh hm
    have htells := (ih.1 hopen).moved (hbefore.delivered hruns) hnow hopen hmoved
    refine ⟨htells, ?_⟩
    cases hc : c'.isOpen with
    | true => exact (htells hc).onWire
    | false => exact ih.2.gone hnow hopen hmoved hc
  | meanwhile hbefore hu hl ih =>
    obtain ⟨acts', hnow⟩ := hbefore.runs hruns'
    exact ⟨fun ho => (ih.1 ho).meanwhile hnow hu hl,
      ih.2.congr (Bridge.sameRuns_of_utters hnow hu hl) rfl rfl⟩
  | apart _ hb ih => exact hb ▸ ih

/-! ## 5. All of it gets sent -/

/-- Every end that can be told is told. -/
theorem reports_all (ws : Workspace) (goes : Studio → Studio → Prop) (c : Connection) (w : Studio)
    (hopen : c.isOpen = true) :
    ∃ more c', Steps ws goes c w more c' w ∧ (∀ m ∈ more, ∃ run, m = .report run)
      ∧ c'.isOpen = true ∧ c'.write = c.write
      ∧ ∀ run ∈ c'.watched, w.bridge.result? run = none := by
  cases hf : c.watched.find? fun run => (w.bridge.result? run).isSome with
  | none =>
    refine ⟨[], c, .begin, by simp, hopen, rfl, fun run hrun => ?_⟩
    simpa using List.find?_eq_none.mp hf run hrun
  | some run =>
    have hw : run ∈ c.watched := List.mem_of_find?_eq_some hf
    have hsome : (w.bridge.result? run).isSome = true := by simpa using List.find?_some hf
    obtain ⟨r, hr⟩ := Option.isSome_iff_exists.mp hsome
    have hm : c.move? ws w (.report run)
        = some (reply { c with watched := c.watched.erase run } (.ofResult run r), w) := by
      simp [move?, hopen, report?, hw, hr]
    have hless : (c.watched.erase run).length < c.watched.length := by
      have hpos := List.length_pos_of_mem hw
      rw [List.length_erase_of_mem hw]
      omega
    obtain ⟨more, c', hmore, hall, hopen', hwrite, hnone⟩ :=
      reports_all ws goes (reply { c with watched := c.watched.erase run } (.ofResult run r)) w
        hopen
    exact ⟨_, c', (Steps.begin.next _ hm).append hmore, by simpa using hall, hopen', hwrite, hnone⟩
termination_by c.watched.length
decreasing_by exact hless

/-- Sending leaves the runs alone. -/
theorem Steps.same_of_isOwn {goes : Studio → Studio → Prop} {more : List Move}
    (h : Steps ws goes c w more c' w') (hgoes : ∀ w w', ¬ goes w w')
    (hall : ∀ m ∈ more, m.isOwn = true) :
    c'.watched = c.watched ∧ w'.bridge.infos = w.bridge.infos := by
  induction h with
  | begin => exact ⟨rfl, rfl⟩
  | next m _ hm ih =>
    obtain ⟨hw, hi⟩ := ih fun m' hmem => hall m' (List.mem_append_left _ hmem)
    have hown : m.isOwn = true := hall m (by simp)
    rw [← hw, ← hi]
    cases m with
    | acknowledge =>
      obtain ⟨p, accepted, -, -, rfl, rfl⟩ := acknowledge_cases hm
      exact ⟨rfl, Bridge.infos_updateTask fun _ => rfl⟩
    | forward works =>
      obtain rfl : works = true := hown
      obtain ⟨-, ⟨e, router, -, -, hc⟩ | ⟨m, rest, -, -, hc⟩⟩ := forward_cases hm
      all_goals
        obtain ⟨rfl, rfl⟩ := Prod.mk.inj hc
        exact ⟨rfl, rfl⟩
    | pass =>
      obtain ⟨-, rfl, ⟨-, -, rfl⟩ | ⟨-, -, rfl⟩ | ⟨-, rfl⟩⟩ := pass_cases hm
      all_goals exact ⟨rfl, rfl⟩
    | receive frame fresh works => exact absurd hown (by simp [Move.isOwn])
    | report run => exact absurd hown (by simp [Move.isOwn])
  | meanwhile _ hg _ => exact absurd hg (hgoes _ _)

/-- All that can be told of the runs of a session was sent. -/
def AllSent (c : Connection) (b : Bridge) : Prop :=
  startsIn c.spoken = startsFor (b.runsOf c.session)
    ∧ ∀ info ∈ b.runsOf c.session, ∀ r, b.result? info.id = some r →
        endsOf info.id c.spoken = [.ofResult info.id r]

theorem Tells.allSent {b : Bridge} (h : Tells log c b) (hr : c.replies = [])
    (hw : ∀ run ∈ c.watched, b.result? run = none) : AllSent c b := by
  obtain ⟨hstarts, hends⟩ := h.sent hr
  refine ⟨hstarts, fun info hinfo r hres => ?_⟩
  have hnot : info.id ∉ c.watched := fun hmem =>
    absurd ((hw _ hmem).symm.trans hres) (by simp)
  obtain ⟨r', hres', hend⟩ := hends info hinfo hnot
  obtain rfl := Option.some.inj (hres.symm.trans hres')
  exact hend

/-- A connection that can do nothing by itself has nothing left to tell. -/
theorem nothing_left (hopen : c.isOpen = true) (hw : c.write = none) (h : c.step? ws w = none) :
    c.replies = [] ∧ ∀ run ∈ c.watched, w.bridge.result? run = none := by
  obtain ⟨-, h⟩ := orElse_eq_none h
  obtain ⟨hforward, h⟩ := orElse_eq_none h
  obtain ⟨hpass, hreport⟩ := orElse_eq_none h
  refine ⟨?_, fun run hrun => ?_⟩
  · by_cases hidle : c.isIdle w = true
    · exact (isIdle_iff.mp hidle).2.1
    · -- a connection that is not idle finds something, or takes the next look
      have hforward : c.forward? w true = none := by simpa [move?, hopen, hw] using hforward
      have hpass : c.pass? w = none := by simpa [move?, hopen, hw, hidle] using hpass
      unfold forward? at hforward
      unfold pass? at hpass
      cases hl : c.look with
      | output => cases hx : w.bridge.router.next? c.channel <;> simp [hl, hx] at hforward hpass
      | replies => cases hr : c.replies <;> simp [hl, hr] at hforward hpass ⊢
      | frames => simp [hl] at hpass
  · have hmove := List.findSome?_eq_none_iff.mp hreport run hrun
    have hmap : c.report? w run = none := by simpa [move?, hopen] using hmove
    simpa [report?, hrun] using hmap

/-- **An open connection can come to the point where all was sent**, with nothing coming in, if the
time of a write that it waits for is up. -/
theorem History.comes_to_rest {id : Id} {w₀ : Studio}
    (h : History ws (accept id w₀ true).1 (accept id w₀ true).2 log c w)
    (hruns : Bridge.Runs settings acts w₀.bridge)
    (hnew : ∀ t ∈ w₀.bridge.tasks, t.info.session ≠ id.text) (hopen : c.isOpen = true)
    (hup : ∀ p, c.write = some p → p.deadline ≤ w.machine.now) :
    ∃ c' w', History ws c w [] c' w' ∧ c'.isIdle w' = true
      ∧ startsIn c'.spoken = startsFor (w.bridge.runsOf c.session)
      ∧ ∀ info ∈ w.bridge.runsOf c.session, ∀ r, w.bridge.result? info.id = some r →
          endsOf info.id c'.spoken = [.ofResult info.id r] := by
  obtain ⟨acts', hnow⟩ := h.runs (hruns.next (.subscribe id.text))
  obtain ⟨tells, c₁, htell, hreports, hopen₁, hwrite₁, hnone⟩ :=
    reports_all ws (fun _ _ => False) c w hopen
  obtain ⟨sends, c₂, w₂, hsend, hown, hidle⟩ :=
    settles ws (fun _ _ => False) hopen₁ (hwrite₁ ▸ hup)
  have hlater : History ws c w [] c₂ w₂ := by
    refine (History.of_steps htell fun m hm b => ?_).append (.of_steps hsend fun m hm b => ?_)
    · obtain ⟨run, rfl⟩ := hreports m hm
      trivial
    · exact Move.isFresh_of_isOwn (hown m hm) b
  obtain ⟨hwatched, hinfos⟩ := hsend.same_of_isOwn (fun _ _ => not_false) hown
  obtain ⟨more, hmore⟩ := hlater.steps
  obtain ⟨hlisten, hreplies, -⟩ := isIdle_iff.mp hidle
  have hopen₂ : c₂.isOpen = true := (isListening_iff.mp hlisten).1
  have hsession : c₂.session = c.session := congrArg Id.text hlater.id_channel.1
  have hsame : w₂.bridge.runsOf c₂.session = w.bridge.runsOf c.session := by
    rw [Bridge.runsOf, hinfos, hsession, ← Bridge.runsOf]
  have htells := ((h.append hlater).tells hruns hnew).1 hopen₂
  obtain ⟨hstarts, hends⟩ := htells.sent hreplies
  rw [hsame] at hstarts hends
  refine ⟨c₂, w₂, hlater, hidle, hstarts, fun info hinfo r hr => ?_⟩
  have hnot : info.id ∉ c₂.watched := by
    rw [hwatched]
    exact fun hmem => absurd ((hnone _ hmem).symm.trans hr) (by simp)
  obtain ⟨r', hr', hend⟩ := hends info hinfo hnot
  obtain rfl := Option.some.inj ((hmore.result? hnow hr).symm.trans hr')
  exact hend

/-! ## 6. Starts and ends -/

/-- **A message that asks for a run starts one and is told so, or starts none**, and then no run is
told of. -/
theorem run_answered {text path : String} {content : Option String} {fresh : Id} {works : Bool}
    (hruns : Bridge.Runs settings acts w.bridge) (hfresh : ∀ t ∈ w.bridge.tasks, t.info.id ≠ fresh)
    (hq : ClientMessage.ofText text = .ok (.run path content))
    (hm : c.move? ws w (.receive (.text text) fresh works) = some (c', w')) :
    (∃ info : RunInfo, w'.bridge.runsOf c.session = w.bridge.runsOf c.session ++ [info]
        ∧ c'.told = c.told ++ [.runStarted info.id info.script.display])
      ∨ (w'.bridge.runsOf c.session = w.bridge.runsOf c.session
        ∧ ∃ message code, c'.told = c.told ++ [.runFailed none message code]) := by
  obtain ⟨-, hc⟩ := receive_cases hm
  have hfits := fits_handle w ws fresh c.session (.run path content)
  have hhandled : Handled w fresh c.session (w.handle ws fresh c.session (.run path content)).1
      (w.handle ws fresh c.session (.run path content)).2 := handled_handle hfresh _
  simp only [receive, hq, session_anew] at hc
  obtain ⟨rfl, rfl⟩ := Prod.mk.inj hc
  generalize (w.handle ws fresh c.session (.run path content)).1 = w' at hhandled
  generalize (w.handle ws fresh c.session (.run path content)).2 = handling at hhandled hfits
  cases hhandled with
  | @started info hid hs hstep =>
    exact .inl ⟨info, hs ▸ hstep.runsOf_of_started hruns, told_reply _ _⟩
  | @answered m hrun hasked =>
    refine .inr ⟨(hasked.sameRuns hruns _).runsOf_eq, ?_⟩
    cases hfits with
    | runStarted run script => exact absurd hrun (by simp [ServerMessage.run?])
    | notSaved e => exact ⟨_, _, told_reply c.anew _⟩
    | notStarted e => exact ⟨_, _, told_reply c.anew _⟩
    | fileResult result hid => exact absurd hid (by simp [ClientMessage.fileRequest?])
    | fileFailed e hid => exact absurd hid (by simp [ClientMessage.fileRequest?])
    | fileUnfit hid => exact absurd hid (by simp [ClientMessage.fileRequest?])
  | writing _ =>
    obtain ⟨data, he⟩ := hfits
    exact absurd he (by simp)

/-- **Each run is told of once when it starts, and once when it ends.**  At any moment of a
connection with a session of its own, whatever its client asks for, whatever becomes of its runs,
and whichever of them replace others:
* while the connection is open, what was told of starts are the runs of the session, in the order in
  which they started, and the end of each was told once, as its result is, or is still to be told;
* if then it can do nothing by itself, all that can be told was sent; and it can always come to that
  point, once the time of a write that it waits for is up;
* open or ended, it has sent no start or end more than once, and told of no run that is not one of
  the session;
* a message that asks for a run and starts none is told so without naming a run. -/
theorem runs_told_once {id : Id} {w₀ : Studio} (hruns : Bridge.Runs settings acts w₀.bridge)
    (hnew : ∀ t ∈ w₀.bridge.tasks, t.info.session ≠ id.text)
    (h : History ws (accept id w₀ true).1 (accept id w₀ true).2 log c w) :
    ((w.bridge.runsOf c.session).map (·.id)).Nodup
      ∧ (c.isOpen = true → startsIn c.told = startsFor (w.bridge.runsOf c.session)
          ∧ ∀ info ∈ w.bridge.runsOf c.session,
              (info.id ∈ c.watched ∧ endsOf info.id c.told = [])
                ∨ (info.id ∉ c.watched ∧ EndTold w.bridge info.id c.told))
      ∧ (c.isOpen = true → c.write = none → c.step? ws w = none → AllSent c w.bridge)
      ∧ (c.isOpen = true → (∀ p, c.write = some p → p.deadline ≤ w.machine.now) →
          ∃ c' w', History ws c w [] c' w' ∧ c'.isIdle w' = true
            ∧ startsIn c'.spoken = startsFor (w.bridge.runsOf c.session)
            ∧ ∀ info ∈ w.bridge.runsOf c.session, ∀ r, w.bridge.result? info.id = some r →
                endsOf info.id c'.spoken = [.ofResult info.id r])
      ∧ OnWire c w.bridge
      ∧ (∀ text path content fresh works c' w',
          ClientMessage.ofText text = .ok (.run path content) →
          (∀ t ∈ w.bridge.tasks, t.info.id ≠ fresh) →
          c.move? ws w (.receive (.text text) fresh works) = some (c', w') →
          (∃ info : RunInfo, w'.bridge.runsOf c.session = w.bridge.runsOf c.session ++ [info]
              ∧ c'.told = c.told ++ [.runStarted info.id info.script.display])
            ∨ (w'.bridge.runsOf c.session = w.bridge.runsOf c.session
              ∧ ∃ message code, c'.told = c.told ++ [.runFailed none message code])) := by
  obtain ⟨acts', hnow⟩ := h.runs (hruns.next (.subscribe id.text))
  obtain ⟨htells, hwire⟩ := h.tells hruns hnew
  refine ⟨Bridge.nodup_runsOf hnow _, fun ho => ?_, fun ho hw hstep => ?_, fun ho hup => ?_,
    hwire, ?_⟩
  · exact ⟨(htells ho).starts, (htells ho).ends⟩
  · obtain ⟨hreplies, hnone⟩ := nothing_left ho hw hstep
    exact (htells ho).allSent hreplies hnone
  · exact h.comes_to_rest hruns hnew ho hup
  · intro text path content fresh works c' w' hq hfresh hm
    exact run_answered hnow hfresh hq hm

/-- The same settings with a time limit that cannot be told, on which every supervisor is lost. -/
def lostSettings : RunSettings := { readingSettings with runTimeoutSecs := 0x8000000000000000 }

/-- A run whose supervisor is lost: that it has started is told once, and that it was not looked
after to its end. -/
theorem lost_run_told_once :
    ∃ c w message, History .unconfined (reader lostSettings).1 (reader lostSettings).2 [] c w
      ∧ startsIn c.spoken = [(.ofNat 7, "/s")]
      ∧ endsOf (.ofNat 7) c.spoken
        = [.runFailed (some (.ofNat 7)) message "EXECUTION_FAILED"] := by
  have hbegin : Bridge.Runs lostSettings [] (readingStudio lostSettings).bridge := .begin
  have hasked : (asksToRead (reader lostSettings)).isSome = true := by cbv
  have h := readingStarted_history hasked
  have hopen : (readingStarted lostSettings).1.isOpen = true := by cbv
  have hwrite : (readingStarted lostSettings).1.write = none := by cbv
  have hstarts : startsFor ((readingStarted lostSettings).2.bridge.runsOf
      (readingStarted lostSettings).1.session) = [(.ofNat 7, "/s")] := by
    cbv
  have hlost : (readingStarted lostSettings).2.bridge.result? (.ofNat 7)
      = some (.error (.execution "run supervisor stopped before reporting")) := by
    cbv
  have hnew : ∀ t ∈ (readingStudio lostSettings).bridge.tasks,
      t.info.session ≠ (Id.ofNat 1).text := fun t ht => absurd ht (by simp [readingStudio])
  unfold reader at h
  obtain ⟨-, -, -, hrest, -⟩ := runs_told_once hbegin hnew h
  obtain ⟨c, w, hlater, -, hsent, hends⟩ :=
    hrest hopen fun p hp => absurd (hwrite.symm.trans hp) (by simp)
  obtain ⟨info, hinfo, hid⟩ := List.map_eq_singleton_iff.mp hstarts
  obtain ⟨hid, -⟩ := Prod.mk.inj hid
  have hend := hends info (hinfo ▸ List.mem_singleton_self info) _ (hid ▸ hlost)
  rw [hid] at hend
  exact ⟨c, w, _, h.append hlater, hsent.trans hstarts, hend⟩

end Connection
end Scriptorium
