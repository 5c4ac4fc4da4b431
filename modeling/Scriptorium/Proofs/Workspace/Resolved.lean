import Scriptorium.Connection.Requests
import Scriptorium.Proofs.Workspace.Saving
import Scriptorium.Proofs.Workspace.Tree

/-!
# Resolved paths

A path that was let through is handed on, and resolved again by whoever gets it.  That changes
nothing (`resolve_of_resolve`): it begins with the root, so that it is not read from there once
more, and it has been folded.  Its place was found from the path as it is resolved.

So a resolved path stands for the requested one wherever a request takes a path
(`resolved_stands`), and such requests are never refused as leaving the workspace
(`Request.Resolved.admitted`).
-/
namespace Scriptorium

open FileSystem Scriptorium.Path Run

namespace Workspace

variable {w : Workspace} {fs : FileSystem} {cwd : Location} {root p q : Path}

/-! ## 1. Resolving again -/

/-- **Resolving what was resolved gives it back.**  A client may so keep the path that it was given
and use it again, as long as the disk stays as it is. -/
theorem resolve_of_resolve (hw : Made w) (h : w.resolve fs cwd p = .ok q) :
    w.resolve fs cwd q = .ok q := by
  cases hroot : w.root with
  | none => simp only [resolve, hroot]
  | some root =>
    obtain ⟨hfolded, hstarts, hplace⟩ := (resolve_confined hroot).mp h
    have hq : IsFolded q := hfolded ▸ isFolded_folded _
    refine (resolve_confined hroot).mpr ⟨?_, hstarts, hplace⟩
    rw [join_of_startsWith (hw.root_cases hroot) hstarts, hq.folded_eq]

/-- An absolute path without dots. -/
structure Dotless (p : Path) : Prop where
  absolute : p.isAbsolute = true
  components : .here ∉ p.components ∧ .up ∉ p.components
  pieces : [dot] ∉ p.pieces ∧ [dot, dot] ∉ p.pieces

/-- A path that is put together from names has no dots in it, and folding it changes nothing. -/
theorem dotless_ofNames {ns : List Name} (h : ∀ n ∈ ns, IsName n) : Dotless (ofNames ns) where
  absolute := isAbsolute_ofNames ns
  components := by
    rw [components_ofNames h]
    simp
  pieces := by
    have hnot : ∀ piece ∈ (ofNames ns).pieces, piece = [] ∨ IsName piece := by
      intro piece hm
      rw [pieces_ofNames h] at hm
      rcases List.mem_cons.mp hm with rfl | hm
      · exact .inl rfl
      · split at hm
        · exact .inl (List.mem_singleton.mp hm)
        · exact .inr (h piece hm)
    constructor
    · intro hm
      rcases hnot _ hm with he | hn
      · exact absurd he (by simp)
      · exact hn.ne_dot rfl
    · intro hm
      rcases hnot _ hm with he | hn
      · exact absurd he (by simp)
      · exact hn.ne_up rfl

/-- What is let through by a workspace with an absolute root is absolute, and has no dots. -/
theorem dotless_of_resolve (hroot : w.root = some root) (habs : root.isAbsolute = true)
    (h : w.resolve fs cwd p = .ok q) : Dotless q := by
  obtain ⟨hfolded, -, -⟩ := (resolve_confined hroot).mp h
  obtain ⟨ns, hns, hspelled⟩ := folded_of_isAbsolute (join_of_isAbsolute (q := p) habs)
  rw [← hfolded, hspelled]
  exact dotless_ofNames hns

/-! ## 2. Requests for resolved paths -/

/-- No request tells the two paths apart: it comes to the same with either, files, answers and
failures included. -/
structure Interchangeable (w : Workspace) (fs : FileSystem) (cwd : Location) (q p : Path) :
    Prop where
  list : w.list fs cwd q = w.list fs cwd p
  tree : ∀ depth, w.tree fs cwd q depth = w.tree fs cwd p depth
  read : w.read fs cwd q = w.read fs cwd p
  write : ∀ content, w.write fs cwd q content = w.write fs cwd p content
  create : w.create fs cwd q = w.create fs cwd p
  delete : w.delete fs cwd q = w.delete fs cwd p
  source : ∀ target, w.rename fs cwd q target = w.rename fs cwd p target
  target : ∀ source, w.rename fs cwd source q = w.rename fs cwd source p

/-- What a request does depends on what its path is resolved to. -/
theorem interchangeable_of_resolve (h : w.resolve fs cwd q = w.resolve fs cwd p) :
    Interchangeable w fs cwd q p where
  list := by rw [Workspace.list, h]; rfl
  tree depth := by rw [Workspace.tree, h]; rfl
  read := by rw [Workspace.read, h]; rfl
  write content := by rw [Workspace.write, h]; rfl
  create := by rw [Workspace.create, h]; rfl
  delete := by rw [Workspace.delete, h]; rfl
  source target := by rw [Workspace.rename, h]; rfl
  target source := by simp only [Workspace.rename, h]

/-! ## 3. Requests that are let through -/

/-- If this has failed, it was not for leaving the workspace. -/
def Admitted {α : Type} (x : Except Error α) : Prop := ∀ q, x ≠ .error (.outside q)

namespace Admitted

variable {α β : Type} {x : Except Error α}

theorem ok (a : α) : Admitted (.ok a : Except Error α) := by
  intro q h
  cases h

theorem during {action : Action} {x : Except OsError α} : Admitted (Workspace.during action p x) :=
  fun _ => during_ne_outside

theorem bind {f : α → Except Error β} (hx : Admitted x) (hf : ∀ a, Admitted (f a)) :
    Admitted (x >>= f) := by
  cases x with
  | ok a => exact hf a
  | error e =>
    intro q h
    exact hx q (congrArg Except.error (Except.error.inj h))

theorem map {f : α → β} (hx : Admitted x) : Admitted (x.map f) := by
  cases x with
  | ok a => exact .ok (f a)
  | error e =>
    intro q h
    exact hx q (congrArg Except.error (Except.error.inj h))

/-- A request for a path that is let through fails only later. -/
theorem of_resolve {f : Path → Except Error β} (h : w.resolve fs cwd p = .ok q)
    (hf : Admitted (f q)) : Admitted (w.resolve fs cwd p >>= f) := by
  rw [h]
  exact hf

end Admitted

theorem admitted_entriesOf : Admitted (entriesOf fs cwd p) := Admitted.during.bind fun _ => .ok _

theorem admitted_treeOf {depth : Nat} : Admitted (treeOf fs cwd depth p) := by
  have hvisible : Admitted (visibleOf fs cwd p) := admitted_entriesOf.bind fun _ => .ok _
  cases depth with
  | zero => exact hvisible.map
  | succ depth => exact hvisible.map

/-- The paths that a request is about. -/
def Request.paths : Request → List Path
  | .list p | .tree p _ | .read p | .write p _ | .create p | .delete p => [p]
  | .rename source target => [source, target]

theorem outside_of_looked {α : Type} {x : Except Error α} (h : (looked fs x).2 = some (.outside q)) :
    ¬ Admitted x := by
  intro hx
  cases x with
  | ok a => exact absurd h (by simp [looked])
  | error e => exact hx q (congrArg Except.error (Option.some.inj h))

theorem outside_of_changed {x : Except Error FileSystem}
    (h : (changed fs x).2 = some (.outside q)) : ¬ Admitted x := by
  intro hx
  cases x with
  | ok fs' => exact absurd h (by simp [changed])
  | error e => exact hx q (congrArg Except.error (Option.some.inj h))

/-- Deleting refuses a resolved path only if it is the root. -/
theorem admitted_delete (h : w.resolve fs cwd p = .ok q) (hroot : w.isRoot q = false) :
    Admitted (w.delete fs cwd p).2 := by
  intro x hx
  unfold delete at hx
  simp only [h, hroot] at hx
  rw [if_neg (by simp)] at hx
  split at hx
  · rename_i hfind
    exact Admitted.during x (hfind.trans (congrArg _ (Except.error.inj hx)))
  · exact Admitted.during x hx
  · split at hx
    · exact absurd hx (by simp)
    · rename_i hunlink
      exact Admitted.during x (hunlink.trans (congrArg _ (Except.error.inj hx)))

/-- The paths of the request have been resolved before, and it is not one to delete the root. -/
structure Request.Resolved (w : Workspace) (fs : FileSystem) (cwd : Location) (r : Request) :
    Prop where
  paths : ∀ q ∈ r.paths, ∃ p, w.resolve fs cwd p = .ok q
  keeps_root : ∀ q, r = .delete q → w.isRoot q = false

/-- **A request for resolved paths is never refused as leaving the workspace.** -/
theorem Request.Resolved.admitted (hw : Made w) {r : Request} (hr : r.Resolved w fs cwd) :
    (r.outcome w fs cwd).2 ≠ some (.outside q) := by
  have hagain : ∀ q ∈ r.paths, w.resolve fs cwd q = .ok q := by
    intro q hq
    obtain ⟨p, hp⟩ := hr.paths q hq
    exact resolve_of_resolve hw hp
  cases r with
  | list p =>
    have hp := hagain p (by simp [Request.paths])
    exact fun h => outside_of_looked h (.of_resolve hp (admitted_entriesOf.bind fun _ => .ok _))
  | tree p depth =>
    have hp := hagain p (by simp [Request.paths])
    exact fun h => outside_of_looked h (.of_resolve hp admitted_treeOf)
  | read p =>
    have hp := hagain p (by simp [Request.paths])
    refine fun h => outside_of_looked h (.of_resolve hp (Admitted.during.bind fun bytes => ?_))
    split
    · exact .ok _
    · exact fun x hx => absurd hx (by simp)
  | write p content =>
    have hp := hagain p (by simp [Request.paths])
    exact fun h => outside_of_changed h (.of_resolve hp .during)
  | create p =>
    have hp := hagain p (by simp [Request.paths])
    exact fun h => outside_of_changed h (.of_resolve hp .during)
  | delete p =>
    have hp := hagain p (by simp [Request.paths])
    rw [outcome_delete]
    intro h
    split at h
    · exact absurd h (by simp)
    · rename_i e he
      exact admitted_delete hp (hr.keeps_root p rfl) q (he.trans (congrArg _ (Option.some.inj h)))
  | rename source target =>
    have hs := hagain source (by simp [Request.paths])
    have ht := hagain target (by simp [Request.paths])
    exact fun h => outside_of_changed h (.of_resolve hs (.of_resolve ht .during))

end Workspace

/-! ## 4. Resolved paths stand for requested ones -/

namespace Studio

variable {s : Studio} {w : Workspace} {p q : Path}

/-- A run of a resolved path is one of the requested path, also if a text is saved there first. -/
theorem runScript_resolved (hw : w.Made) (h : w.resolve s.files s.cwd p = .ok q)
    {content : Option String}
    (hsave : content = none ∨ IsDir s.files s.cwd ∧ w.Rooted s.files s.cwd) (fresh : Id)
    (session : SessionId) :
    s.runScript w fresh session q content = s.runScript w fresh session p content := by
  have hagain := Workspace.resolve_of_resolve hw h
  cases content with
  | none => simp only [runScript, saveScript, h, hagain]
  | some text =>
    obtain ⟨hcwd, hrooted⟩ := hsave.resolve_left (by simp)
    have hwrite := (Workspace.interchangeable_of_resolve (hagain.trans h.symm)).write text
    simp only [runScript, saveScript, hwrite]
    cases hsaved : w.write s.files s.cwd p text with
    | error e => rfl
    | ok files =>
      obtain ⟨q', -, hq, hq', -, -⟩ := Workspace.resolve_write hcwd hrooted hsaved
      obtain rfl : q' = q := Except.ok.inj (hq.symm.trans h)
      have hafter : w.resolve (s.withFiles files).files (s.withFiles files).cwd p = .ok q' := hq'
      simp only [Except.map, hafter, Workspace.resolve_of_resolve hw hafter]

end Studio

namespace Workspace

/-- **A resolved path stands for the requested one.**  Resolving it again gives it back.  It is
absolute and has no dots, if the root of the workspace is absolute.  No request tells it from the
requested path, and a script is run by it as by the requested one.  And requests for resolved paths
are never refused as leaving the workspace. -/
theorem resolved_stands (hw : Made w) (fs : FileSystem) (cwd : Location) :
    (∀ p q, w.resolve fs cwd p = .ok q →
        w.resolve fs cwd q = .ok q
          ∧ (∀ root, w.root = some root → root.isAbsolute = true → Dotless q)
          ∧ Interchangeable w fs cwd q p
          ∧ ∀ s : Studio, s.files = fs → s.cwd = cwd → ∀ content,
              content = none ∨ IsDir fs cwd ∧ w.Rooted fs cwd → ∀ fresh session,
              s.runScript w fresh session q content = s.runScript w fresh session p content)
      ∧ ∀ r : Request, r.Resolved w fs cwd → ∀ q, (r.outcome w fs cwd).2 ≠ some (.outside q) := by
  refine ⟨fun p q h => ?_, fun r hr q => hr.admitted hw⟩
  have hagain := resolve_of_resolve hw h
  refine ⟨hagain, fun root hroot habs => dotless_of_resolve hroot habs h,
    interchangeable_of_resolve (hagain.trans h.symm), ?_⟩
  rintro s rfl rfl content hsave fresh session
  exact s.runScript_resolved hw h hsave fresh session

/-- A disk with a file `r/x` and the link `k` to the directory `r`. -/
def aliasDisk : FileSystem :=
  ⟨[([[0x72]], .directory), ([[0x72], [0x78]], .file [0x68, 0x69] false),
    ([[0x6B]], .link (.ofString "r"))]⟩

/-- In a workspace that is reached through the link, a path with dots is resolved, and the resolved
path reads the same file. -/
theorem dotted_path_stands :
    (confinedTo [] (.ofString "./k/")).resolve aliasDisk [] (.ofString "y/.././/x")
        = .ok (.ofString "/k/x")
      ∧ (confinedTo [] (.ofString "./k/")).resolve aliasDisk [] (.ofString "/k/x")
        = .ok (.ofString "/k/x")
      ∧ (confinedTo [] (.ofString "./k/")).read aliasDisk [] (.ofString "/k/x") = .ok "hi"
      ∧ Dotless (.ofString "/k/x") := by
  have hq : (confinedTo [] (.ofString "./k/")).resolve aliasDisk [] (.ofString "y/.././/x")
      = .ok (.ofString "/k/x") := by
    cbv
  have hread : (confinedTo [] (.ofString "./k/")).read aliasDisk [] (.ofString "y/.././/x")
      = .ok "hi" := by
    cbv
  have hroot : (confinedTo [] (.ofString "./k/")).root = some (.ofString "/k") := by cbv
  obtain ⟨stands, -⟩ := resolved_stands (.confined [] (.ofString "./k/")) aliasDisk []
  obtain ⟨hagain, hdots, hsame, -⟩ := stands _ _ hq
  exact ⟨hq, hagain, hsame.read.trans hread, hdots _ hroot (by cbv)⟩

end Workspace
end Scriptorium
