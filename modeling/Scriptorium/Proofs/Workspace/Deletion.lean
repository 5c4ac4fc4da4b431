import Scriptorium.Proofs.FileSystem.LastName
import Scriptorium.Proofs.Workspace.Tree

/-!
# What a deletion takes away

A deletion is meant for the entry that the last name of its path asks for: a file, a link where it
stands, or a directory with all that is in it (`TakesAway`).  Resolving keeps the last name
(`resolve_last`), and cuts off the slashes behind it, if the workspace is confined.

An unconfined workspace hands the path on as it was spelled.  If it has a slash behind the name of
a link to a directory, then the directory is found, and emptied; what cannot be removed by that path
is the directory itself, so the deletion fails, and the link stays (`delete_ledAway`).  In all other
cases the entry is what goes (`delete_takes_last`).
-/
namespace Scriptorium.Workspace

open FileSystem Scriptorium.Path

variable {w : Workspace} {fs fs' : FileSystem} {cwd dir loc target : Location} {p q : Path}
variable {n : Name}

/-! ## 1. The entry that goes -/

/-- The entry at `loc` and what is below it is all that has gone; and it has all gone, if this
succeeded. -/
structure TakesAway (fs : FileSystem) (loc : Location) (outcome : FileSystem × Except Error Unit) :
    Prop where
  nothing_else : ∀ l, outcome.1.object? l ≠ fs.object? l →
    loc <+: l ∧ outcome.1.object? l = none
  there : outcome.2 = .ok () → (fs.object? loc).isSome = true
  all : outcome.2 = .ok () → ∀ l, loc <+: l → outcome.1.object? l = none

namespace TakesAway

theorem unchanged (fs : FileSystem) (loc : Location) (e : Error) :
    TakesAway fs loc (fs, .error e) where
  nothing_else l hl := absurd rfl hl
  there h := by cases h
  all h := by cases h

/-- A directory that could only be emptied has lost what was below it. -/
theorem clear (h : ∀ l, target <+: l → l ≠ target → (fs.object? l).isSome = true → loc <+: l)
    (e : Error) : TakesAway fs loc (fs.clear target, .error e) where
  nothing_else l hl := by
    have hgone := object?_clear fs target l
    by_cases hbelow : target <+: l ∧ l ≠ target
    · rw [if_pos hbelow] at hgone
      refine ⟨h l hbelow.1 hbelow.2 (Option.isSome_iff_ne_none.mpr ?_), hgone⟩
      intro hnone
      exact hl (hgone.trans hnone.symm)
    · rw [if_neg hbelow] at hgone
      exact absurd hgone hl
  there h := by cases h
  all h := by cases h

/-- The entry is removed with all below it, from files that have changed below it at most. -/
theorem removeBelow (hloc : loc ≠ []) (hthere : (fs.object? loc).isSome = true)
    (hsame : ∀ l, ¬ loc <+: l → fs'.object? l = fs.object? l) :
    TakesAway fs loc (fs'.removeBelow loc, .ok ()) where
  nothing_else l hl := by
    have hgone := object?_removeBelow fs' loc l hloc
    by_cases hbelow : loc <+: l
    · rw [if_pos (List.isPrefixOf_iff_prefix.mpr hbelow)] at hgone
      exact ⟨hbelow, hgone⟩
    · rw [if_neg fun h => hbelow (List.isPrefixOf_iff_prefix.mp h)] at hgone
      exact absurd (hgone.trans (hsame l hbelow)) hl
  there _ := hthere
  all _ l hl :=
    (object?_removeBelow fs' loc l hloc).trans (if_pos (List.isPrefixOf_iff_prefix.mpr hl))

end TakesAway

/-! ## 2. The path of the entry -/

/-- A resolved path ends in the same name. -/
theorem resolve_last (hq : w.resolve fs cwd p = .ok q)
    (hn : p.components.getLast? = some (.name n)) : q.components.getLast? = some (.name n) := by
  cases hroot : w.root with
  | none =>
    simp only [resolve, hroot] at hq
    rwa [← Except.ok.inj hq]
  | some root =>
    obtain ⟨rfl, -, -⟩ := (resolve_confined hroot).mp hq
    exact getLast?_folded (getLast?_join hn)

/-- Only an unconfined workspace lets a slash behind the last name through. -/
theorem root_of_slashed (hq : w.resolve fs cwd p = .ok q)
    (hn : p.components.getLast? = some (.name n)) (hs : Slashed q) : w.root = none := by
  cases hroot : w.root with
  | none => rfl
  | some root =>
    have hlast := resolve_last hq hn
    obtain ⟨rfl, -, -⟩ := (resolve_confined hroot).mp hq
    obtain ⟨above, hname, he⟩ := (isFolded_folded (root.join p)).eq_entry hlast
    rw [he] at hs
    exact absurd hs (not_slashed_entry above hname)

/-! ## 3. What goes -/

theorem removeTree_of_ok (hf : fs.find cwd false q = .ok (loc, .directory))
    (hr : (fs.clear loc).removeDirectory cwd q = .ok fs') :
    fs.removeTree cwd q = (fs', .ok ()) := by
  simp only [removeTree, hf, hr]

/-- A directory that cannot be removed has been emptied by then. -/
theorem removeTree_of_error {cause : OsError} (hf : fs.find cwd false q = .ok (loc, .directory))
    (hr : (fs.clear loc).removeDirectory cwd q = .error cause) :
    fs.removeTree cwd q = (fs.clear loc, .error cause) := by
  simp only [removeTree, hf, hr]

/-- Where nothing is found, nothing goes. -/
theorem delete_of_not_found (hno : ∀ q found, w.resolve fs cwd p = .ok q →
    fs.find cwd false q ≠ .ok found) : ∃ e, w.delete fs cwd p = (fs, .error e) := by
  unfold delete
  cases hq : w.resolve fs cwd p with
  | error e => exact ⟨e, rfl⟩
  | ok q =>
    cases hfind : fs.find cwd false q with
    | ok found => exact absurd hfind (hno q found hq)
    | error cause =>
      by_cases hroot : w.isRoot q = true
      · exact ⟨.outside q, by simp only [hroot, if_true]⟩
      · refine ⟨.refused .delete q cause, ?_⟩
        simp only [if_neg hroot, during, hfind]

/-- **A path that leads away empties the directory that it leads to**, and fails.  What is emptied
stands where the link leads, and the link itself stays, since a link cannot be taken away as a
directory. -/
theorem delete_ledAway (hn : p.components.getLast? = some (.name n))
    (hq : w.resolve fs cwd p = .ok q) (ha : Asks fs cwd q dir n)
    (hl : LedAway fs cwd q (dir ++ [n]) target) :
    w.root = none ∧ Slashed q ∧ ∃ e, w.delete fs cwd p = (fs.clear target, .error e) := by
  obtain ⟨⟨t, ht⟩, hfind⟩ := hl
  rcases find_of_asks ha hfind with ⟨-, ho⟩ | ⟨-, -, hslashed⟩
  · exact absurd (ht.symm.trans ho) (by simp)
  · have hroot := root_of_slashed hq hn hslashed
    refine ⟨hroot, hslashed, ?_⟩
    cases hr : (fs.clear target).removeDirectory cwd q with
    | ok gone =>
      obtain ⟨hdir, -⟩ := removeDirectory_of_asks ha hr
      exact absurd (ht.symm.trans hdir) (by simp)
    | error cause =>
      refine ⟨.refused .delete q cause, ?_⟩
      have hnot : w.isRoot q = false := by simp [isRoot, hroot]
      have htree := removeTree_of_error hfind hr
      simp only [delete, hq, hnot, hfind, htree, during, Bool.false_eq_true, if_false]

/-- **Elsewhere the entry goes that the path asks for.**  If it is a directory, all that is below
goes with it; if it is a link, what it leads to stays. -/
theorem delete_takesAway (hq : w.resolve fs cwd p = .ok q) (ha : Asks fs cwd q dir n)
    (hno : ∀ target, ¬ LedAway fs cwd q (dir ++ [n]) target) :
    TakesAway fs (dir ++ [n]) (w.delete fs cwd p) := by
  rcases delete_cases w fs cwd p with ⟨e, he⟩ | ⟨q', hq', -, hcase⟩
  · rw [he]
    exact .unchanged fs _ e
  obtain rfl : q' = q := Except.ok.inj (hq'.symm.trans hq)
  have hne : dir ++ [n] ≠ [] := by simp
  rcases hcase with ⟨loc, hfind, hdel⟩ | ⟨fs', hu, hdel⟩
  · obtain ⟨rfl, ho⟩ : loc = dir ++ [n] ∧ fs.object? (dir ++ [n]) = some .directory := by
      rcases find_of_asks ha hfind with h | ⟨-, hl, -⟩
      · exact h
      · exact absurd hl (hno loc)
    cases hr : (fs.clear (dir ++ [n])).removeDirectory cwd q' with
    | error cause =>
      rw [hdel, removeTree_of_error hfind hr]
      exact .clear (fun l hl _ _ => hl) _
    | ok gone =>
      rw [hdel, removeTree_of_ok hfind hr]
      obtain ⟨-, rfl⟩ := removeDirectory_of_asks ha hr
      refine .removeBelow hne (by rw [ho]; rfl) fun l hl => ?_
      rw [object?_clear, if_neg fun h => hl h.1]
  · obtain ⟨hthere, rfl⟩ := unlink_of_asks ha hu
    rw [hdel]
    exact .removeBelow hne hthere fun _ _ => rfl

/-- **A deletion takes away the entry that the last name of its path asks for**: a link where it
stands, and a directory with what is below it, whatever links lead to the entry and however the path
is spelled.  Nothing else goes, and if there is no such entry, nothing at all.

The exception is a path that leads away: in an unconfined workspace, one with a slash behind the
name of a link to a directory.  Then the directory that the link leads to is emptied, and the
deletion fails; which is what it should do only if nothing was in there, or the link itself. -/
theorem delete_takes_last (w : Workspace) (fs : FileSystem) (cwd : Location)
    (hn : p.components.getLast? = some (.name n)) :
    ((∀ q dir, w.resolve fs cwd p = .ok q → ¬ Asks fs cwd q dir n) →
        ∃ e, w.delete fs cwd p = (fs, .error e))
      ∧ ∀ q dir, w.resolve fs cwd p = .ok q → Asks fs cwd q dir n →
        (TakesAway fs (dir ++ [n]) (w.delete fs cwd p)
            ↔ ∀ target, LedAway fs cwd q (dir ++ [n]) target → ∀ l, target <+: l → l ≠ target →
              (fs.object? l).isSome = true → dir ++ [n] <+: l)
          ∧ ∀ target, LedAway fs cwd q (dir ++ [n]) target →
            w.root = none ∧ Slashed q
              ∧ ∃ e, w.delete fs cwd p = (fs.clear target, .error e) := by
  constructor
  · intro hnone
    refine delete_of_not_found ?_
    intro q found hq hfind
    obtain ⟨dir, ha⟩ := asks_of_walk (resolve_last hq hn) (find_eq_ok.mp hfind)
    exact hnone q dir hq ha
  · intro q dir hq ha
    refine ⟨⟨?_, ?_⟩, fun target hl => delete_ledAway hn hq ha hl⟩
    · -- what was in the directory that the path leads to has gone, so it was in the entry
      intro h target hl l hbelow hne ho
      obtain ⟨-, -, e, hdel⟩ := delete_ledAway hn hq ha hl
      rw [hdel] at h
      have hgone := object?_clear fs target l
      rw [if_pos ⟨hbelow, hne⟩] at hgone
      have hchanged : (fs.clear target).object? l ≠ fs.object? l := by
        rw [hgone]
        intro hnone
        rw [← hnone] at ho
        exact absurd ho (by simp)
      exact (h.nothing_else l hchanged).1
    · intro h
      by_cases hl : ∃ target, LedAway fs cwd q (dir ++ [n]) target
      · obtain ⟨target, hl⟩ := hl
        obtain ⟨-, -, e, hdel⟩ := delete_ledAway hn hq ha hl
        rw [hdel]
        exact .clear (h target hl) e
      · exact delete_takesAway hq ha fun target hled => hl ⟨target, hled⟩

/-- A disk with a file `d/x` and the link `l` to the directory `d`. -/
def signpostDisk : FileSystem :=
  ⟨[([[0x64]], .directory), ([[0x64], [0x78]], .file [0x68, 0x69] false),
    ([[0x6C]], .link (.ofString "d"))]⟩

/-- In a confined workspace the link goes, also by a path with a slash behind its name. -/
theorem link_deleted_where_it_stands :
    (confinedTo [] (.ofString ".")).delete signpostDisk [] (.ofString "d/../l/.")
        = (⟨[([[0x64]], .directory), ([[0x64], [0x78]], .file [0x68, 0x69] false)]⟩, .ok ())
      ∧ TakesAway signpostDisk [[0x6C]]
        ((confinedTo [] (.ofString ".")).delete signpostDisk [] (.ofString "d/../l/.")) := by
  have hn : (.ofString "d/../l/." : Path).components.getLast? = some (.name [0x6C]) := by cbv
  have hq : (confinedTo [] (.ofString ".")).resolve signpostDisk [] (.ofString "d/../l/.")
      = .ok (.ofString "/l") := by
    cbv
  have hstart : startOf [] (.ofString "/l") = [] := by cbv
  have ha : Asks signpostDisk [] (.ofString "/l") [] [0x6C] := by
    refine ⟨[], [], maxLinks, by cbv, by simp, ?_⟩
    rw [hstart]
    exact .done
  obtain ⟨-, all⟩ := delete_takes_last (confinedTo [] (.ofString ".")) signpostDisk [] hn
  obtain ⟨htakes, hled⟩ := all _ _ hq ha
  refine ⟨by cbv, htakes.mpr ?_⟩
  intro target hl
  obtain ⟨hroot, -, -⟩ := hled target hl
  exact absurd hroot (by simp [confinedTo])

/-- Not every deletion takes away the entry that the last name of its path asks for. -/
theorem not_delete_takes_last :
    ¬ ∀ (w : Workspace) (fs : FileSystem) (cwd dir : Location) (p q : Path) (n : Name),
      Made w → fs.WellFormed → p.components.getLast? = some (.name n) →
      w.resolve fs cwd p = .ok q → Asks fs cwd q dir n →
      TakesAway fs (dir ++ [n]) (w.delete fs cwd p) := by
  intro h
  have hf : signpostDisk.WellFormed := ⟨by decide, by decide, by decide, by decide⟩
  have hn : (.ofString "l/" : Path).components.getLast? = some (.name [0x6C]) := by cbv
  have hstart : startOf [] (.ofString "l/") = [] := by cbv
  have ha : Asks signpostDisk [] (.ofString "l/") [] [0x6C] := by
    refine ⟨[], [], maxLinks, by cbv, by simp, ?_⟩
    rw [hstart]
    exact .done
  have htakes := h unconfined signpostDisk [] [] _ _ [0x6C] .unconfined hf hn rfl ha
  have hgone : (unconfined.delete signpostDisk [] (.ofString "l/")).1.object? [[0x64], [0x78]]
      = none := by
    cbv
  have hwas : signpostDisk.object? [[0x64], [0x78]] = some (.file [0x68, 0x69] false) := by cbv
  obtain ⟨hbelow, -⟩ := htakes.nothing_else [[0x64], [0x78]] (by rw [hgone, hwas]; simp)
  exact absurd hbelow (by decide)

end Scriptorium.Workspace
