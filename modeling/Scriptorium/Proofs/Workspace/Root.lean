import Scriptorium.Proofs.Workspace.Entries

/-!
# The root of a workspace

A workspace is given a path to be confined to.  Whatever that path looks like, the root that comes
of it is absolute and has no dots, and an absolute path is let through only if it extends the root;
the one exception is the empty path, which no path fails to extend (`confines_unless_empty`).

What is then done through the workspace leaves the root where it is.  No request removes or moves
the directory that the root leads to, or one above it (`outcome_spares`).  A run of requests could
do so only if a link on the way to the root were changed first, and the root led elsewhere
(`root_stays_where_led`).
-/
namespace Scriptorium.Workspace

open FileSystem Scriptorium.Path

variable {w : Workspace} {fs fs' fs'' : FileSystem} {cwd top dir loc l : Location}
variable {root p q : Path} {o : Object} {rs : List Request} {n : Name} {front ns : List Name}

/-! ## 1. The root that is given -/

/-- A folded absolute path can be a root. -/
theorem isRoot_folded (hp : p.isAbsolute = true) : IsRoot p.folded where
  absolute := by
    obtain ⟨ns, -, h⟩ := folded_of_isAbsolute hp
    rw [h]
    exact isAbsolute_ofNames ns
  folded := by
    rw [Path.folded, components_folded hp, foldComponents_idem]
    rfl

/-- What an absolute path is resolved to. -/
theorem resolve_isAbsolute (hw : w.root = some root) (hp : p.isAbsolute = true)
    (h : w.resolve fs cwd p = .ok q) :
    q = p.folded ∧ root.components <+: foldComponents p.components := by
  have hjoin : root.join p = p := if_pos (.inl hp)
  obtain ⟨hq, hstarts, -⟩ := (resolve_confined hw).mp h
  rw [hjoin] at hq
  rw [← hq, startsWith, components_folded hp, List.isPrefixOf_iff_prefix] at hstarts
  exact ⟨hq.symm, hstarts⟩

/-- A workspace whose root was given as the empty path lets every path through that has a place. -/
theorem resolve_of_empty (cwd : Location) (fs : FileSystem) (here : Location) (p : Path) :
    (confinedTo cwd ⟨[]⟩).resolve fs here p
      = if (physical fs here p.folded).isSome then .ok p.folded else .error (.outside p) := by
  have hjoin : (⟨[]⟩ : Path).join p = p := if_pos (.inr rfl)
  have hall (q : Path) : q.startsWith ⟨[]⟩ = true := rfl
  have hroot : physicalRoot fs here ⟨[]⟩ = ⟨[]⟩ := rfl
  have hw : (confinedTo cwd ⟨[]⟩).root = some ⟨[]⟩ := rfl
  simp only [resolve, hw, hjoin, hroot, hall, if_true]
  cases physical fs here p.folded <;> rfl

/-- **A workspace is confined to the root that it was given, unless that is the empty path.**  The
root is the given path as seen from the working directory, folded, and an absolute path is let
through only if its own folded form goes on from there.  The empty path stays empty, every path goes
on from it, and then all that can be resolved is let through. -/
theorem confines_unless_empty (cwd : Location) (given : Path) :
    (given.bytes ≠ [] → ∃ root, (confinedTo cwd given).root = some root
        ∧ root = ((pathOf cwd).join given).folded ∧ IsRoot root
        ∧ (∃ ns : List Name, root.components = .root :: ns.map .name)
        ∧ ∀ fs here p q, p.isAbsolute = true →
            (confinedTo cwd given).resolve fs here p = .ok q →
            q = p.folded ∧ root.components <+: foldComponents p.components)
      ∧ (given.bytes = [] → (confinedTo cwd given).root = some ⟨[]⟩
        ∧ ∀ fs here p, (confinedTo cwd given).resolve fs here p
          = if (physical fs here p.folded).isSome then .ok p.folded else .error (.outside p)) := by
  refine ⟨fun hne => ?_, fun hempty => ?_⟩
  · have habs : ((pathOf cwd).join given).isAbsolute = true :=
      join_of_isAbsolute (isAbsolute_ofNames cwd)
    have hroot : (confinedTo cwd given).root = some ((pathOf cwd).join given).folded := by
      simp [confinedTo, absolute?, hne]
    refine ⟨_, hroot, rfl, isRoot_folded habs, ?_,
      fun fs here p q hp h => resolve_isAbsolute hroot hp h⟩
    obtain ⟨ns, -, hc⟩ := foldComponents_of_isAbsolute habs
    exact ⟨ns, (components_folded habs).trans hc⟩
  · obtain ⟨bytes⟩ := given
    obtain rfl : bytes = [] := hempty
    exact ⟨rfl, resolve_of_empty cwd⟩

/-- A root with dots is folded as it is seen from the working directory, and what is not below it
is refused. -/
theorem dotted_root_confines :
    (∃ root, (confinedTo [[0x77]] (.ofString "a/../b/.")).root = some root
        ∧ root = .ofString "/w/b" ∧ IsRoot root)
      ∧ ∀ fs here q, (confinedTo [[0x77]] (.ofString "a/../b/.")).resolve fs here
          (.ofString "/w/b/../c") ≠ .ok q := by
  obtain ⟨hconfined, -⟩ := confines_unless_empty [[0x77]] (.ofString "a/../b/.")
  have hgiven : (.ofString "a/../b/." : Path)
      = ⟨[0x61, 0x2F, 0x2E, 0x2E, 0x2F, 0x62, 0x2F, 0x2E]⟩ := by cbv
  have hfolded : ((pathOf [[0x77]]).join (.ofString "a/../b/.")).folded = .ofString "/w/b" := by cbv
  obtain ⟨root, hroot, rfl, hisroot, -, habs⟩ := hconfined (by rw [hgiven]; simp)
  refine ⟨⟨_, hroot, hfolded, hisroot⟩, fun fs here q h => ?_⟩
  obtain ⟨-, hpre⟩ := habs fs here _ _ (by cbv) h
  have hbelow : (.ofString "/w/b" : Path).components = [.root, .name [0x77], .name [0x62]] := by cbv
  have hout : foldComponents (.ofString "/w/b/../c" : Path).components
      = [.root, .name [0x77], .name [0x63]] := by
    cbv
  rw [hfolded, hbelow, hout] at hpre
  exact absurd hpre (by decide)

/-- A workspace whose root is given as the empty path has no absolute root, and lets paths through
wherever they lead. -/
theorem empty_root_confines_nothing :
    (¬ ∀ (cwd : Location) (given : String), ∃ root,
        (confinedTo cwd (.ofString given)).root = some root ∧ root.isAbsolute = true)
      ∧ (confinedTo [[0x77]] (.ofString "")).resolve empty [[0x77]] (.ofString "/etc/x")
        = .ok (.ofString "/etc/x") := by
  refine ⟨fun h => ?_, by cbv⟩
  obtain ⟨root, hroot, habs⟩ := h [] ""
  have hempty : (confinedTo [] (.ofString "")).root = some ⟨[]⟩ := by cbv
  obtain rfl : ⟨[]⟩ = root := Option.some.inj (hempty.symm.trans hroot)
  exact absurd habs (by decide)

/-! ## 2. One request -/

/-- Nothing that is at or above `top` has changed. -/
def Spared (top : Location) (fs fs' : FileSystem) : Prop :=
  ∀ l, l <+: top → fs'.object? l = fs.object? l

namespace Spared

theorem refl (top : Location) (fs : FileSystem) : Spared top fs fs := fun _ _ => rfl

theorem trans (h : Spared top fs fs') (h' : Spared top fs' fs'') : Spared top fs fs'' :=
  fun l hl => (h' l hl).trans (h l hl)

theorem isDir (h : Spared top fs fs') (hd : IsDir fs top) : IsDir fs' top where
  names := hd.names
  directories above ha := (h above ha).trans (hd.directories above ha)

end Spared

/-- What a walk has found as a directory stands below directories. -/
theorem isDir_of_walk (hroot : IsRoot root)
    (htop : fs.walk cwd true root = .ok (.found top .directory)) : IsDir fs top := by
  obtain ⟨rs, hrs, rfl⟩ := hroot.spelled
  obtain ⟨hdir, hnames, hobj⟩ := (settled_of_walk hrs htop).1
  rcases List.eq_nil_or_concat top with rfl | ⟨dir, n, rfl⟩
  · exact .root fs
  · rw [List.concat_eq_append] at hdir hnames hobj ⊢
    have hdir : IsDir fs dir := by simpa [Spot.place] using hdir
    obtain ⟨hn, hl⟩ := hnames n (by simp [Spot.place])
    exact hdir.concat hn hl hobj

theorem spared_put (hd : IsDir fs top) (ho : fs.object? loc ≠ some .directory) :
    Spared top fs (fs.put loc o) := by
  intro l hl
  have hne : loc ≠ [] := by
    rintro rfl
    exact ho rfl
  rw [object?_put _ _ _ _ hne, if_neg]
  rintro rfl
  exact ho (hd.directories _ hl)

/-- A file is written to where no directory is. -/
theorem write_spares (hw : w.root = some root) (hroot : IsRoot root) (hd : IsDir fs top)
    {content : String} (h : w.write fs cwd p content = .ok fs') : Spared top fs fs' := by
  obtain ⟨q, hq, h⟩ := bind_eq_ok.mp h
  obtain ⟨ns, hns, rfl, -⟩ := inside_of_resolve hw hroot hq
  obtain ⟨spot, hwalk, ⟨-, rfl⟩ | ⟨x, hwas, rfl⟩⟩ := writeFile_eq_ok (during_eq_ok.mp h)
  · exact .refl top fs'
  · refine spared_put hd ?_
    rw [(settled_of_walk hns hwalk).1.object]
    rcases hwas with ⟨old, hwas⟩ | hwas <;> simp [hwas]

theorem create_spares (hw : w.root = some root) (hroot : IsRoot root) (hd : IsDir fs top)
    (h : w.create fs cwd p = .ok fs') : Spared top fs fs' := by
  obtain ⟨q, hq, h⟩ := bind_eq_ok.mp h
  obtain ⟨ns, hns, rfl, -⟩ := inside_of_resolve hw hroot hq
  obtain ⟨front, n, dir, -, -, hnone, rfl⟩ := createFile_eq_ok hns (during_eq_ok.mp h)
  exact spared_put hd (by simp [hnone])

/-- A last entry that is no link is at or below the root. -/
theorem prefix_of_no_link (htop : fs.walk cwd true root = .ok (.found top o))
    (hin : ∀ spot, fs.walk cwd true (ofNames (front ++ [n])) = .ok spot →
      Within fs cwd root spot.place)
    (hl : LastEntry fs front n dir) (ho : ∀ t, fs.object? (dir ++ [n]) ≠ some (.link t)) :
    top <+: dir ++ [n] := by
  refine prefix_of_lastEntry htop hin hl ?_
  rintro ⟨loc, t, hf, -⟩
  obtain ⟨rfl, ht⟩ := found_lastEntry hl hf
  exact ho t ht

/-- **A deletion leaves the root**: the directory at the end of the path is below it, or is it under
another name, and then it is only emptied. -/
theorem delete_spares (hw : w.root = some root) (hroot : IsRoot root)
    (htop : fs.walk cwd true root = .ok (.found top .directory)) :
    Spared top fs (w.delete fs cwd p).1 := by
  have hd := isDir_of_walk hroot htop
  rcases delete_cases w fs cwd p with ⟨e, he⟩ | ⟨q, hq, hnot, hcase⟩
  · rw [he]
    exact .refl top fs
  obtain ⟨rs, mid, n, rfl, rfl, hnames, hin⟩ := names_of_resolve hw hroot hq hnot
  rcases hcase with ⟨loc, hfind, hdel⟩ | ⟨fs', hu, hdel⟩
  · rw [hdel]
    obtain ⟨dir, hlast⟩ := lastEntry_of_walk hnames (find_eq_ok.mp hfind)
    obtain ⟨rfl, hobj⟩ := found_lastEntry hlast hfind
    have hpre := prefix_of_no_link htop hin hlast (by simp [hobj])
    intro l hl
    by_contra hne
    rcases removeTree_directory hnames hfind hne with
      ⟨hbelow, hself⟩ | ⟨front, k, dir', he, hlead, hbelow⟩
    · -- what is emptied is below the directory, and so below the root
      exact hself (hbelow.eq_of_length_le (hl.trans hpre).length_le).symm
    · obtain ⟨rfl, hk⟩ := List.append_inj' he rfl
      obtain rfl : n = k := by simpa using hk
      obtain rfl := hlast.above.unique hlead.of_clear
      have heq := hpre.eq_of_length_le (hbelow.trans hl).length_le
      exact ne_root_of_leadsTo_clear (leadsTo_root hlast htop) hlast hlead heq
  · rw [hdel]
    obtain ⟨front, k, dir, o, -, -, ho, hnotdir, rfl⟩ := unlink_eq_ok hnames hu
    intro l hl
    by_contra hne
    have hup := (removeBelow_changes (by simp) hne).trans hl
    exact hnotdir (Option.some.inj (ho.symm.trans (hd.directories _ hup)))

/-- **A move takes nothing from and puts nothing at a place at or above the root.** -/
theorem rename_spares {source target : Path} (hw : w.root = some root) (hroot : IsRoot root)
    (htop : fs.walk cwd true root = .ok (.found top .directory))
    (h : w.rename fs cwd source target = .ok fs') :
    fs' = fs ∨ ∃ s t, fs' = fs.relocate s t ∧ ¬ s <+: top ∧ ¬ t <+: top := by
  have hd := isDir_of_walk hroot htop
  obtain ⟨q, hq, ht⟩ := bind_eq_ok.mp h
  obtain ⟨q', hq', -⟩ := bind_eq_ok.mp ht
  obtain ⟨sfront, sn, sdir, tfront, tn, tdir, rfl, hsl, rfl, htl, hcase⟩ :=
    rename_cases hw hroot hq hq' h
  refine hcase.imp_right ?_
  rintro ⟨⟨moved, hm⟩, rfl⟩
  have hspre (ho : ∀ t, fs.object? (sdir ++ [sn]) ≠ some (.link t)) : top <+: sdir ++ [sn] :=
    prefix_of_no_link htop (fun spot hs => within_of_resolve hw hroot hq hs) hsl ho
  have htpre (ho : ∀ t, fs.object? (tdir ++ [tn]) ≠ some (.link t)) : top <+: tdir ++ [tn] :=
    prefix_of_no_link htop (fun spot hs => within_of_resolve hw hroot hq' hs) htl ho
  refine ⟨_, _, rfl, fun hs => ?_, fun ht => ?_⟩
  · -- the root itself would be moved, and so into itself
    have hdir : fs.object? (sdir ++ [sn]) = some .directory := hd.directories _ hs
    obtain rfl : moved = .directory := Option.some.inj (hm.there.symm.trans hdir)
    refine hm.not_below (hs.trans (htpre fun t hlink => ?_))
    rcases hm.fits with hnone | ⟨-, hempty, -⟩ | ⟨hno, -⟩
    · exact absurd (hnone.symm.trans hlink) (by simp)
    · exact absurd (hempty.symm.trans hlink) (by simp)
    · exact hno rfl
  · -- the root would be replaced by something inside it
    have hdir : fs.object? (tdir ++ [tn]) = some .directory := hd.directories _ ht
    refine hm.not_above (ht.trans (hspre fun t hlink => ?_))
    rcases hm.fits with hnone | ⟨rfl, -, -⟩ | ⟨-, o, ho, hno⟩
    · exact absurd (hnone.symm.trans hdir) (by simp)
    · exact absurd (hm.there.symm.trans hlink) (by simp)
    · exact hno (Option.some.inj (ho.symm.trans hdir))

/-- A move spares a place that is neither moved nor moved upon, and all that is above it. -/
theorem spared_relocate {s t : Location} (hs : ¬ s <+: top) (ht : ¬ t <+: top) :
    Spared top fs (fs.relocate s t) := by
  intro l hl
  by_contra hne
  have hsn : s ≠ [] := by
    rintro rfl
    exact hs List.nil_prefix
  have htn : t ≠ [] := by
    rintro rfl
    exact ht List.nil_prefix
  rcases relocate_changes hsn htn hne with hb | hb
  · exact hs (hb.trans hl)
  · exact ht (hb.trans hl)

/-- **One request leaves the directory that the root leads to**, and all that is above it.  What is
in the root may be taken away, but a request to delete the root itself is refused. -/
theorem outcome_spares (hw : w.root = some root) (hroot : IsRoot root)
    (htop : fs.walk cwd true root = .ok (.found top .directory)) (r : Request) :
    Spared top fs (r.outcome w fs cwd).1 := by
  have hd := isDir_of_walk hroot htop
  have hchanged (x : Except Error FileSystem) (hx : ∀ fs', x = .ok fs' → Spared top fs fs') :
      Spared top fs (changed fs x).1 :=
    changed_files (P := Spared top fs) (.refl top fs) hx
  cases r with
  | list p =>
    rw [Request.outcome, looked_files]
    exact .refl top fs
  | tree p depth =>
    rw [Request.outcome, looked_files]
    exact .refl top fs
  | read p =>
    rw [Request.outcome, looked_files]
    exact .refl top fs
  | write p content => exact hchanged _ fun fs' h => write_spares hw hroot hd h
  | create p => exact hchanged _ fun fs' h => create_spares hw hroot hd h
  | delete p =>
    rw [outcome_delete]
    exact delete_spares hw hroot htop
  | rename source target =>
    refine hchanged _ fun fs' h => ?_
    rcases rename_spares hw hroot htop h with rfl | ⟨s, t, rfl, hs, ht⟩
    · exact .refl top fs'
    · exact spared_relocate hs ht

/-! ## 3. Runs -/

/-- Before each of the requests, the root leads to the directory `top`. -/
def LedTo (w : Workspace) (cwd : Location) (root : Path) (top : Location) (fs : FileSystem)
    (rs : List Request) : Prop :=
  ∀ before r rest, rs = before ++ r :: rest →
    (after w cwd fs before).walk cwd true root = .ok (.found top .directory)

theorem after_spares (hw : w.root = some root) (hroot : IsRoot root)
    (h : LedTo w cwd root top fs rs) : Spared top fs (after w cwd fs rs) := by
  induction rs generalizing fs with
  | nil => exact .refl top fs
  | cons r rs ih =>
    have hfirst := outcome_spares hw hroot (h [] r rs rfl) r
    refine hfirst.trans (ih fun before s rest he => ?_)
    exact h (r :: before) s rest (by rw [he]; rfl)

/-- A directory is found by its own name. -/
theorem walk_ofNames_of_isDir (hd : IsDir fs top) (hp : passable (ofNames top) = .ok ()) :
    fs.walk cwd true (ofNames top) = .ok (.found top .directory) :=
  LeadsTo.walk ⟨fun n hn => (hd.names n hn).1, maxLinks, hd.enters maxLinks⟩ cwd hp

theorem walk_after (hw : w.root = some (ofNames top)) (hroot : IsRoot (ofNames top))
    (htop : fs.walk cwd true (ofNames top) = .ok (.found top .directory)) (rs : List Request) :
    (after w cwd fs rs).walk cwd true (ofNames top) = .ok (.found top .directory) := by
  induction rs generalizing fs with
  | nil => exact htop
  | cons r rs ih =>
    have hd := (outcome_spares hw hroot htop r).isDir (isDir_of_walk hroot htop)
    exact ih (walk_ofNames_of_isDir hd (walk_eq_ok.mp htop).1)

/-- **The root stays where it is led to.**  No request changes anything at or above the directory
that the root leads to; a move takes nothing from there and puts nothing there.  A run of requests
leaves it too, as long as the root still leads to it before each of them, and that it does whenever
the root is the directory's own name, with no link in it. -/
theorem root_stays_where_led (hw : w.root = some root) (hroot : IsRoot root)
    (htop : fs.walk cwd true root = .ok (.found top .directory)) :
    (∀ r : Request, Spared top fs (r.outcome w fs cwd).1)
      ∧ (∀ source target fs', w.rename fs cwd source target = .ok fs' →
          fs' = fs ∨ ∃ s t, fs' = fs.relocate s t ∧ ¬ s <+: top ∧ ¬ t <+: top)
      ∧ (∀ rs, LedTo w cwd root top fs rs → Spared top fs (after w cwd fs rs))
      ∧ (root = ofNames top → ∀ rs, LedTo w cwd root top fs rs
          ∧ (after w cwd fs rs).walk cwd true root = .ok (.found top .directory)) := by
  refine ⟨outcome_spares hw hroot htop, fun source target fs' h => rename_spares hw hroot htop h,
    fun rs h => after_spares hw hroot h, ?_⟩
  rintro rfl rs
  exact ⟨fun before _ _ _ => walk_after hw hroot htop before, walk_after hw hroot htop rs⟩

/-- A workspace that is emptied from inside stays where it is, and what is above it too. -/
theorem emptied_root_stays :
    let requests : List Request :=
      [.delete (.ofString "up/r"), .rename (.ofString "up/r") (.ofString "x")]
    after loopWorkspace [] loopDisk requests = ⟨[([[0x72]], .directory),
        ([[0x62]], .link (.ofString "r/a")), ([[0x64]], .link (.ofString "r"))]⟩
      ∧ Spared [[0x72]] loopDisk (after loopWorkspace [] loopDisk requests)
      ∧ (after loopWorkspace [] loopDisk requests).walk [] true (.ofString "/r")
        = .ok (.found [[0x72]] .directory) := by
  intro requests
  have htop : loopDisk.walk [] true (.ofString "/r") = .ok (.found [[0x72]] .directory) := by cbv
  have hname : (.ofString "/r" : Path) = ofNames [[0x72]] := by cbv
  obtain ⟨-, -, hruns, hnamed⟩ := root_stays_where_led (w := loopWorkspace) rfl
    ⟨by cbv, by cbv⟩ htop
  obtain ⟨hled, hstill⟩ := hnamed hname requests
  exact ⟨by cbv, hruns requests hled, hstill⟩

/-- A disk with the directory `r` and the link `h` to it. -/
def linkedDisk : FileSystem :=
  ⟨[([[0x72]], .directory), ([[0x68]], .link (.ofString "r")),
    ([[0x72], [0x73]], .link (.ofString ".")), ([[0x72], [0x75, 0x70]], .link (.ofString ".."))]⟩

/-- The workspace of `linkedDisk`, by the link. -/
def linkedWorkspace : Workspace := ⟨some (.ofString "/h")⟩

/-- Not every root stays: one that is reached through a link is led up by replacing that link, and
then deleted as what is inside it. -/
theorem linked_root_deleted :
    ¬ ∀ (w : Workspace) (fs : FileSystem) (cwd top : Location) (root : Path) (rs : List Request),
      w.root = some root → IsRoot root → fs.WellFormed →
      fs.walk cwd true root = .ok (.found top .directory) →
      (after w cwd fs rs).object? top = some .directory
        ∨ ∃ top', (after w cwd fs rs).walk cwd true root = .ok (.found top' .directory) := by
  intro h
  have htop : linkedDisk.walk [] true (.ofString "/h") = .ok (.found [[0x72]] .directory) := by cbv
  have hgone : after linkedWorkspace [] linkedDisk [.rename (.ofString "s") (.ofString "up/h"),
      .delete (.ofString "r"), .delete (.ofString "h")] = .empty := by cbv
  have hstays := h linkedWorkspace linkedDisk [] _ _ [.rename (.ofString "s") (.ofString "up/h"),
      .delete (.ofString "r"), .delete (.ofString "h")] rfl ⟨by cbv, by cbv⟩
    ⟨by decide, by decide, by decide, by decide⟩ htop
  rw [hgone] at hstays
  rcases hstays with hdir | ⟨top', hled⟩
  · exact absurd hdir (by decide)
  · have hnone : empty.walk [] true (.ofString "/h") = .ok (.free [] [0x68]) := by cbv
    exact absurd (hnone.symm.trans hled) (by simp)

end Scriptorium.Workspace
