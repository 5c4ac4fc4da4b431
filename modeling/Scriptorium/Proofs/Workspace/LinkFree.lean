import Scriptorium.Proofs.Workspace.Saving
import Scriptorium.Proofs.Workspace.Tree

/-!
# Workspaces without links

A path is let through if two checks agree: one on its text, and one on the place that it leads to,
which is there for the sake of links.  Below a root without links (`LinkFree`) the second refuses
nothing.  Walks stay on the names that they are given (`place_of_walkFrom`), so the place that is
told of a path below the root is that of the root and the same names behind it
(`physical_of_link_free`).  For that it does not matter how many of them exist, if a file stands
where a directory is asked for, or if the path is one that the system would not take.  The root
itself may well be reached through links.

So a path is let through exactly if its folded components extend those of the root, and comes out
folded (`resolve_of_link_free`).
-/
namespace Scriptorium

open FileSystem Scriptorium.Path

namespace FileSystem

variable {fs : FileSystem} {cwd at_ top : Location} {follow : Bool} {links : Nat} {spot : Spot}
variable {ns rs ms : List Name}

/-! ## 1. Walks without links -/

/-- No link stands at `top` or below. -/
def LinkFree (fs : FileSystem) (top : Location) : Prop :=
  ∀ l t, top <+: l → fs.object? l ≠ some (.link t)

/-- **Without links, a walk ends at the names that it was given.**  No step is ever replaced by
those of a link, so names are gone into as they come. -/
theorem place_of_walkFrom (hfree : LinkFree fs at_)
    (h : walkFrom fs follow links at_ (ns.map .into) = .ok spot) : spot.place = at_ ++ ns := by
  induction ns generalizing at_ with
  | nil =>
    rw [List.map_nil, walkFrom] at h
    rw [← Except.ok.inj h, List.append_nil]
    rfl
  | cons n ns ih =>
    obtain ⟨-, hcase⟩ := into_cases h
    cases hcase with
    | ends hr hspot _ =>
      rw [List.map_eq_nil_iff.mp hr, hspot, place_spotAt]
    | enters ho hw =>
      have hbelow : LinkFree fs (at_ ++ [n]) := by
        intro l t hl
        exact hfree l t ((List.prefix_append at_ [n]).trans hl)
      rw [ih hbelow hw, List.append_assoc, List.singleton_append]
    | @follows t next ho _ _ => exact absurd ho (hfree _ t (List.prefix_append at_ [n]))

/-- What has a true name that is a directory's leads to that directory. -/
theorem leadsTo_of_canonicalize (hf : fs.WellFormed) (hrs : ∀ n ∈ rs, IsName n)
    (hc : fs.canonicalize cwd (ofNames rs) = .ok (pathOf top))
    (hdir : fs.object? top = some .directory) : LeadsTo fs rs top := by
  obtain ⟨-, -, loc, o, hw, -, hplace⟩ := canonicalize_ok_iff.mp hc
  rw [startOf_ofNames, walkFrom_ofNames hrs] at hw
  have hset := (settled_of_walkFrom _ _ _ (.root fs) (named_into hrs) hw).1
  obtain rfl : loc = top := by
    have hnames : ∀ n ∈ loc, IsName n := fun n hn => (hset.names n hn).1
    have hc := congrArg components hplace
    rw [pathOf, pathOf, components_ofNames hnames,
      components_ofNames fun n hn => ((hf.isDir hdir).names n hn).1] at hc
    exact (List.map_injective_iff.mpr (fun _ _ => Component.name.inj) (List.cons.inj hc).2).symm
  obtain rfl : o = .directory := Option.some.inj (hset.object.symm.trans hdir)
  exact ⟨hrs, enters_of_found _ _ _ hw⟩

/-- A walk below a directory without links ends at the names below it. -/
theorem place_below (hlead : LeadsTo fs rs top) (hfree : LinkFree fs top) (hms : ms ≠ [])
    (hw : walkFrom fs follow maxLinks [] ((rs ++ ms).map .into) = .ok spot) :
    spot.place = top ++ ms := by
  obtain ⟨links, he⟩ := hlead.enters
  rw [List.map_append, he.walkFrom (.inl (by simpa using hms))] at hw
  exact place_of_walkFrom hfree hw

end FileSystem

namespace Workspace

variable {w : Workspace} {fs : FileSystem} {cwd top : Location} {root p q : Path}
variable {rs ms : List Name} {n : Name}

/-! ## 2. The place of a path -/

theorem readLink?_of_link_free (hlead : LeadsTo fs rs top) (hfree : LinkFree fs top) (hms : ms ≠ [])
    (h : ∀ n ∈ rs ++ ms, IsName n) : fs.readLink? cwd (ofNames (rs ++ ms)) = none := by
  refine Option.eq_none_iff_forall_ne_some.mpr fun t ht => ?_
  obtain ⟨loc, hw⟩ := readLink?_eq_some.mp ht
  have hplace : loc = top ++ ms := place_below hlead hfree hms ((walk_ofNames h).mp hw).2
  refine hfree loc t (hplace ▸ List.prefix_append top ms) ?_
  exact (settled_of_walk h hw).1.object

/-- **The place of a path below a root without links** is that of the root and the same names. -/
theorem physical_of_link_free (hlead : LeadsTo fs rs top)
    (hc : fs.canonicalize cwd (ofNames rs) = .ok (ofNames top)) (hfree : LinkFree fs top)
    (h : ∀ n ∈ rs ++ ms, IsName n) :
    physical fs cwd (ofNames (rs ++ ms)) = some (ofNames (top ++ ms)) := by
  induction ms using List.reverseRecOn with
  | nil =>
    rw [List.append_nil] at h ⊢
    rw [List.append_nil]
    exact physical_of_canonicalize (isFolded_ofNames h) hc
  | append_singleton ms n ih =>
    have hne : ms ++ [n] ≠ [] := by simp
    have hlink : fs.readLink? cwd (ofNames (rs ++ (ms ++ [n]))) = none :=
      readLink?_of_link_free hlead hfree hne h
    have hnames := h
    rw [← List.append_assoc] at hlink h ⊢
    rw [physical_concat h]
    split
    · rename_i place hplace
      obtain ⟨-, -, loc, o, hw, -, rfl⟩ := canonicalize_ok_iff.mp hplace
      rw [startOf_ofNames, walkFrom_ofNames h, List.append_assoc] at hw
      have hloc : loc = top ++ (ms ++ [n]) := place_below hlead hfree hne hw
      rw [hloc]
      rfl
    · rw [hlink, ih fun m hm => h m (List.mem_append_left _ hm), Option.map_some, entry_ofNames,
        List.append_assoc]
      rfl

/-! ## 3. What is let through -/

/-- **Without links below the root, a path is let through exactly if it extends the root by its
text**, and is used as it is when folded.  It need not exist, and the root may be reached through
links. -/
theorem resolve_of_link_free (hw : Made w) (hroot : w.root = some root) (hf : fs.WellFormed)
    (htop : fs.canonicalize cwd root = .ok (pathOf top)) (hdir : fs.object? top = some .directory)
    (hfree : LinkFree fs top) (p : Path) :
    (root.components <+: foldComponents (root.join p).components →
        w.resolve fs cwd p = .ok (root.join p).folded)
      ∧ (¬ root.components <+: foldComponents (root.join p).components →
        w.resolve fs cwd p = .error (.outside p)) := by
  have hisroot : IsRoot root := by
    rcases hw.isRoot_or_empty hroot with h | rfl
    · exact h
    · exact absurd htop (by simp [canonicalize])
  obtain ⟨rs, hrs, rfl⟩ := hisroot.spelled
  have habs : ((ofNames rs).join p).isAbsolute = true := join_of_isAbsolute (isAbsolute_ofNames rs)
  have hstarts : ((ofNames rs).join p).folded.startsWith (ofNames rs) = true
      ↔ (ofNames rs).components <+: foldComponents ((ofNames rs).join p).components := by
    rw [startsWith, List.isPrefixOf_iff_prefix, components_folded habs]
  rw [← hstarts]
  constructor
  · intro h
    obtain ⟨qs, hqs, hfolded⟩ := folded_of_isAbsolute habs
    rw [hfolded] at h
    obtain ⟨ms, rfl⟩ := (startsWith_ofNames hqs hrs).mp h
    have hplaces : ∀ n ∈ top ++ ms, IsName n := by
      intro n hn
      rcases List.mem_append.mp hn with hn | hn
      · exact ((hf.isDir hdir).names n hn).1
      · exact hqs n (List.mem_append_right _ hn)
    have hplace := physical_of_link_free (leadsTo_of_canonicalize hf hrs htop hdir) htop hfree hqs
    refine (resolve_confined hroot).mpr ⟨rfl, hfolded ▸ h, _, hfolded ▸ hplace, ?_⟩
    rw [physicalRoot, htop]
    exact (startsWith_ofNames hplaces fun n hn => hplaces n (List.mem_append_left _ hn)).mpr
      (List.prefix_append top ms)
  · intro h
    simp only [resolve, hroot]
    rw [if_neg h]

/-- A disk with a directory `r` without links, and the link `d` to it. -/
def plainDisk : FileSystem :=
  ⟨[([[0x72]], .directory), ([[0x72], [0x61]], .file [] false), ([[0x64]], .link (.ofString "r"))]⟩

/-- In the workspace that is reached through the link, a path that goes on below a file is let
through, and one that leaves the root by its text is not, though it leads to the same file. -/
theorem plain_paths_let_through :
    (confinedTo [] (.ofString "d")).resolve plainDisk [] (.ofString "x/.././a/b/")
        = .ok (.ofString "/d/a/b")
      ∧ (confinedTo [] (.ofString "d")).resolve plainDisk [] (.ofString "../r/a")
        = .error (.outside (.ofString "../r/a")) := by
  have hroot : (confinedTo [] (.ofString "d")).root = some (.ofString "/d") := by cbv
  have htop : plainDisk.canonicalize [] (.ofString "/d") = .ok (pathOf [[0x72]]) := by cbv
  have hfree : LinkFree plainDisk [[0x72]] := by
    intro l t hl ho
    have hm := mem_of_object? (by rintro rfl; exact absurd hl (by decide)) ho
    simp only [plainDisk, List.mem_cons, Prod.mk.injEq, reduceCtorEq, and_false, false_or,
      List.not_mem_nil, or_false] at hm
    exact absurd (hm.1 ▸ hl) (by decide)
  have all := resolve_of_link_free (.confined [] (.ofString "d")) hroot
    ⟨by decide, by decide, by decide, by decide⟩ htop (by decide) hfree
  have hfolded : ((.ofString "/d" : Path).join (.ofString "x/.././a/b/")).folded
      = .ofString "/d/a/b" := by
    cbv
  have hin : foldComponents ((.ofString "/d" : Path).join (.ofString "x/.././a/b/")).components
      = [.root, .name [0x64], .name [0x61], .name [0x62]] := by
    cbv
  have hout : foldComponents ((.ofString "/d" : Path).join (.ofString "../r/a")).components
      = [.root, .name [0x72], .name [0x61]] := by
    cbv
  have hcomponents : (.ofString "/d" : Path).components = [.root, .name [0x64]] := by cbv
  refine ⟨((all _).1 ?_).trans (congrArg Except.ok hfolded), (all _).2 ?_⟩
  · rw [hcomponents, hin]
    decide
  · rw [hcomponents, hout]
    decide

end Workspace
end Scriptorium
