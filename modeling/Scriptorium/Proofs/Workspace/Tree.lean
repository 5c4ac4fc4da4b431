import Scriptorium.Proofs.FileSystem.Entry
import Scriptorium.Proofs.Workspace.Order
import Scriptorium.Proofs.Workspace.Root

/-!
# Trees and lists

A tree is asked for once, for its top directory; the directories in it are entered by the paths
that the listing gives them, and nobody resolves those again.  It shows the same as if each of them
had been asked for by itself: the path of a directory in a listing is let through as it stands
(`resolve_entry`), because its place is that of the listed directory and one name more
(`physical_entry`), however long that place may be and whatever links lead to the top.

So a tree is what lists are, all the way down, without hidden entries (`tree_shows_lists`), and a
tree of less depth is a cut of a deeper one (`treeOf_cut`).
-/
namespace Scriptorium

namespace Path

variable {p q root : Path} {n : Name}

/-! ## 1. Paths below a root -/

/-- The root only comes of the slash that a path begins with; the pieces of a path are names and
dots. -/
theorem isAbsolute_of_root_mem (h : .root ∈ p.components) : p.isAbsolute = true := by
  rcases List.mem_append.mp h with h | h
  · split at h
    · assumption
    · split at h <;> exact absurd h (by simp)
  · obtain ⟨piece, -, hpiece⟩ := List.mem_filterMap.mp h
    unfold Component.ofPiece? at hpiece
    split at hpiece
    · exact absurd hpiece (by simp)
    · split at hpiece <;> exact absurd hpiece (by simp)

theorem root_mem_components (h : p.isAbsolute = true) : .root ∈ p.components :=
  List.mem_append_left _ (by simp [h])

/-- Seen from a root that it begins with, a path stands for itself. -/
theorem join_of_startsWith (hroot : root.isAbsolute = true ∨ root = ⟨[]⟩)
    (h : q.startsWith root = true) : root.join q = q := by
  rcases hroot with hroot | rfl
  · have hq : q.isAbsolute = true :=
      isAbsolute_of_root_mem ((List.isPrefixOf_iff_prefix.mp h).subset (root_mem_components hroot))
    exact if_pos (.inl hq)
  · exact if_pos (.inr rfl)

end Path

namespace Workspace

open FileSystem Scriptorium.Path

variable {w : Workspace} {fs : FileSystem} {cwd loc : Location} {root p q place : Path} {n : Name}
variable {spot : Spot} {depth : Nat} {es : List Entry} {nodes : List TreeNode}

/-! ## 2. The entries of a resolved directory -/

/-- A workspace as it can be made: one without a root, or one that is confined to a path that was
given. -/
inductive Made : Workspace → Prop
  | unconfined : Made unconfined
  | confined (cwd : Location) (given : Path) : Made (confinedTo cwd given)

/-- The root of a workspace is absolute and has no dots, unless it was given as the empty path. -/
theorem Made.isRoot_or_empty (h : Made w) (hroot : w.root = some root) :
    IsRoot root ∨ root = ⟨[]⟩ := by
  cases h with
  | unconfined => exact absurd hroot nofun
  | confined here given =>
    obtain rfl := Option.some.inj hroot
    unfold absolute?
    split
    · rename_i hempty
      obtain ⟨bytes⟩ := given
      obtain rfl : bytes = [] := hempty
      exact .inr rfl
    · exact .inl (isRoot_folded (join_of_isAbsolute (isAbsolute_ofNames here)))

theorem Made.root_cases (h : Made w) (hroot : w.root = some root) :
    root.isAbsolute = true ∨ root = ⟨[]⟩ :=
  (h.isRoot_or_empty hroot).imp_left IsRoot.absolute

/-- The true name of a folded path, if it has one, is the place that is told of it. -/
theorem physical_of_canonicalize (hq : IsFolded q) (h : fs.canonicalize cwd q = .ok place) :
    physical fs cwd q = some place := by
  have hspell := hq.spelling
  unfold physical
  cases hc : q.components.reverse with
  | nil =>
    rw [List.reverse_eq_nil_iff.mp hc] at hspell
    obtain rfl : ⟨[]⟩ = q := hspell
    simp only [physicalRev, h]
  | cons c above =>
    rw [List.reverse_eq_iff.mp hc] at hspell
    simp only [physicalRev, hspell, h]

/-- **The place of a directory in a listing is that of the listed directory and one name more.** -/
theorem physical_entry (hq : IsFolded q) (hn : IsName n) (hplace : physical fs cwd q = some place)
    (hdir : fs.walk cwd true q = .ok (.found loc .directory))
    (ho : fs.object? (loc ++ [n]) = some .directory)
    (hread : fs.walk cwd true (q.entry n) = .ok spot) :
    physical fs cwd (q.entry n) = some (place.entry n) := by
  have hwalk {follow : Bool} :
      fs.walk cwd follow (q.entry n) = .ok (.found (loc ++ [n]) .directory) :=
    walk_entry hn hdir ho (by simp) hread
  have hrev : (q.entry n).components.reverse = .name n :: q.components.reverse := by
    rw [components_entry q hn]
    simp
  have hspell : ofComponents (Component.name n :: q.components.reverse).reverse = q.entry n := by
    simpa using hq.spelling_entry n
  rw [physical, hrev]
  simp only [physicalRev, hspell]
  split
  · rename_i found hfound
    rw [canonicalize_found hwalk] at hfound
    split at hfound
    · exact absurd hfound (by simp)
    · rename_i hshort
      rw [← entry_ofNames] at hfound hshort
      -- the true name of the directory is shorter still
      have hle := (bytes_prefix_entry (ofNames loc) hn).length_le
      have hcanonical : fs.canonicalize cwd q = .ok (ofNames loc) := by
        rw [canonicalize_found hdir, if_neg (by omega)]
      rw [physical_of_canonicalize hq hcanonical] at hplace
      rw [← Option.some.inj hplace, Except.ok.inj hfound]
  · have hnolink : fs.readLink? cwd (q.entry n) = none := by
      simp [readLink?, find, hwalk, bind, Except.bind]
    rw [hnolink]
    exact congrArg (Option.map (·.entry n)) hplace

/-- What is resolved below a resolved path is spelled as it was, if it is let through. -/
theorem eq_of_resolve_entry (hw : Made w) (hq : w.resolve fs cwd p = .ok q) (hn : IsName n)
    {q' : Path} (h : w.resolve fs cwd (q.entry n) = .ok q') : q' = q.entry n := by
  cases hroot : w.root with
  | none =>
    simp only [resolve, hroot] at h
    exact (Except.ok.inj h).symm
  | some root =>
    obtain ⟨hfold, hstarts, -⟩ := (resolve_confined hroot).mp hq
    obtain ⟨hfold', -⟩ := (resolve_confined hroot).mp h
    have hfolded : IsFolded q := hfold ▸ isFolded_folded _
    rw [← hfold', join_of_startsWith (hw.root_cases hroot) (startsWith_entry hn hstarts),
      (hfolded.entry hn).folded_eq]

/-- **The path of a directory in a listing is let through as it stands.** -/
theorem resolve_entry (hw : Made w) (hq : w.resolve fs cwd p = .ok q) (hn : IsName n)
    (hdir : fs.walk cwd true q = .ok (.found loc .directory))
    (ho : fs.object? (loc ++ [n]) = some .directory)
    (hread : fs.walk cwd true (q.entry n) = .ok spot) :
    w.resolve fs cwd (q.entry n) = .ok (q.entry n) := by
  cases hroot : w.root with
  | none => simp only [resolve, hroot]
  | some root =>
    obtain ⟨hfold, hstarts, place, hplace, hinside⟩ := (resolve_confined hroot).mp hq
    have hfolded : IsFolded q := hfold ▸ isFolded_folded _
    have hstarts' := startsWith_entry hn hstarts
    refine (resolve_confined hroot).mpr ⟨?_, hstarts', place.entry n,
      physical_entry hfolded hn hplace hdir ho hread, startsWith_entry hn hinside⟩
    rw [join_of_startsWith (hw.root_cases hroot) hstarts', (hfolded.entry hn).folded_eq]

/-! ## 3. Trees of different depth -/

/-- The tree with nothing deeper than so many levels below its top entry. -/
def TreeNode.cut : Nat → TreeNode → TreeNode
  | 0, .node e _ => .node e []
  | depth + 1, .node e children => .node e (children.map (cut depth))

/-- The children that a tree shows below an entry that is a directory, if it goes further down. -/
def shownBelow (fs : FileSystem) (cwd : Location) : Nat → Entry → List TreeNode
  | 0, _ => []
  | depth + 1, e => if e.isDirectory then (treeOf fs cwd depth e.path).toOption.getD [] else []

/-- One level of a tree: the visible entries, each with what is shown below it. -/
theorem treeOf_eq (depth : Nat) (q : Path) : treeOf fs cwd depth q
    = (visibleOf fs cwd q).map (List.map fun e => .node e (shownBelow fs cwd depth e)) := by
  cases depth with
  | zero => rfl
  | succ depth =>
    refine congrArg (Except.map · _) (funext fun es => List.map_congr_left fun e _ => ?_)
    rw [shownBelow]
    cases treeOf fs cwd depth e.path <;> rfl

/-- **A tree is the cut of a deeper one.**  So a client may ask for few levels first and for the
others when they are needed. -/
theorem treeOf_cut (depth : Nat) (q : Path) :
    treeOf fs cwd depth q = (treeOf fs cwd (depth + 1) q).map (List.map (TreeNode.cut depth)) := by
  induction depth generalizing q with
  | zero =>
    rw [treeOf_eq, treeOf_eq]
    cases visibleOf fs cwd q with
    | error e => rfl
    | ok es => simp [Except.map, TreeNode.cut, shownBelow]
  | succ depth ih =>
    have hbelow (e : Entry) : shownBelow fs cwd (depth + 1) e
        = (shownBelow fs cwd (depth + 2) e).map (TreeNode.cut depth) := by
      rw [shownBelow, shownBelow, ih e.path]
      split
      · cases treeOf fs cwd (depth + 1) e.path <;> simp [Except.map, Except.toOption]
      · rfl
    rw [treeOf_eq, treeOf_eq]
    cases visibleOf fs cwd q with
    | error e => rfl
    | ok es => simp [Except.map, TreeNode.cut, hbelow]

/-! ## 4. Trees and lists -/

/-- The children of an entry as if they had been asked for: the tree of the directory that it is, if
there is to be anything below it and the directory can be read. -/
def treesBelow (w : Workspace) (fs : FileSystem) (cwd : Location) : Nat → Entry → List TreeNode
  | 0, _ => []
  | depth + 1, e => if e.isDirectory then (w.tree fs cwd e.path depth).toOption.getD [] else []

/-- What can be seen of a directory is what is in its list and not hidden. -/
theorem visibleOf_eq (fs : FileSystem) (cwd : Location) (q : Path) : visibleOf fs cwd q
    = (entriesOf fs cwd q).map fun es => (Entry.sort es).filter fun e => !e.isHidden := by
  simp only [← Entry.sort_filter]
  cases h : entriesOf fs cwd q <;> simp [visibleOf, h, Except.map, bind, Except.bind]

theorem list_eq (hq : w.resolve fs cwd p = .ok q) :
    w.list fs cwd p = (entriesOf fs cwd q).map Entry.sort := by
  cases h : entriesOf fs cwd q <;> simp [list, hq, h, Except.map, bind, Except.bind]

theorem tree_eq (hq : w.resolve fs cwd p = .ok q) : w.tree fs cwd p depth
    = (w.list fs cwd p).map fun es =>
        (es.filter fun e => !e.isHidden).map fun e => .node e (shownBelow fs cwd depth e) := by
  have htree : w.tree fs cwd p depth = treeOf fs cwd depth q := by
    rw [tree, hq]
    rfl
  rw [htree, treeOf_eq, visibleOf_eq, list_eq hq]
  cases entriesOf fs cwd q <;> rfl

/-- A directory in a listing shows the same by itself, if it can be read. -/
theorem tree_entry (hw : Made w) (hq : w.resolve fs cwd p = .ok q) (hn : IsName n)
    (hdir : fs.walk cwd true q = .ok (.found loc .directory))
    (ho : fs.object? (loc ++ [n]) = some .directory) (depth : Nat) :
    (w.tree fs cwd (q.entry n) depth).toOption = (treeOf fs cwd depth (q.entry n)).toOption := by
  cases hres : w.resolve fs cwd (q.entry n) with
  | ok q' =>
    obtain rfl := eq_of_resolve_entry hw hq hn hres
    rw [tree, hres]
    rfl
  | error refusal =>
    -- what is refused cannot be read either
    cases htree : treeOf fs cwd depth (q.entry n) with
    | ok nodes =>
      rw [treeOf_eq] at htree
      obtain ⟨shown, hvisible, -⟩ := map_eq_ok.mp htree
      obtain ⟨_, hread, -⟩ := visibleOf_eq_ok hvisible
      exact absurd (hres.symm.trans (resolve_entry hw hq hn hdir ho hread)) (by simp)
    | error cause =>
      rw [tree, hres]
      rfl

/-- **What is shown below an entry of a list is what is shown when it is asked for.**  An entry that
is opened in a tree shows what a list of its path shows. -/
theorem shownBelow_eq (hf : fs.WellFormed) (hw : Made w) (hq : w.resolve fs cwd p = .ok q)
    (hes : entriesOf fs cwd q = .ok es) {e : Entry} (he : e ∈ es) :
    shownBelow fs cwd depth e = w.treesBelow fs cwd depth e := by
  obtain ⟨loc, hdir, hshown⟩ := entriesOf_eq_ok hes
  obtain ⟨n, o, hm, rfl⟩ := hshown e he
  obtain ⟨ho, hn⟩ := hf.object?_of_mem_children hm
  cases depth with
  | zero => rfl
  | succ depth =>
    rw [shownBelow, treesBelow]
    by_cases hisdir : o.isDirectory = true
    · obtain rfl := Object.isDirectory_eq_true.mp hisdir
      rw [tree_entry hw hq hn hdir ho]
    · rw [if_neg hisdir, if_neg hisdir]

/-- **A tree is what lists are, without hidden entries.**  Its nodes are the entries of the list
that are not hidden, as they stand there, and below a directory is its own tree of one level less;
there is nothing below other entries, and nothing below a directory that cannot be read.  So a tree
is the cut of a deeper one.  The tree of a path fails if the list of it does, for the same reason,
and for no other. -/
theorem tree_shows_lists (hf : fs.WellFormed) (hw : Made w) (p : Path) (depth : Nat) :
    (∀ es, w.list fs cwd p = .ok es → w.tree fs cwd p depth
        = .ok ((es.filter fun e => !e.isHidden).map fun e => .node e (w.treesBelow fs cwd depth e)))
      ∧ (∀ cause, w.tree fs cwd p depth = .error cause ↔ w.list fs cwd p = .error cause)
      ∧ w.tree fs cwd p depth
        = (w.tree fs cwd p (depth + 1)).map (List.map (TreeNode.cut depth)) := by
  cases hres : w.resolve fs cwd p with
  | error refusal =>
    have htree (d : Nat) : w.tree fs cwd p d = .error refusal := by
      rw [tree, hres]
      rfl
    have hlist : w.list fs cwd p = .error refusal := by
      rw [list, hres]
      rfl
    refine ⟨fun es h => absurd (hlist.symm.trans h) (by simp), fun cause => ?_, ?_⟩
    · simp [htree, hlist]
    · rw [htree, htree]
      rfl
  | ok q =>
    refine ⟨fun es h => ?_, fun cause => ?_, ?_⟩
    · rw [tree_eq hres, h]
      refine congrArg Except.ok (List.map_congr_left fun e he => ?_)
      rw [list_eq hres] at h
      obtain ⟨found, hfound, rfl⟩ := map_eq_ok.mp h
      rw [shownBelow_eq hf hw hres hfound (mem_sort.mp (List.mem_filter.mp he).1)]
    · rw [tree_eq hres]
      cases w.list fs cwd p <;> simp [Except.map]
    · simp only [tree, hres]
      exact treeOf_cut depth q

/-- A disk with a workspace `r`, in which a file, a hidden directory and a link stand beside a
directory `s`, to which the link leads and which has two levels below it. -/
def nestedDisk : FileSystem :=
  ⟨[([[0x72]], .directory), ([[0x72], [0x61]], .file [] false),
    ([[0x72], [0x6C]], .link (.ofString "s")), ([[0x72], [0x2E, 0x68]], .directory),
    ([[0x72], [0x73]], .directory), ([[0x72], [0x73], [0x74]], .directory),
    ([[0x72], [0x73], [0x74], [0x75]], .file [] false)]⟩

theorem nestedDisk_wellFormed : nestedDisk.WellFormed where
  once := by decide
  ne_root := by decide
  names := by decide
  parents := by decide

/-- A tree of depth one leaves out the hidden directory, does not enter the link, and ends below the
directory `s`. -/
theorem nested_tree :
    list (confinedTo [] (.ofString "r")) nestedDisk [] (.ofString ".")
        = .ok [⟨".h", .ofString "/r/.h", true⟩, ⟨"s", .ofString "/r/s", true⟩,
          ⟨"a", .ofString "/r/a", false⟩, ⟨"l", .ofString "/r/l", false⟩]
      ∧ tree (confinedTo [] (.ofString "r")) nestedDisk [] (.ofString ".") 1
        = .ok [.node ⟨"s", .ofString "/r/s", true⟩ [.node ⟨"t", .ofString "/r/s/t", true⟩ []],
          .node ⟨"a", .ofString "/r/a", false⟩ [], .node ⟨"l", .ofString "/r/l", false⟩ []] := by
  have hlist : list (confinedTo [] (.ofString "r")) nestedDisk [] (.ofString ".")
      = .ok [⟨".h", .ofString "/r/.h", true⟩, ⟨"s", .ofString "/r/s", true⟩,
        ⟨"a", .ofString "/r/a", false⟩, ⟨"l", .ofString "/r/l", false⟩] := by
    cbv
  have htree := (tree_shows_lists nestedDisk_wellFormed (.confined [] (.ofString "r"))
    (.ofString ".") 1).1 _ hlist
  refine ⟨hlist, htree.trans ?_⟩
  cbv

end Workspace
end Scriptorium
