import Mathlib
import Scriptorium.Proofs.FileSystem.Operations
import Scriptorium.Proofs.Workspace.Resolve
import Scriptorium.Workspace.Requests

/-!
# A workspace is confined to its root

What a request reads, shows or writes is at or below the place that the root of the workspace
leads to, whatever links there are (`confined_to_root`).  All of it follows from
`within_of_resolve`: reading, listing and writing work at the place that a walk of the resolved
path ends at, and a new file is made where the walk finds that nothing is there.  A tree walks anew
for each directory that it shows, along a path that has been walked before and one name more; that
name is no link, since the tree only enters what the listing calls a directory.

A request that is refused as being outside leaves the files as they were, also one that removes or
moves (`Request.outcome`).

The trees are those of a file system whose entries are the contents of a disk.  Requests keep them
so, however many there are (`after_wellFormed`).
-/
namespace Scriptorium.Workspace

open FileSystem Scriptorium.Path

variable {w : Workspace} {fs fs' : FileSystem} {cwd : Location} {root p q : Path} {action : Action}

/-! ## 1. Requests and what comes of them -/

theorem during_eq_ok {α : Type} {x : Except OsError α} {a : α} :
    during action p x = .ok a ↔ x = .ok a := by
  cases x <;> simp [during]

/-- A request to a workspace. -/
inductive Request where
  | list (p : Path)
  | tree (p : Path) (depth : Nat)
  | read (p : Path)
  | write (p : Path) (content : String)
  | create (p : Path)
  | delete (p : Path)
  | rename (source target : Path)

/-- The files after a request that only looks at them, and why it failed if it did. -/
def looked {α : Type} (fs : FileSystem) : Except Error α → FileSystem × Option Error
  | .ok _ => (fs, none)
  | .error e => (fs, some e)

/-- The files after a request that changes them, and why it failed if it did. -/
def changed (fs : FileSystem) : Except Error FileSystem → FileSystem × Option Error
  | .ok fs' => (fs', none)
  | .error e => (fs, some e)

/-- The files after a request, and why it failed if it did. -/
def Request.outcome (w : Workspace) (fs : FileSystem) (cwd : Location) :
    Request → FileSystem × Option Error
  | .list p => looked fs (w.list fs cwd p)
  | .tree p depth => looked fs (w.tree fs cwd p depth)
  | .read p => looked fs (w.read fs cwd p)
  | .write p content => changed fs (w.write fs cwd p content)
  | .create p => changed fs (w.create fs cwd p)
  | .delete p =>
    match w.delete fs cwd p with
    | (fs', .ok ()) => (fs', none)
    | (fs', .error e) => (fs', some e)
  | .rename source target => changed fs (w.rename fs cwd source target)

@[simp] theorem looked_files {α : Type} (x : Except Error α) : (looked fs x).1 = fs := by
  cases x <;> rfl

theorem changed_files {P : FileSystem → Prop} {x : Except Error FileSystem} (h : P fs)
    (hx : ∀ fs', x = .ok fs' → P fs') : P (changed fs x).1 := by
  cases x with
  | ok fs' => exact hx fs' rfl
  | error e => exact h

theorem changed_of_failed {x : Except Error FileSystem} {e : Error}
    (h : (changed fs x).2 = some e) : (changed fs x).1 = fs := by
  cases x with
  | ok fs' => exact absurd h (by simp [changed])
  | error e => rfl

/-- What is in the directory `dir`, as an entry of a list. -/
def ShownIn (fs : FileSystem) (dir : Location) (e : Entry) : Prop :=
  ∃ n o, (n, o) ∈ fs.children dir ∧ e.name = Text.Utf8.lossyString n
    ∧ e.isDirectory = o.isDirectory

/-- A tree shows an entry: its own or one further down. -/
inductive TreeNode.Shows : TreeNode → Entry → Prop
  | here {e : Entry} {children : List TreeNode} : Shows (.node e children) e
  | deeper {d e : Entry} {children : List TreeNode} {t : TreeNode} :
      t ∈ children → Shows t e → Shows (.node d children) e

/-! ## 2. Looking -/

theorem object?_of_walk {loc : Location} {o : Object} {ns : List Name} (h : ∀ n ∈ ns, IsName n)
    (hw : fs.walk cwd true (ofNames ns) = .ok (.found loc o)) : fs.object? loc = some o :=
  (settled_of_walk h hw).1.object

/-- What is listed for a directory are the entries of the place that its path leads to, each by its
name and the path to it. -/
theorem entriesOf_eq_ok {es : List Entry} (h : entriesOf fs cwd p = .ok es) :
    ∃ dir, fs.walk cwd true p = .ok (.found dir .directory)
      ∧ ∀ e ∈ es, ∃ n o, (n, o) ∈ fs.children dir
        ∧ e = ⟨Text.Utf8.lossyString n, p.entry n, o.isDirectory⟩ := by
  obtain ⟨found, hf, h⟩ := bind_eq_ok.mp h
  obtain ⟨dir, hw, rfl⟩ := readDirectory_eq_ok (during_eq_ok.mp hf)
  refine ⟨dir, hw, fun e he => ?_⟩
  rw [← Except.ok.inj h] at he
  obtain ⟨⟨n, o⟩, hm, rfl⟩ := List.mem_map.mp he
  exact ⟨n, o, hm, rfl⟩

theorem mem_sort {e : Entry} {es : List Entry} : e ∈ Entry.sort es ↔ e ∈ es :=
  List.mem_mergeSort

theorem visibleOf_eq_ok {es : List Entry} (h : visibleOf fs cwd p = .ok es) :
    ∃ dir, fs.walk cwd true p = .ok (.found dir .directory)
      ∧ ∀ e ∈ es, ∃ n o, (n, o) ∈ fs.children dir
        ∧ e = ⟨Text.Utf8.lossyString n, p.entry n, o.isDirectory⟩ := by
  obtain ⟨all, ha, h⟩ := bind_eq_ok.mp h
  obtain ⟨dir, hw, hshown⟩ := entriesOf_eq_ok ha
  refine ⟨dir, hw, fun e he => hshown e ?_⟩
  rw [← Except.ok.inj h, mem_sort] at he
  exact (List.mem_filter.mp he).1

/-- **A tree only shows what is in directories at or below the one it starts from.** -/
theorem shownIn_of_treeOf (hf : fs.WellFormed) {P : Location → Prop}
    (hdown : ∀ dir n, P dir → P (dir ++ [n])) (depth : Nat) {ns : List Name}
    {nodes : List TreeNode} (hns : ∀ n ∈ ns, IsName n)
    (hP : ∀ spot, fs.walk cwd true (ofNames ns) = .ok spot → P spot.place)
    (h : treeOf fs cwd depth (ofNames ns) = .ok nodes) :
    ∀ t ∈ nodes, ∀ e, t.Shows e → ∃ dir, P dir ∧ ShownIn fs dir e := by
  induction depth generalizing ns nodes with
  | zero =>
    obtain ⟨es, hv, rfl⟩ := map_eq_ok.mp h
    obtain ⟨dir, hw, hshown⟩ := visibleOf_eq_ok hv
    intro t ht e he
    obtain ⟨d, hd, rfl⟩ := List.mem_map.mp ht
    obtain ⟨n, o, hm, rfl⟩ := hshown d hd
    cases he with
    | here => exact ⟨dir, hP _ hw, n, o, hm, rfl, rfl⟩
    | deeper ht _ => exact absurd ht (by simp)
  | succ depth ih =>
    obtain ⟨es, hv, rfl⟩ := map_eq_ok.mp h
    obtain ⟨dir, hw, hshown⟩ := visibleOf_eq_ok hv
    intro t ht e he
    obtain ⟨d, hd, rfl⟩ := List.mem_map.mp ht
    obtain ⟨n, o, hm, rfl⟩ := hshown d hd
    cases he with
    | here => exact ⟨dir, hP _ hw, n, o, hm, rfl, rfl⟩
    | deeper hchild hshows =>
      split at hchild
      · rename_i hisdir
        split at hchild
        · rename_i nodes hnodes
          obtain ⟨ho, hn⟩ := hf.object?_of_mem_children hm
          obtain rfl := Object.isDirectory_eq_true.mp hisdir
          have hnames : ∀ m ∈ ns ++ [n], IsName m := by
            intro m hm
            rcases List.mem_append.mp hm with hm | hm
            · exact hns m hm
            · exact List.mem_singleton.mp hm ▸ hn
          rw [entry_ofNames] at hnodes
          refine ih hnames (fun spot hspot => ?_) hnodes _ hchild e hshows
          have hnolink : ∀ t, fs.object? (dir ++ [n]) ≠ some (.link t) := by simp [ho]
          rw [walk_concat hnames hw hnolink hspot, place_spotAt]
          exact hdown dir n (hP _ hw)
        · exact absurd hchild (by simp)
      · exact absurd hchild (by simp)

/-! ## 3. The requests that follow links -/

/-- A resolved path is spelled by names, and what it leads to is inside. -/
theorem inside_of_resolve (hw : w.root = some root) (hroot : IsRoot root)
    (h : w.resolve fs cwd p = .ok q) :
    ∃ ns, (∀ n ∈ ns, IsName n) ∧ q = ofNames ns
      ∧ ∀ spot, fs.walk cwd true (ofNames ns) = .ok spot → Within fs cwd root spot.place := by
  obtain ⟨rs, ms, _, -, rfl, hnames, -, -⟩ := resolve_eq_ok hw hroot h
  exact ⟨rs ++ ms, hnames, rfl, fun spot hs => within_of_resolve hw hroot h hs⟩

/-- **What is read stands in the workspace**, at the place that the path leads to after all links.
-/
theorem read_within (hw : w.root = some root) (hroot : IsRoot root) {s : String}
    (h : w.read fs cwd p = .ok s) :
    ∃ loc o bytes, Within fs cwd root loc ∧ fs.object? loc = some o ∧ o.content? = some bytes
      ∧ Text.Utf8.decodeString? bytes = some s := by
  obtain ⟨q, hq, h⟩ := bind_eq_ok.mp h
  obtain ⟨ns, hns, rfl, hin⟩ := inside_of_resolve hw hroot hq
  obtain ⟨bytes, hb, h⟩ := bind_eq_ok.mp h
  obtain ⟨loc, o, hwalk, hc⟩ := readFile_eq_ok (during_eq_ok.mp hb)
  refine ⟨loc, o, bytes, hin _ hwalk, object?_of_walk hns hwalk, hc, ?_⟩
  split at h
  · rename_i hd
    rw [hd, Except.ok.inj h]
  · exact absurd h (by simp)

/-- **What is listed stands in the workspace**: the directory does, and each entry is one of its
own. -/
theorem list_within (hw : w.root = some root) (hroot : IsRoot root) {es : List Entry}
    (h : w.list fs cwd p = .ok es) :
    ∃ dir, Within fs cwd root dir ∧ ∀ e ∈ es, ShownIn fs dir e := by
  obtain ⟨q, hq, h⟩ := bind_eq_ok.mp h
  obtain ⟨ns, hns, rfl, hin⟩ := inside_of_resolve hw hroot hq
  obtain ⟨all, ha, h⟩ := bind_eq_ok.mp h
  obtain ⟨dir, hwalk, hshown⟩ := entriesOf_eq_ok ha
  refine ⟨dir, hin _ hwalk, fun e he => ?_⟩
  rw [← Except.ok.inj h, mem_sort] at he
  obtain ⟨n, o, hm, rfl⟩ := hshown e he
  exact ⟨n, o, hm, rfl, rfl⟩

theorem tree_within (hw : w.root = some root) (hroot : IsRoot root) (hf : fs.WellFormed)
    {depth : Nat} {nodes : List TreeNode} (h : w.tree fs cwd p depth = .ok nodes) :
    ∀ t ∈ nodes, ∀ e, t.Shows e → ∃ dir, Within fs cwd root dir ∧ ShownIn fs dir e := by
  obtain ⟨q, hq, h⟩ := bind_eq_ok.mp h
  obtain ⟨ns, hns, rfl, hin⟩ := inside_of_resolve hw hroot hq
  refine shownIn_of_treeOf hf (fun dir n hd => ?_) depth hns hin h
  obtain ⟨top, htop, hpre⟩ := hd
  exact ⟨top, htop, hpre.trans (List.prefix_append dir [n])⟩

/-- Writing changes one object, which is inside. -/
theorem write_within (hw : w.root = some root) (hroot : IsRoot root) {content : String}
    (h : w.write fs cwd p content = .ok fs') :
    ∃ loc, Within fs cwd root loc ∧ ∀ l, l ≠ loc → fs'.object? l = fs.object? l := by
  obtain ⟨q, hq, h⟩ := bind_eq_ok.mp h
  obtain ⟨ns, hns, rfl, hin⟩ := inside_of_resolve hw hroot hq
  obtain ⟨spot, hwalk, hcase⟩ := writeFile_eq_ok (during_eq_ok.mp h)
  refine ⟨spot.place, hin _ hwalk, fun l hl => ?_⟩
  rcases hcase with ⟨-, rfl⟩ | ⟨x, hwas, rfl⟩
  · rfl
  · have hne : spot.place ≠ [] := by
      intro he
      have ho := (settled_of_walk hns hwalk).1.object
      rw [he, object?_nil] at ho
      rcases hwas with ⟨old, hw⟩ | hw <;> rw [hw] at ho <;> simp at ho
    rw [object?_put _ _ _ _ hne, if_neg fun he => hl he.symm]

/-- A file that is made is inside, and all else stays as it was. -/
theorem create_within (hw : w.root = some root) (hroot : IsRoot root)
    (h : w.create fs cwd p = .ok fs') :
    ∃ loc, Within fs cwd root loc ∧ ∀ l, l ≠ loc → fs'.object? l = fs.object? l := by
  obtain ⟨q, hq, h⟩ := bind_eq_ok.mp h
  obtain ⟨ns, hns, rfl, hin⟩ := inside_of_resolve hw hroot hq
  obtain ⟨front, n, dir, rfl, hl, hnone, rfl⟩ := createFile_eq_ok hns (during_eq_ok.mp h)
  have hwalk := hl.walk_of_no_link cwd fun t => by simp [hnone]
  have hplace := hin _ hwalk
  rw [place_spotAt] at hplace
  refine ⟨dir ++ [n], hplace, fun l hne => ?_⟩
  rw [object?_put _ _ _ _ (by simp), if_neg fun he => hne he.symm]

/-! ## 4. Refusals, and the whole -/

theorem during_ne_outside {α : Type} {x : Except OsError α} :
    during action p x ≠ .error (.outside q) := by
  cases x <;> simp [during]

/-- What deleting does: nothing, or the removal of a tree or of an entry. -/
theorem delete_cases (w : Workspace) (fs : FileSystem) (cwd : Location) (p : Path) :
    (∃ e, w.delete fs cwd p = (fs, .error e))
      ∨ ∃ q, w.resolve fs cwd p = .ok q ∧ w.isRoot q = false
        ∧ ((∃ loc, fs.find cwd false q = .ok (loc, .directory)
              ∧ w.delete fs cwd p
                = ((fs.removeTree cwd q).1, during .delete q (fs.removeTree cwd q).2))
          ∨ ∃ fs', fs.unlink cwd q = .ok fs' ∧ w.delete fs cwd p = (fs', .ok ())) := by
  unfold delete
  cases hres : w.resolve fs cwd p with
  | error e => exact .inl ⟨e, rfl⟩
  | ok q =>
    by_cases hroot : w.isRoot q = true
    · exact .inl ⟨.outside q, by simp [hroot]⟩
    · simp only [if_neg hroot]
      cases hfind : fs.find cwd false q with
      | error e => exact .inl ⟨_, rfl⟩
      | ok found =>
        obtain ⟨loc, o⟩ := found
        cases o with
        | directory => exact .inr ⟨q, rfl, by simpa using hroot, .inl ⟨loc, hfind, rfl⟩⟩
        | _ =>
          cases hu : fs.unlink cwd q with
          | error e => exact .inl ⟨_, rfl⟩
          | ok fs' => exact .inr ⟨q, rfl, by simpa using hroot, .inr ⟨fs', hu, rfl⟩⟩

theorem delete_of_outside (h : (w.delete fs cwd p).2 = .error (.outside q)) :
    (w.delete fs cwd p).1 = fs := by
  rcases delete_cases w fs cwd p with ⟨e, he⟩ | ⟨_, -, -, ⟨loc, -, he⟩ | ⟨fs', -, he⟩⟩
  · rw [he]
  · rw [he] at h
    exact absurd h during_ne_outside
  · rw [he] at h
    exact absurd h (by simp)

theorem outcome_delete :
    Request.outcome w fs cwd (.delete p)
      = ((w.delete fs cwd p).1, match (w.delete fs cwd p).2 with
        | .ok () => none
        | .error e => some e) := by
  rcases h : w.delete fs cwd p with ⟨fs', _ | _⟩ <;> simp [Request.outcome, h]

/-- A request that is refused as being outside has changed nothing. -/
theorem outcome_of_outside (r : Request) (h : (r.outcome w fs cwd).2 = some (.outside q)) :
    (r.outcome w fs cwd).1 = fs := by
  cases r with
  | list p => exact looked_files _
  | tree p depth => exact looked_files _
  | read p => exact looked_files _
  | write p content => exact changed_of_failed h
  | create p => exact changed_of_failed h
  | rename source target => exact changed_of_failed h
  | delete p =>
    rw [outcome_delete] at h ⊢
    refine delete_of_outside (q := q) ?_
    split at h
    · exact absurd h (by simp)
    · rename_i he
      rw [he, Option.some.inj h]

/-- Whether a request follows a link in the last place of its path, or makes nothing there. -/
def Request.follows : Request → Bool
  | .delete _ | .rename _ _ => false
  | _ => true

/-- What a request changes, unless it is one to remove or to move, is inside. -/
theorem outcome_within (hw : w.root = some root) (hroot : IsRoot root) {r : Request}
    (hr : r.follows = true) {l : Location}
    (hl : (r.outcome w fs cwd).1.object? l ≠ fs.object? l) : Within fs cwd root l := by
  have hchanged : ∀ x : Except Error FileSystem,
      (∀ fs', x = .ok fs' → ∃ loc, Within fs cwd root loc
        ∧ ∀ l, l ≠ loc → fs'.object? l = fs.object? l) →
      (changed fs x).1.object? l ≠ fs.object? l → Within fs cwd root l := by
    intro x hx
    refine changed_files (P := fun f => f.object? l ≠ fs.object? l → Within fs cwd root l)
      (fun hne => absurd rfl hne) fun fs' he hne => ?_
    obtain ⟨loc, hin, hsame⟩ := hx fs' he
    by_cases hloc : l = loc
    · exact hloc ▸ hin
    · exact absurd (hsame l hloc) hne
  cases r with
  | list p => exact absurd (congrArg (·.object? l) (looked_files _)) hl
  | tree p depth => exact absurd (congrArg (·.object? l) (looked_files _)) hl
  | read p => exact absurd (congrArg (·.object? l) (looked_files _)) hl
  | write p content => exact hchanged _ (fun fs' h => write_within hw hroot h) hl
  | create p => exact hchanged _ (fun fs' h => create_within hw hroot h) hl
  | delete p => exact absurd hr (by simp [Request.follows])
  | rename source target => exact absurd hr (by simp [Request.follows])

/-- **Requests leave the contents of a disk.**  A request that fails on the way may have changed
something before, but never leaves an entry without its directory. -/
theorem outcome_wellFormed (hw : w.root = some root) (hroot : IsRoot root) (hf : fs.WellFormed)
    (r : Request) : (r.outcome w fs cwd).1.WellFormed := by
  cases r with
  | list p => rwa [Request.outcome, looked_files]
  | tree p depth => rwa [Request.outcome, looked_files]
  | read p => rwa [Request.outcome, looked_files]
  | write p content =>
    refine changed_files hf fun fs' h => ?_
    obtain ⟨q, hq, h⟩ := bind_eq_ok.mp h
    obtain ⟨ns, hns, rfl, -⟩ := inside_of_resolve hw hroot hq
    exact hf.writeFile hns (during_eq_ok.mp h)
  | create p =>
    refine changed_files hf fun fs' h => ?_
    obtain ⟨q, hq, h⟩ := bind_eq_ok.mp h
    obtain ⟨ns, hns, rfl, -⟩ := inside_of_resolve hw hroot hq
    exact hf.createFile hns (during_eq_ok.mp h)
  | delete p =>
    rw [outcome_delete]
    rcases delete_cases w fs cwd p with ⟨e, he⟩ | ⟨q, hq, -, ⟨loc, -, he⟩ | ⟨fs', hu, he⟩⟩
    · rwa [he]
    · obtain ⟨ns, hns, rfl, -⟩ := inside_of_resolve hw hroot hq
      rw [he]
      exact hf.removeTree hns
    · obtain ⟨ns, hns, rfl, -⟩ := inside_of_resolve hw hroot hq
      rw [he]
      exact hf.unlink hns hu
  | rename source target =>
    refine changed_files hf fun fs' h => ?_
    obtain ⟨q, hq, h⟩ := bind_eq_ok.mp h
    obtain ⟨q', hq', h⟩ := bind_eq_ok.mp h
    obtain ⟨ns, hns, rfl, -⟩ := inside_of_resolve hw hroot hq
    obtain ⟨ms, hms, rfl, -⟩ := inside_of_resolve hw hroot hq'
    exact hf.rename hns hms (during_eq_ok.mp h)

/-- The files after some requests. -/
def after (w : Workspace) (cwd : Location) (fs : FileSystem) (rs : List Request) : FileSystem :=
  rs.foldl (fun fs r => (r.outcome w fs cwd).1) fs

/-- **Whatever is asked of a workspace, one request after the other, the disk stays well-formed**:
every object stays in a directory that is there. -/
theorem after_wellFormed (hw : w.root = some root) (hroot : IsRoot root) (hf : fs.WellFormed)
    (rs : List Request) : (after w cwd fs rs).WellFormed := by
  induction rs generalizing fs with
  | nil => exact hf
  | cons r rs ih => exact ih (outcome_wellFormed hw hroot hf r)

/-- **A workspace is confined to its root.**  A resolved path begins with the root, and the place
that it leads to, or at which a file made under it would stand, is at or below that of the root.
So are the file that is read, the directories that entries are shown from, and the object that is
written or made.  And a request that is refused as being outside changes nothing. -/
theorem confined_to_root (hw : w.root = some root) (hroot : IsRoot root) :
    (∀ p q, w.resolve fs cwd p = .ok q → q.startsWith root = true
        ∧ ∀ spot, fs.walk cwd true q = .ok spot → Within fs cwd root spot.place)
      ∧ (∀ p s, w.read fs cwd p = .ok s →
          ∃ loc o bytes, Within fs cwd root loc ∧ fs.object? loc = some o
            ∧ o.content? = some bytes ∧ Text.Utf8.decodeString? bytes = some s)
      ∧ (∀ p es, w.list fs cwd p = .ok es →
          ∃ dir, Within fs cwd root dir ∧ ∀ e ∈ es, ShownIn fs dir e)
      ∧ (fs.WellFormed → ∀ p depth nodes, w.tree fs cwd p depth = .ok nodes →
          ∀ t ∈ nodes, ∀ e, t.Shows e → ∃ dir, Within fs cwd root dir ∧ ShownIn fs dir e)
      ∧ (∀ r : Request, r.follows = true → ∀ l,
          (r.outcome w fs cwd).1.object? l ≠ fs.object? l → Within fs cwd root l)
      ∧ (∀ r : Request, ∀ q, (r.outcome w fs cwd).2 = some (.outside q) →
          (r.outcome w fs cwd).1 = fs) := by
  refine ⟨fun p q h => ⟨?_, fun spot hs => within_of_resolve hw hroot h hs⟩,
    fun p s h => read_within hw hroot h, fun p es h => list_within hw hroot h,
    fun hf p depth nodes h => tree_within hw hroot hf h,
    fun r hr l hl => outcome_within hw hroot hr hl,
    fun r q h => outcome_of_outside r h⟩
  obtain ⟨rs, ms, _, rfl, rfl, hnames, -, -⟩ := resolve_eq_ok hw hroot h
  have hrs : ∀ n ∈ rs, IsName n := fun n hn => hnames n (List.mem_append_left _ hn)
  exact (startsWith_ofNames hnames hrs).mpr (List.prefix_append rs ms)

/-- A disk with a workspace `r`, in which `up` leads out of it, and with two links outside: `b`
leads to the file `a` in the workspace, and `d` to the workspace itself. -/
def loopDisk : FileSystem :=
  ⟨[([[0x72]], .directory), ([[0x72], [0x61]], .file [0x68, 0x69] false),
    ([[0x72], [0x75, 0x70]], .link (.ofString "..")),
    ([[0x62]], .link (.ofString "r/a")), ([[0x64]], .link (.ofString "r"))]⟩

theorem loopDisk_wellFormed : loopDisk.WellFormed where
  once := by decide
  ne_root := by decide
  names := by decide
  parents := by decide

/-- A file is read along links that leave the workspace and come back, the link that leaves it is
refused, and a tree of the workspace shows nothing else. -/
theorem read_out_and_back :
    (Request.outcome ⟨some (.ofString "/d")⟩ loopDisk [] (.read (.ofString "up"))).2
        = some (.outside (.ofString "up"))
      ∧ (∃ loc o bytes, Within loopDisk [] (.ofString "/d") loc ∧ loopDisk.object? loc = some o
        ∧ o.content? = some bytes ∧ Text.Utf8.decodeString? bytes = some "hi")
      ∧ ∃ dir, Within loopDisk [] (.ofString "/d") dir
        ∧ ShownIn loopDisk dir ⟨"up", .ofString "/d/up", false⟩ := by
  have hread : read ⟨some (.ofString "/d")⟩ loopDisk [] (.ofString "up/b") = .ok "hi" := by cbv
  have htree : tree ⟨some (.ofString "/d")⟩ loopDisk [] (.ofString ".") 1
      = .ok [.node ⟨"a", .ofString "/d/a", false⟩ [],
          .node ⟨"up", .ofString "/d/up", false⟩ []] := by
    cbv
  have hroot : IsRoot (.ofString "/d") := ⟨by cbv, by cbv⟩
  obtain ⟨-, hr, -, ht, -⟩ := confined_to_root rfl hroot
  have hup := ht loopDisk_wellFormed _ _ _ htree _ (List.mem_cons_of_mem _ List.mem_cons_self)
  exact ⟨by cbv, hr _ _ hread, hup _ .here⟩

end Scriptorium.Workspace
