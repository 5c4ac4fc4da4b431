import Mathlib.Data.List.Flatten
import Mathlib.Data.List.Nodup
import Mathlib.Data.List.Perm.Subperm
import Scriptorium.Proofs.Workspace.Tree

/-!
# The nodes of a tree

A tree goes down into what the listings call directories, and a listing calls no link one.  So the
names by which a node is reached from the top lead through directories only, and the node stands at
the place that they spell, whatever links there are, to directories above as well (`ShownAt`,
`mem_entriesIn`).  Different nodes have different names on the way, hence different paths
(`nodup_paths`).

A large depth bounds nothing.  What bounds a tree is the disk: it has at most as many nodes as there
are entries, no directory is read twice for it (`nodup_readFor`), and more depth than there are
entries shows nothing more (`treeOf_of_le`).
-/
namespace Scriptorium.Workspace

open FileSystem Scriptorium.Path

variable {w : Workspace} {fs : FileSystem} {cwd loc : Location} {p q : Path} {n m : Name}
variable {o : Object} {depth : Nat} {e : Entry} {es : List Entry} {nodes : List TreeNode}
variable {front : List Name}

/-! ## 1. What a directory shows -/

/-- The entry that stands for a name in the directory `dir`. -/
def entryOf (dir : Path) (n : Name) (o : Object) : Entry :=
  ⟨Text.Utf8.lossyString n, dir.entry n, o.isDirectory⟩

/-- Whether entries of this name are hidden. -/
def HiddenName (n : Name) : Prop := (Text.Utf8.lossyString n).toList.head? = some '.'

theorem not_isHidden_entryOf : (!(entryOf p n o).isHidden) = true ↔ ¬ HiddenName n := by
  rw [Bool.not_eq_true', ← Bool.not_eq_true, Entry.isHidden, decide_eq_true_eq]
  rfl

/-- What can be seen of a directory, up to the order. -/
theorem visibleOf_perm (h : visibleOf fs cwd q = .ok es) :
    ∃ loc, fs.walk cwd true q = .ok (.found loc .directory)
      ∧ es.Perm (((fs.children loc).map fun c => entryOf q c.1 c.2).filter fun e => !e.isHidden) := by
  obtain ⟨all, hall, h⟩ := bind_eq_ok.mp h
  obtain ⟨found, hfound, hall⟩ := bind_eq_ok.mp hall
  obtain ⟨loc, hwalk, rfl⟩ := readDirectory_eq_ok (during_eq_ok.mp hfound)
  refine ⟨loc, hwalk, ?_⟩
  rw [← Except.ok.inj h, ← Except.ok.inj hall]
  exact List.mergeSort_perm _ _

/-- A directory that a path leads to can be read by it. -/
theorem exists_visibleOf (hdir : fs.walk cwd true q = .ok (.found loc .directory)) :
    ∃ es, visibleOf fs cwd q = .ok es := by
  have hread : fs.readDirectory cwd q = .ok (fs.children loc) := by
    rw [readDirectory, find_eq_ok.mpr hdir]
    rfl
  simp [visibleOf, entriesOf, hread, during, bind, Except.bind]

/-- **The visible entries of a directory** are those of the names in it that are not hidden. -/
theorem mem_visibleOf (hf : fs.WellFormed)
    (hdir : fs.walk cwd true q = .ok (.found loc .directory)) (h : visibleOf fs cwd q = .ok es) :
    e ∈ es ↔ ∃ n o, fs.object? (loc ++ [n]) = some o ∧ ¬ HiddenName n ∧ e = entryOf q n o := by
  obtain ⟨loc', hdir', hperm⟩ := visibleOf_perm h
  obtain ⟨rfl, -⟩ := Spot.found.inj (Except.ok.inj (hdir.symm.trans hdir'))
  rw [hperm.mem_iff, List.mem_filter, List.mem_map]
  constructor
  · rintro ⟨⟨⟨n, o⟩, hm, rfl⟩, hvis⟩
    exact ⟨n, o, hf.mem_children_iff.mp hm, not_isHidden_entryOf.mp hvis, rfl⟩
  · rintro ⟨n, o, ho, hvis, rfl⟩
    exact ⟨⟨(n, o), hf.mem_children_iff.mpr ho, rfl⟩, not_isHidden_entryOf.mpr hvis⟩

/-- No path is listed twice for a directory, as no name is there twice. -/
theorem nodup_visibleOf (hf : fs.WellFormed) (h : visibleOf fs cwd q = .ok es) :
    (es.map Entry.path).Nodup := by
  obtain ⟨loc, -, hperm⟩ := visibleOf_perm h
  have hname : ∀ n ∈ (fs.children loc).map Prod.fst, IsName n := by
    intro n hn
    obtain ⟨⟨n, o⟩, hm, rfl⟩ := List.mem_map.mp hn
    exact (hf.object?_of_mem_children hm).2
  have hall : (((fs.children loc).map Prod.fst).map q.entry).Nodup := by
    refine (hf.nodup_children loc).map_on fun n hn m hm he => ?_
    have hnames : [n] = [m] :=
      below_inj (by simpa using hname n hn) (by simpa using hname m hm) he
    exact List.singleton_inj.mp hnames
  have hpaths : ((fs.children loc).map Prod.fst).map q.entry
      = ((fs.children loc).map fun c => entryOf q c.1 c.2).map Entry.path := by
    rw [List.map_map, List.map_map]
    rfl
  rw [hpaths] at hall
  exact (hperm.map Entry.path).nodup_iff.mpr (hall.sublist (List.filter_sublist.map _))

/-! ## 2. What a tree shows -/

mutual

/-- The entries that a tree shows, each before those below it. -/
def TreeNode.entries : TreeNode → List Entry
  | .node e children => e :: entriesIn children

/-- The entries that the trees of a list show. -/
def entriesIn : List TreeNode → List Entry
  | [] => []
  | t :: rest => t.entries ++ entriesIn rest

end

theorem entriesIn_map (es : List Entry) (children : Entry → List TreeNode) :
    entriesIn (es.map fun e => .node e (children e))
      = es.flatMap fun e => e :: entriesIn (children e) := by
  induction es with
  | nil => simp [entriesIn]
  | cons e es ih => simp [entriesIn, TreeNode.entries, ih]

/-- **What a tree shows** of so many levels below the directory at `loc`, which it reads by the path
`q`: the entry of the name `n` in the directory that the names `front` lead down to, through
directories only.  The path of that directory must be one that the system takes. -/
structure ShownAt (fs : FileSystem) (depth : Nat) (q : Path) (loc : Location) (front : List Name)
    (n : Name) (o : Object) : Prop where
  there : fs.object? (loc ++ front ++ [n]) = some o
  level : front.length ≤ depth
  visible : ∀ m ∈ front ++ [n], ¬ HiddenName m
  entered : ∀ ms, ms ≠ [] → ms <+: front → fs.object? (loc ++ ms) = some .directory
  passable : FileSystem.passable (q.below front) = .ok ()

theorem names_of_object? (hf : fs.WellFormed) (ho : fs.object? (loc ++ front ++ [n]) = some o) :
    ∀ m ∈ front ++ [n], IsName m ∧ m.length ≤ maxNameLength := by
  intro m hm
  refine hf.names _ (mem_of_object? (by simp) ho) m ?_
  rw [List.append_assoc]
  exact List.mem_append_right _ hm

theorem name_of_object? (hf : fs.WellFormed) (ho : fs.object? (loc ++ [n]) = some o) :
    IsName n ∧ n.length ≤ maxNameLength := by
  have hthere : fs.object? (loc ++ [] ++ [n]) = some o := by simpa using ho
  exact names_of_object? hf hthere n (by simp)

/-- Directly in the directory, a tree shows what is visible. -/
theorem shownAt_nil (hdir : fs.walk cwd true q = .ok (.found loc .directory)) :
    ShownAt fs depth q loc [] n o ↔ fs.object? (loc ++ [n]) = some o ∧ ¬ HiddenName n := by
  constructor
  · intro h
    exact ⟨by simpa using h.there, h.visible n (by simp)⟩
  · rintro ⟨ho, hvis⟩
    refine ⟨by simpa using ho, Nat.zero_le _, by simpa using hvis, ?_, (walk_eq_ok.mp hdir).1⟩
    intro ms hne hms
    exact absurd (List.prefix_nil.mp hms) hne

/-- Further down, it shows what the tree of a directory in it shows with one level less. -/
theorem shownAt_cons :
    ShownAt fs depth q loc (m :: front) n o ↔
      ∃ d, depth = d + 1 ∧ fs.object? (loc ++ [m]) = some .directory ∧ ¬ HiddenName m
        ∧ ShownAt fs d (q.entry m) (loc ++ [m]) front n o := by
  constructor
  · rintro ⟨hthere, hlevel, hvis, hentered, hpass⟩
    rw [List.length_cons] at hlevel
    obtain ⟨d, rfl⟩ : ∃ d, depth = d + 1 := ⟨depth - 1, by omega⟩
    refine ⟨d, rfl, hentered [m] (by simp) (by simp), hvis m (by simp), by simpa using hthere,
      by omega, fun k hk => hvis k (List.mem_cons_of_mem _ hk), fun ms _ hms => ?_, hpass⟩
    simpa using hentered (m :: ms) (by simp) (List.cons_prefix_cons.mpr ⟨rfl, hms⟩)
  · rintro ⟨d, rfl, ho, hm, hthere, hlevel, hvis, hentered, hpass⟩
    refine ⟨by simpa using hthere, by simpa using hlevel, fun k hk => ?_, fun ms hne hms => ?_,
      hpass⟩
    · rcases List.mem_cons.mp hk with rfl | hk
      · exact hm
      · exact hvis k hk
    · rcases List.prefix_cons_iff.mp hms with rfl | ⟨rest, rfl, hrest⟩
      · exact absurd rfl hne
      · cases rest with
        | nil => exact ho
        | cons k rest => simpa using hentered (k :: rest) (by simp) hrest

/-- What a tree is shown of is a directory. -/
theorem walk_of_treeOf (h : treeOf fs cwd depth q = .ok nodes) :
    ∃ loc, fs.walk cwd true q = .ok (.found loc .directory) := by
  rw [treeOf_eq] at h
  obtain ⟨es, hes, -⟩ := map_eq_ok.mp h
  obtain ⟨loc, hdir, -⟩ := visibleOf_perm hes
  exact ⟨loc, hdir⟩

theorem shownBelow_directory (fs : FileSystem) (cwd : Location) (depth : Nat) (q : Path) (n : Name) :
    shownBelow fs cwd (depth + 1) (entryOf q n .directory)
      = (treeOf fs cwd depth (q.entry n)).toOption.getD [] := rfl

/-- What is below an entry of the directory: nothing, unless it is a directory itself and can be
read. -/
theorem shownBelow_cases (depth : Nat)
    (hdir : fs.walk cwd true q = .ok (.found loc .directory))
    (ho : fs.object? (loc ++ [n]) = some o) (hn : IsName n) :
    shownBelow fs cwd depth (entryOf q n o) = []
      ∨ ∃ d nodes, depth = d + 1 ∧ o = .directory
        ∧ fs.walk cwd true (q.entry n) = .ok (.found (loc ++ [n]) .directory)
        ∧ treeOf fs cwd d (q.entry n) = .ok nodes
        ∧ shownBelow fs cwd depth (entryOf q n o) = nodes := by
  cases depth with
  | zero => exact .inl rfl
  | succ d =>
    by_cases hd : o = .directory
    · subst hd
      rw [shownBelow_directory]
      cases htree : treeOf fs cwd d (q.entry n) with
      | error e => exact .inl rfl
      | ok nodes =>
        obtain ⟨_, hread⟩ := walk_of_treeOf htree
        exact .inr ⟨d, nodes, rfl, rfl, walk_entry hn hdir ho (by simp) hread, htree, rfl⟩
    · left
      have hno : (entryOf q n o).isDirectory ≠ true :=
        fun h => hd (Object.isDirectory_eq_true.mp h)
      rw [shownBelow, if_neg hno]

/-- A directory is read for a tree by any path that the system takes. -/
theorem exists_treeOf (hf : fs.WellFormed) (hdir : fs.walk cwd true q = .ok (.found loc .directory))
    (ho : fs.object? (loc ++ [n]) = some .directory)
    (hpass : passable (q.entry n) = .ok ()) (depth : Nat) :
    fs.walk cwd true (q.entry n) = .ok (.found (loc ++ [n]) .directory)
      ∧ ∃ nodes, treeOf fs cwd depth (q.entry n) = .ok nodes := by
  obtain ⟨hn, hl⟩ := name_of_object? hf ho
  have hwalk : fs.walk cwd true (q.entry n) = .ok (.found (loc ++ [n]) .directory) := by
    rw [walk_entry_eq hn hl hdir hpass (.inr fun t => by simp [ho]), spotAt, ho]
  obtain ⟨es, hes⟩ := exists_visibleOf hwalk
  exact ⟨hwalk, _, by rw [treeOf_eq, hes]; rfl⟩

/-- The path of a directory on the way is no longer than that of what is below it. -/
theorem ShownAt.passable_entry (hf : fs.WellFormed) (hm : IsName m)
    (h : ShownAt fs depth (q.entry m) loc front n o) : FileSystem.passable (q.entry m) = .ok () := by
  have hnames := names_of_object? hf h.there
  refine passable_of_prefix (bytes_prefix_below _ fun k hk => ?_) (bytes_entry_ne_nil q hm)
    h.passable
  exact (hnames k (List.mem_append_left _ hk)).1

/-- **The entries of a tree** are those that it shows at some names. -/
theorem mem_entriesIn (hf : fs.WellFormed)
    (hdir : fs.walk cwd true q = .ok (.found loc .directory))
    (h : treeOf fs cwd depth q = .ok nodes) :
    e ∈ entriesIn nodes
      ↔ ∃ front n o, ShownAt fs depth q loc front n o ∧ e = entryOf (q.below front) n o := by
  induction depth using Nat.strongRecOn generalizing q loc nodes with
  | ind depth ih =>
    rw [treeOf_eq] at h
    obtain ⟨es, hes, rfl⟩ := map_eq_ok.mp h
    rw [entriesIn_map, List.mem_flatMap]
    constructor
    · rintro ⟨d, hd, he⟩
      obtain ⟨m, o, ho, hvis, rfl⟩ := (mem_visibleOf hf hdir hes).mp hd
      rcases List.mem_cons.mp he with rfl | he
      · exact ⟨[], m, o, (shownAt_nil hdir).mpr ⟨ho, hvis⟩, rfl⟩
      · rcases shownBelow_cases depth hdir ho (name_of_object? hf ho).1 with
          hnone | ⟨d, nodes, rfl, rfl, hwalk, htree, hbelow⟩
        · rw [hnone] at he
          exact absurd he (by simp [entriesIn])
        · rw [hbelow, ih d (Nat.lt_succ_self d) hwalk htree] at he
          obtain ⟨front, n, o, hshown, rfl⟩ := he
          exact ⟨m :: front, n, o, shownAt_cons.mpr ⟨d, rfl, ho, hvis, hshown⟩, rfl⟩
    · rintro ⟨front, n, o, hshown, rfl⟩
      cases front with
      | nil =>
        obtain ⟨ho, hvis⟩ := (shownAt_nil hdir).mp hshown
        exact ⟨_, (mem_visibleOf hf hdir hes).mpr ⟨n, o, ho, hvis, rfl⟩, List.mem_cons_self⟩
      | cons m front =>
        obtain ⟨d, rfl, ho, hvis, hshown⟩ := shownAt_cons.mp hshown
        have hpass := hshown.passable_entry hf (name_of_object? hf ho).1
        obtain ⟨hwalk, nodes, htree⟩ := exists_treeOf hf hdir ho hpass d
        refine ⟨_, (mem_visibleOf hf hdir hes).mpr ⟨m, .directory, ho, hvis, rfl⟩,
          List.mem_cons_of_mem _ ?_⟩
        rw [shownBelow_directory, htree]
        exact (ih d (Nat.lt_succ_self d) hwalk htree).mpr ⟨front, n, o, hshown, rfl⟩

/-! ## 3. Each node once -/

/-- What is shown below an entry of the directory has a path through its name. -/
theorem path_of_mem (hf : fs.WellFormed) (hdir : fs.walk cwd true q = .ok (.found loc .directory))
    (ho : fs.object? (loc ++ [m]) = some o)
    (he : e ∈ entriesIn (shownBelow fs cwd depth (entryOf q m o))) :
    ∃ ns, ns ≠ [] ∧ (∀ n ∈ m :: ns, IsName n) ∧ e.path = q.below (m :: ns) := by
  have hm := (name_of_object? hf ho).1
  rcases shownBelow_cases depth hdir ho hm with
    hnone | ⟨d, nodes, -, -, hwalk, htree, hbelow⟩
  · rw [hnone] at he
    exact absurd he (by simp [entriesIn])
  · rw [hbelow] at he
    obtain ⟨front, n, o', hshown, rfl⟩ := (mem_entriesIn hf hwalk htree).mp he
    refine ⟨front ++ [n], by simp, fun k hk => ?_, ?_⟩
    · rcases List.mem_cons.mp hk with rfl | hk
      · exact hm
      · exact (names_of_object? hf hshown.there k hk).1
    · rw [below_cons, below_concat]
      rfl

/-- Different entries of a directory have nothing below them in common. -/
theorem disjoint_paths (hf : fs.WellFormed)
    (hdir : fs.walk cwd true q = .ok (.found loc .directory))
    (ho : fs.object? (loc ++ [n]) = some o) {o' : Object}
    (ho' : fs.object? (loc ++ [m]) = some o') (hne : n ≠ m) :
    List.Disjoint
      ((entryOf q n o :: entriesIn (shownBelow fs cwd depth (entryOf q n o))).map Entry.path)
      ((entryOf q m o' :: entriesIn (shownBelow fs cwd depth (entryOf q m o'))).map Entry.path) := by
  have through {k : Name} {u : Object} {x : Path} (hu : fs.object? (loc ++ [k]) = some u)
      (hx : x ∈ (entryOf q k u
        :: entriesIn (shownBelow fs cwd depth (entryOf q k u))).map Entry.path) :
      ∃ ns, (∀ n ∈ k :: ns, IsName n) ∧ x = q.below (k :: ns) := by
    obtain ⟨e, he, rfl⟩ := List.mem_map.mp hx
    rcases List.mem_cons.mp he with rfl | he
    · exact ⟨[], by simpa using (name_of_object? hf hu).1, rfl⟩
    · obtain ⟨ns, -, hns, hpath⟩ := path_of_mem hf hdir hu he
      exact ⟨ns, hns, hpath⟩
  intro x hx hx'
  obtain ⟨ns, hns, rfl⟩ := through ho hx
  obtain ⟨ms, hms, he⟩ := through ho' hx'
  exact hne (List.cons.inj (below_inj hns hms he)).1

/-- **No two nodes have the same path.**  Two nodes of one directory have different names, and two
of different directories different paths to these. -/
theorem nodup_paths (hf : fs.WellFormed) (hdir : fs.walk cwd true q = .ok (.found loc .directory))
    (h : treeOf fs cwd depth q = .ok nodes) : ((entriesIn nodes).map Entry.path).Nodup := by
  induction depth using Nat.strongRecOn generalizing q loc nodes with
  | ind depth ih =>
    rw [treeOf_eq] at h
    obtain ⟨es, hes, rfl⟩ := map_eq_ok.mp h
    rw [entriesIn_map, List.map_flatMap, List.nodup_flatMap]
    constructor
    · intro d hd
      obtain ⟨m, o, ho, -, rfl⟩ := (mem_visibleOf hf hdir hes).mp hd
      rw [List.map_cons, List.nodup_cons]
      constructor
      · intro hmem
        obtain ⟨e, he, hpath⟩ := List.mem_map.mp hmem
        obtain ⟨ns, hne, hnames, hbelow⟩ := path_of_mem hf hdir ho he
        have hself : q.below [m] = q.below (m :: ns) := hpath.symm.trans hbelow
        have hns := below_inj (by simpa using hnames m List.mem_cons_self) hnames hself
        exact hne (List.cons.inj hns).2.symm
      · rcases shownBelow_cases depth hdir ho (name_of_object? hf ho).1 with
          hnone | ⟨d, nodes, rfl, -, hwalk, htree, hbelow⟩
        · rw [hnone]
          exact List.nodup_nil
        · rw [hbelow]
          exact ih d (Nat.lt_succ_self d) hwalk htree
    · refine (List.pairwise_map.mp (nodup_visibleOf hf hes)).imp_of_mem fun hd hd' hne => ?_
      obtain ⟨n, o, ho, -, rfl⟩ := (mem_visibleOf hf hdir hes).mp hd
      obtain ⟨m, o', ho', -, rfl⟩ := (mem_visibleOf hf hdir hes).mp hd'
      refine disjoint_paths hf hdir ho ho' ?_
      rintro rfl
      exact hne rfl

/-- There are no more nodes than entries on the disk. -/
theorem length_entriesIn_le (hf : fs.WellFormed)
    (hdir : fs.walk cwd true q = .ok (.found loc .directory))
    (h : treeOf fs cwd depth q = .ok nodes) : (entriesIn nodes).length ≤ fs.entries.length := by
  have hsub : (entriesIn nodes).map Entry.path
      ⊆ fs.entries.map fun e => q.below (e.1.drop loc.length) := by
    intro x hx
    obtain ⟨e, he, rfl⟩ := List.mem_map.mp hx
    obtain ⟨front, n, o, hshown, rfl⟩ := (mem_entriesIn hf hdir h).mp he
    refine List.mem_map.mpr ⟨_, mem_of_object? (by simp) hshown.there, ?_⟩
    rw [List.append_assoc, List.drop_left, below_concat]
    rfl
  simpa using ((nodup_paths hf hdir h).subperm hsub).length_le

/-! ## 4. What bounds a tree -/

/-- The directories that are read for a tree, in their order. -/
def readFor (fs : FileSystem) (cwd : Location) : Nat → Path → List Path
  | 0, dir => [dir]
  | depth + 1, dir => dir :: ((visibleOf fs cwd dir).toOption.getD []).flatMap fun e =>
    if e.isDirectory then readFor fs cwd depth e.path else []

/-- Besides the top, the directories that are read are nodes of the tree, each read once. -/
theorem readFor_sublist (fs : FileSystem) (cwd : Location) (depth : Nat) (q : Path) :
    (readFor fs cwd depth q).Sublist (q :: ((entriesIn ((treeOf fs cwd depth q).toOption.getD
      [])).filter (·.isDirectory)).map Entry.path) := by
  induction depth generalizing q with
  | zero => exact (List.nil_sublist _).cons_cons q
  | succ depth ih =>
    rw [readFor, treeOf_eq]
    refine List.Sublist.cons_cons q ?_
    cases hes : visibleOf fs cwd q with
    | error e => exact List.nil_sublist _
    | ok es =>
      have htree : ((Except.ok es : Except Error _).map (List.map fun e =>
          TreeNode.node e (shownBelow fs cwd (depth + 1) e))).toOption.getD []
            = es.map fun e => .node e (shownBelow fs cwd (depth + 1) e) := rfl
      rw [htree, entriesIn_map, List.filter_flatMap, List.map_flatMap]
      refine List.Sublist.flatMap_right es fun e _ => ?_
      by_cases hd : e.isDirectory = true
      · rw [if_pos hd, List.filter_cons_of_pos hd, List.map_cons, shownBelow, if_pos hd]
        exact ih e.path
      · rw [if_neg hd]
        exact List.nil_sublist _

/-- One level more shows nothing more, if there are no entries that deep. -/
theorem treeOf_succ (hf : fs.WellFormed)
    (hdepth : ∀ loc, fs.walk cwd true q = .ok (.found loc .directory) →
      fs.entries.length ≤ loc.length + depth) :
    treeOf fs cwd (depth + 1) q = treeOf fs cwd depth q := by
  induction depth generalizing q with
  | zero =>
    rw [treeOf_eq, treeOf_eq]
    cases hes : visibleOf fs cwd q with
    | error e => rfl
    | ok es =>
      obtain ⟨loc, hdir, -⟩ := visibleOf_perm hes
      have hnone : es = [] := by
        refine List.eq_nil_iff_forall_not_mem.mpr fun e he => ?_
        obtain ⟨m, o, ho, -, -⟩ := (mem_visibleOf hf hdir hes).mp he
        have hlen := hf.length_le ho
        have hle := hdepth loc hdir
        rw [List.length_append, List.length_singleton] at hlen
        omega
      rw [hnone]
      rfl
  | succ depth ih =>
    rw [treeOf_eq, treeOf_eq]
    cases hes : visibleOf fs cwd q with
    | error e => rfl
    | ok es =>
      obtain ⟨loc, hdir, -⟩ := visibleOf_perm hes
      refine congrArg Except.ok (List.map_congr_left fun e he => congrArg (TreeNode.node e) ?_)
      obtain ⟨m, o, ho, -, rfl⟩ := (mem_visibleOf hf hdir hes).mp he
      rw [shownBelow, shownBelow]
      by_cases hd : (entryOf q m o).isDirectory = true
      · obtain rfl := Object.isDirectory_eq_true.mp hd
        rw [if_pos hd, if_pos hd, ih]
        intro loc' hdir'
        have hsame : fs.walk cwd true (q.entry m) = .ok (.found (loc ++ [m]) .directory) :=
          walk_entry (name_of_object? hf ho).1 hdir ho (by simp) hdir'
        obtain ⟨rfl, -⟩ := Spot.found.inj (Except.ok.inj (hdir'.symm.trans hsame))
        have hle := hdepth loc hdir
        rw [List.length_append, List.length_singleton]
        omega
      · rw [if_neg hd, if_neg hd]

/-- **More depth than there are entries on the disk shows nothing more.**  A tree that is deeper
would need a chain of directories longer than that, and no directory is below itself. -/
theorem treeOf_of_le (hf : fs.WellFormed) (h : fs.entries.length ≤ depth) (q : Path) :
    treeOf fs cwd depth q = treeOf fs cwd fs.entries.length q := by
  induction depth, h using Nat.le_induction with
  | base => rfl
  | succ depth h ih =>
    rw [← ih]
    exact treeOf_succ hf fun loc _ => h.trans (Nat.le_add_left depth loc.length)

/-- No directory is read twice for a tree, and there are not many. -/
theorem nodup_readFor (hf : fs.WellFormed) (depth : Nat) (q : Path) :
    (readFor fs cwd depth q).Nodup
      ∧ (readFor fs cwd depth q).length ≤ fs.entries.length + 1 := by
  have hsub := readFor_sublist fs cwd depth q
  cases htree : treeOf fs cwd depth q with
  | error e =>
    rw [htree] at hsub
    have hone : (readFor fs cwd depth q).Sublist [q] := hsub
    have hle := hone.length_le
    rw [List.length_singleton] at hle
    exact ⟨(List.nodup_singleton q).sublist hone, by omega⟩
  | ok nodes =>
    rw [htree] at hsub
    obtain ⟨loc, hdir⟩ := walk_of_treeOf htree
    have hpaths : (((entriesIn nodes).filter (·.isDirectory)).map Entry.path).Nodup :=
      (nodup_paths hf hdir htree).sublist (List.filter_sublist.map _)
    have hle := length_entriesIn_le hf hdir htree
    have htop : q ∉ ((entriesIn nodes).filter (·.isDirectory)).map Entry.path := by
      intro hmem
      obtain ⟨e, he, hpath⟩ := List.mem_map.mp hmem
      obtain ⟨front, n, o, hshown, rfl⟩ :=
        (mem_entriesIn hf hdir htree).mp (List.mem_filter.mp he).1
      have hnames := names_of_object? hf hshown.there
      have hself : q.below (front ++ [n]) = q.below [] := (below_concat q front n).trans hpath
      exact absurd (below_inj (fun k hk => (hnames k hk).1) (by simp) hself) (by simp)
    refine ⟨(List.nodup_cons.mpr ⟨htop, hpaths⟩).sublist hsub, hsub.length_le.trans ?_⟩
    have hfilter := List.length_filter_le (·.isDirectory) (entriesIn nodes)
    simp only [Except.toOption, Option.getD_some, List.length_cons, List.length_map]
    omega

/-- **A tree shows each entry once, and enters no link.**  It is the same for every depth beyond the
number of entries on the disk, and reads no directory twice for it: the top and nodes of its own
that are directories.  Its nodes have different paths.  They are the entries at the names that lead
through directories from the top, each of them at its own place, and there are no more of them than
there are entries on the disk. -/
theorem tree_shows_each_once (hf : fs.WellFormed) (w : Workspace) (p : Path) (depth : Nat) :
    (fs.entries.length ≤ depth → w.tree fs cwd p depth = w.tree fs cwd p fs.entries.length)
      ∧ ∀ q, w.resolve fs cwd p = .ok q →
        ((readFor fs cwd depth q).Nodup
          ∧ (readFor fs cwd depth q).length ≤ fs.entries.length + 1)
        ∧ ∀ nodes, w.tree fs cwd p depth = .ok nodes →
          (∀ d ∈ readFor fs cwd depth q, d = q
            ∨ ∃ e ∈ entriesIn nodes, e.isDirectory = true ∧ e.path = d)
          ∧ ((entriesIn nodes).map Entry.path).Nodup
          ∧ (entriesIn nodes).length ≤ fs.entries.length
          ∧ ∃ loc, fs.walk cwd true q = .ok (.found loc .directory)
            ∧ ∀ e, e ∈ entriesIn nodes ↔ ∃ front n o, ShownAt fs depth q loc front n o
              ∧ e = entryOf (q.below front) n o := by
  have htree {q : Path} (hq : w.resolve fs cwd p = .ok q) (d : Nat) :
      w.tree fs cwd p d = treeOf fs cwd d q := by
    rw [tree, hq]
    rfl
  refine ⟨fun h => ?_, fun q hq => ⟨nodup_readFor hf depth q, fun nodes hnodes => ?_⟩⟩
  · cases hq : w.resolve fs cwd p with
    | error refusal => rw [tree, tree, hq]; rfl
    | ok q => rw [htree hq, htree hq, treeOf_of_le hf h]
  · rw [htree hq] at hnodes
    obtain ⟨loc, hdir⟩ := walk_of_treeOf hnodes
    refine ⟨fun d hd => ?_, nodup_paths hf hdir hnodes, length_entriesIn_le hf hdir hnodes, loc, hdir,
      fun e => mem_entriesIn hf hdir hnodes⟩
    have hsub := (readFor_sublist fs cwd depth q).subset hd
    rw [hnodes] at hsub
    rcases List.mem_cons.mp hsub with rfl | hmem
    · exact .inl rfl
    · obtain ⟨e, he, rfl⟩ := List.mem_map.mp hmem
      obtain ⟨he, hisdir⟩ := List.mem_filter.mp he
      exact .inr ⟨e, he, hisdir, rfl⟩

/-- A disk with a workspace `r`, in which links lead to it from inside, and to each other. -/
def cyclicDisk : FileSystem :=
  ⟨[([[0x72]], .directory), ([[0x72], [0x6C]], .link (.ofString ".")),
    ([[0x72], [0x73]], .directory), ([[0x72], [0x73], [0x75]], .link (.ofString "..")),
    ([[0x72], [0x78]], .link (.ofString "y")), ([[0x72], [0x79]], .link (.ofString "x"))]⟩

theorem cyclicDisk_wellFormed : cyclicDisk.WellFormed where
  once := by decide
  ne_root := by decide
  names := by decide
  parents := by decide

/-- A tree of the largest depth lists the links of a disk with cycles, and enters none of them. -/
theorem cycles_listed_once :
    tree (confinedTo [] (.ofString "r")) cyclicDisk [] (.ofString ".") (2 ^ 64 - 1)
        = .ok [.node ⟨"s", .ofString "/r/s", true⟩ [.node ⟨"u", .ofString "/r/s/u", false⟩ []],
          .node ⟨"l", .ofString "/r/l", false⟩ [], .node ⟨"x", .ofString "/r/x", false⟩ [],
          .node ⟨"y", .ofString "/r/y", false⟩ []]
      ∧ (readFor cyclicDisk [] (2 ^ 64 - 1) (.ofString "/r")).Nodup := by
  obtain ⟨hstable, hread⟩ := tree_shows_each_once cyclicDisk_wellFormed
    (confinedTo [] (.ofString "r")) (.ofString ".") (2 ^ 64 - 1)
  have hq : resolve (confinedTo [] (.ofString "r")) cyclicDisk [] (.ofString ".")
      = .ok (.ofString "/r") := by
    cbv
  refine ⟨(hstable (by decide)).trans ?_, (hread _ hq).1.1⟩
  cbv

end Scriptorium.Workspace
