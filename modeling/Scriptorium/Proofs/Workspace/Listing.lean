import Scriptorium.Proofs.Workspace.Nodes

/-!
# Lists of one order

The system hands out the entries of a directory in whatever order it likes.  A list of them is in
one order nevertheless: directories first, then by the name in small letters, then by the name
itself (`Entry.Precedes`).  The order tells apart any two entries that show different names
(`Entry.order_eq_eq`), although small letters alone do not, and so a list whose names are different
is settled by which entries are in it (`Entry.sort_eq_of_perm`).

A file system is a list of entries too.  Nothing that is looked up in it depends on their order, as
long as none is there twice (`object?_of_perm`), and so no walk does and no check of a path
(`resolve_congr`); what a directory holds comes in another order, and that is all
(`children_perm`).
-/
namespace Scriptorium

/-! ## 1. Comparing entries -/

namespace Workspace.Entry

open Std

variable {a b : Entry} {es es' : List Entry}

/-- Texts are compared letter by letter. -/
theorem compare_chars {cs ds : List Char} : compare cs ds = .lt ↔ cs < ds := by
  induction cs generalizing ds with
  | nil => cases ds <;> simp
  | cons c cs ih =>
    cases ds with
    | nil => simp
    | cons d ds =>
      have hletter : compare c d = .lt ↔ c < d := compareOfLessAndEq_eq_lt
      rw [List.compare_cons_cons, Ordering.then_eq_lt, List.cons_lt_cons_iff, ih, hletter,
        LawfulEqOrd.compare_eq_iff_eq]

/-- One entry stands before another: directories before all else, then by the names in small
letters, then by the names themselves. -/
def Precedes (a b : Entry) : Prop :=
  a.isDirectory = true ∧ b.isDirectory = false
    ∨ a.isDirectory = b.isDirectory
      ∧ (Text.lowercase a.name.toList < Text.lowercase b.name.toList
        ∨ Text.lowercase a.name.toList = Text.lowercase b.name.toList
          ∧ a.name.toList < b.name.toList)

theorem order_eq_lt : order a b = .lt ↔ a.Precedes b := by
  have hflags : ∀ x y : Bool, (compare y x = .lt ↔ x = true ∧ y = false)
      ∧ (compare y x = .eq ↔ x = y) := by decide
  rw [order, Ordering.then_eq_lt, Ordering.then_eq_lt, (hflags _ _).1, (hflags _ _).2,
    LawfulEqOrd.compare_eq_iff_eq, compare_chars, compare_chars]
  exact Iff.rfl

theorem order_eq_gt : order a b = .gt ↔ b.Precedes a := by
  have hswap : order b a = (order a b).swap := OrientedCmp.eq_swap
  rw [← order_eq_lt, hswap, Ordering.swap_eq_lt]

/-- **Only entries of one name are not told apart.**  Names that differ only in their case are put
in order by the names themselves. -/
theorem order_eq_eq : order a b = .eq ↔ a.isDirectory = b.isDirectory ∧ a.name = b.name := by
  have hflags : ∀ x y : Bool, compare y x = .eq ↔ x = y := by decide
  rw [order, Ordering.then_eq_eq, Ordering.then_eq_eq, hflags, LawfulEqOrd.compare_eq_iff_eq,
    LawfulEqOrd.compare_eq_iff_eq, String.toList_inj]
  constructor
  · rintro ⟨hdir, -, hname⟩
    exact ⟨hdir, hname⟩
  · rintro ⟨hdir, hname⟩
    exact ⟨hdir, by rw [hname], hname⟩

theorem Precedes.asymm (h : a.Precedes b) : ¬ b.Precedes a := by
  intro h'
  have hlt := order_eq_lt.mpr h
  rw [order_eq_gt.mpr h'] at hlt
  exact absurd hlt (by simp)

/-- Of entries with different names, one stands before the other. -/
theorem precedes_of_isLE (h : (order a b).isLE = true) (hne : a.name ≠ b.name) : a.Precedes b := by
  cases ho : order a b with
  | lt => exact order_eq_lt.mp ho
  | eq => exact absurd (order_eq_eq.mp ho).2 hne
  | gt =>
    rw [ho] at h
    exact absurd h (by simp)

/-- Entries that may both stand before the other have one name. -/
theorem name_eq_of_isLE (h : (order a b).isLE = true) (h' : (order b a).isLE = true) :
    a.name = b.name := by
  by_contra hne
  exact (precedes_of_isLE h hne).asymm (precedes_of_isLE h' (Ne.symm hne))

/-- **A list of different names is in strictly ascending order.** -/
theorem sort_ascends (hnames : (es.map name).Nodup) : (sort es).Pairwise Precedes := by
  have hperm : (sort es).Perm es := List.mergeSort_perm _ _
  have hsorted : (sort es).Pairwise fun a b => (order a b).isLE = true :=
    List.pairwise_mergeSort order_trans order_total es
  have hdistinct : ((sort es).map name).Nodup := (hperm.map name).nodup_iff.mpr hnames
  refine (hsorted.and (List.pairwise_map.mp hdistinct)).imp ?_
  rintro a b ⟨hle, hne⟩
  exact precedes_of_isLE hle hne

/-- **There is one such order.**  So it does not matter in which order the disk gives its entries.
-/
theorem sort_eq_of_perm (hperm : es'.Perm es) (hnames : (es.map name).Nodup) :
    sort es' = sort es := by
  have hnames' : (es'.map name).Nodup := (hperm.map name).nodup_iff.mpr hnames
  have hsorts : (sort es').Perm (sort es) :=
    (List.mergeSort_perm _ _).trans (hperm.trans (List.mergeSort_perm _ _).symm)
  refine List.Perm.eq_of_pairwise ?_ (sort_ascends hnames') (sort_ascends hnames) hsorts
  intro a b _ _ hab hba
  exact absurd hba hab.asymm

end Workspace.Entry

/-! ## 2. Disks that hold the same -/

namespace FileSystem

variable {fs fs' : FileSystem} {cwd loc : Location} {p : Path}

/-- **What is found at a place does not depend on the order of the entries.** -/
theorem object?_of_perm (hf : fs.WellFormed) (hperm : fs'.entries.Perm fs.entries)
    (loc : Location) : fs'.object? loc = fs.object? loc := by
  by_cases hl : loc = []
  · rw [hl, object?_nil, object?_nil]
  · refine Option.ext fun o => ?_
    constructor
    · intro ho
      exact hf.object?_of_mem (hperm.mem_iff.mp (mem_of_object? hl ho))
    · intro ho
      have hm : (loc, o) ∈ fs'.entries := hperm.mem_iff.mpr (mem_of_object? hl ho)
      rw [object?, if_neg hl]
      exact lookup_of_mem ((hperm.map Prod.fst).nodup_iff.mpr hf.once) hm

theorem children_perm (hperm : fs'.entries.Perm fs.entries) (dir : Location) :
    (fs'.children dir).Perm (fs.children dir) :=
  hperm.filterMap _

section Same

variable (h : ∀ loc, fs'.object? loc = fs.object? loc)

include h

/-- Two disks with the same object at every place are walked in the same way. -/
theorem walkFrom_congr (follow : Bool) (links : Nat) (loc : Location) (steps : List Step) :
    walkFrom fs' follow links loc steps = walkFrom fs follow links loc steps := by
  fun_induction walkFrom fs follow links loc steps with
  | case13 loc n rest hshort t ho hentered =>
    rw [walkFrom, if_neg hshort, h, ho]
    simp only [if_neg hentered]
  | case14 loc n rest hshort t ho hentered more ih =>
    rw [walkFrom, if_neg hshort, h, ho]
    simp only [if_neg hentered]
    exact ih
  | _ => simp_all [walkFrom]

theorem walk_congr (follow : Bool) (p : Path) : fs'.walk cwd follow p = fs.walk cwd follow p := by
  simp only [walk, walkFrom_congr h]

theorem find_congr (follow : Bool) (p : Path) : fs'.find cwd follow p = fs.find cwd follow p := by
  simp only [find, walk_congr h]

theorem canonicalize_congr (p : Path) : fs'.canonicalize cwd p = fs.canonicalize cwd p := by
  simp only [canonicalize, walkFrom_congr h]

theorem readLink?_congr (p : Path) : fs'.readLink? cwd p = fs.readLink? cwd p := by
  simp only [readLink?, find_congr h]

end Same
end FileSystem

namespace Workspace

open FileSystem

variable {w : Workspace} {fs fs' : FileSystem} {cwd loc : Location} {p q : Path}

/-- What a path stands for depends only on what is found where. -/
theorem resolve_congr (h : ∀ loc, fs'.object? loc = fs.object? loc) (w : Workspace) (p : Path) :
    w.resolve fs' cwd p = w.resolve fs cwd p := by
  have hrev : ∀ cs, physicalRev fs' cwd cs = physicalRev fs cwd cs := by
    intro cs
    induction cs with
    | nil => simp only [physicalRev, canonicalize_congr h]
    | cons c cs ih => simp only [physicalRev, canonicalize_congr h, readLink?_congr h, ih]
  have hphysical : ∀ q, physical fs' cwd q = physical fs cwd q := fun q => hrev _
  have hroot : ∀ root, physicalRoot fs' cwd root = physicalRoot fs cwd root := by
    intro root
    rw [physicalRoot, physicalRoot, canonicalize_congr h]
  unfold resolve
  simp only [hphysical, hroot]

/-! ## 3. Lists -/

/-- The entries of a directory, in the order in which the disk has them. -/
theorem entriesOf_of_walk (hdir : fs.walk cwd true q = .ok (.found loc .directory)) :
    entriesOf fs cwd q = .ok ((fs.children loc).map fun c => entryOf q c.1 c.2) := by
  have hread : fs.readDirectory cwd q = .ok (fs.children loc) := by
    rw [readDirectory, find_eq_ok.mpr hdir]
    rfl
  rw [entriesOf, hread]
  rfl

theorem list_of_walk (hq : w.resolve fs cwd p = .ok q)
    (hdir : fs.walk cwd true q = .ok (.found loc .directory)) :
    w.list fs cwd p = .ok (Entry.sort ((fs.children loc).map fun c => entryOf q c.1 c.2)) := by
  rw [list_eq hq, entriesOf_of_walk hdir]
  rfl

/-- The names of what is at a place, as they are shown. -/
def shownNames (fs : FileSystem) (loc : Location) : List String :=
  (fs.children loc).map fun c => Text.Utf8.lossyString c.1

/-- **Entries have one order, and a list of different names is the same however the disk hands them
out.**  The order puts directories before all else, then goes by the names in small letters and then
by the names themselves; it is a total preorder, in which two entries that may both stand before the
other have one name.  A directory in which no two names look alike has a list: it shows all entries
and nothing else, in strictly ascending order, and it is the same on every disk that holds the same
in another order. -/
theorem lists_in_one_order :
    (∀ a b : Entry, (a.order b = .lt ↔ a.Precedes b) ∧ (a.order b = .gt ↔ b.Precedes a)
        ∧ (a.order b = .eq ↔ a.isDirectory = b.isDirectory ∧ a.name = b.name))
      ∧ (∀ a b c : Entry, (a.order b).isLE → (b.order c).isLE → (a.order c).isLE)
      ∧ (∀ a b : Entry, (a.order b).isLE ∨ (b.order a).isLE)
      ∧ (∀ a b : Entry, (a.order b).isLE → (b.order a).isLE → a.name = b.name)
      ∧ ∀ (w : Workspace) (fs : FileSystem) (cwd loc : Location) (p q : Path), fs.WellFormed →
        w.resolve fs cwd p = .ok q → fs.walk cwd true q = .ok (.found loc .directory) →
        (shownNames fs loc).Nodup →
        ∃ es, w.list fs cwd p = .ok es
          ∧ es.Perm ((fs.children loc).map fun c => entryOf q c.1 c.2)
          ∧ es.Pairwise Entry.Precedes
          ∧ ∀ fs' : FileSystem, fs'.entries.Perm fs.entries → w.list fs' cwd p = .ok es := by
  refine ⟨fun a b => ⟨Entry.order_eq_lt, Entry.order_eq_gt, Entry.order_eq_eq⟩, Entry.order_trans,
    fun a b => by simpa using Entry.order_total a b, fun a b => Entry.name_eq_of_isLE, ?_⟩
  intro w fs cwd loc p q hf hq hdir hshown
  have hnames : (((fs.children loc).map fun c => entryOf q c.1 c.2).map Entry.name).Nodup := by
    rw [List.map_map]
    exact hshown
  refine ⟨_, list_of_walk hq hdir, List.mergeSort_perm _ _, Entry.sort_ascends hnames, ?_⟩
  intro fs' hperm
  have hsame := object?_of_perm hf hperm
  have hq' : w.resolve fs' cwd p = .ok q := (resolve_congr hsame w p).trans hq
  have hdir' : fs'.walk cwd true q = .ok (.found loc .directory) :=
    (walk_congr hsame true q).trans hdir
  rw [list_of_walk hq' hdir', Entry.sort_eq_of_perm ((children_perm hperm loc).map _) hnames]

/-- A disk with a directory `r`, in which two names are told apart by nothing but a capital, and a
directory stands beside them. -/
def capitalDisk : FileSystem :=
  ⟨[([[0x72]], .directory), ([[0x72], [0x62]], .file [] false), ([[0x72], [0x61]], .file [] false),
    ([[0x72], [0x42]], .file [] false), ([[0x72], [0x7A]], .directory)]⟩

theorem capitalDisk_wellFormed : capitalDisk.WellFormed where
  once := by decide
  ne_root := by decide
  names := by decide
  parents := by decide

/-- The directory is first, and the capital comes before the small letter, also on the disk with
everything the other way round. -/
theorem capital_before_small :
    list (confinedTo [] (.ofString "r")) ⟨capitalDisk.entries.reverse⟩ [] (.ofString ".")
      = .ok [⟨"z", .ofString "/r/z", true⟩, ⟨"a", .ofString "/r/a", false⟩,
        ⟨"B", .ofString "/r/B", false⟩, ⟨"b", .ofString "/r/b", false⟩] := by
  have hq : resolve (confinedTo [] (.ofString "r")) capitalDisk [] (.ofString ".")
      = .ok (.ofString "/r") := by
    cbv
  have hdir : capitalDisk.walk [] true (.ofString "/r") = .ok (.found [[0x72]] .directory) := by
    cbv
  have hlist : list (confinedTo [] (.ofString "r")) capitalDisk [] (.ofString ".")
      = .ok [⟨"z", .ofString "/r/z", true⟩, ⟨"a", .ofString "/r/a", false⟩,
        ⟨"B", .ofString "/r/B", false⟩, ⟨"b", .ofString "/r/b", false⟩] := by
    cbv
  obtain ⟨es, hes, -, -, hsame⟩ := lists_in_one_order.2.2.2.2 _ _ _ _ _ _ capitalDisk_wellFormed hq
    hdir (by decide +kernel)
  rw [← hlist, hes]
  exact hsame _ (List.reverse_perm _)

end Workspace
end Scriptorium
