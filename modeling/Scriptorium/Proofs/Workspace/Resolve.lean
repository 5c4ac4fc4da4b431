import Scriptorium.Proofs.FileSystem.Walk
import Scriptorium.Workspace.Resolve

/-!
# A resolved path stays inside

`resolve` judges a path by two means, the text and the place that `physical` tells.  The place is
the one that a walk ends at, whenever there is such a walk (`physical_eq`): where a longer part of
the path does not exist, its last name is no link, since a link to nowhere has no place.

From this, whatever a resolved path leads to stands at or below what the root leads to
(`within_of_resolve`).  The root may be reached through links, may be a file and may be missing;
nothing can be resolved below it in the last two cases.
-/
namespace Scriptorium

open FileSystem Scriptorium.Path

namespace FileSystem

variable {fs : FileSystem} {cwd : Location} {p place : Path} {spot : Spot} {ns ms : List Name}

/-! ## 1. The true name of what a walk finds -/

theorem canonicalize_found {loc : Location} {o : Object}
    (h : fs.walk cwd true p = .ok (.found loc o)) :
    fs.canonicalize cwd p =
      if (ofNames loc).bytes.length ≥ pathLimit then .error .nameTooLong
      else .ok (ofNames loc) := by
  obtain ⟨hp, hw⟩ := walk_eq_ok.mp h
  obtain ⟨hz, hne, -⟩ := passable_eq_ok.mp hp
  rw [canonicalize, if_neg hz, if_neg hne, hw]
  rfl

theorem canonicalize_free {dir : Location} {n : Name} (h : fs.walk cwd true p = .ok (.free dir n)) :
    fs.canonicalize cwd p = .error .noEntry := by
  obtain ⟨hp, hw⟩ := walk_eq_ok.mp h
  obtain ⟨hz, hne, -⟩ := passable_eq_ok.mp hp
  rw [canonicalize, if_neg hz, if_neg hne, hw]
  rfl

/-- The canonical path of something is that of the place that the walk along its path ends at, with
no link left in it. -/
theorem canonicalize_eq_ok (h : fs.walk cwd true p = .ok spot)
    (hc : fs.canonicalize cwd p = .ok place) : place = ofNames spot.place := by
  cases spot with
  | found loc o =>
    rw [canonicalize_found h] at hc
    split at hc
    · exact absurd hc (by simp)
    · exact (Except.ok.inj hc).symm
  | free dir n =>
    rw [canonicalize_free h] at hc
    exact absurd hc (by simp)

end FileSystem

namespace Workspace

variable {fs : FileSystem} {cwd : Location} {w : Workspace} {root p q place : Path} {spot : Spot}
variable {ns ms rs : List Name} {n : Name}

/-! ## 2. The place of a spelled path -/

/-- The root of the file system stands at itself, so every absolute path has a part in front that
can be resolved. -/
theorem physical_root (fs : FileSystem) (cwd : Location) :
    physical fs cwd (ofNames []) = some (ofNames []) := by
  have hw : fs.walk cwd true (ofNames []) = .ok (.found [] .directory) :=
    (walk_ofNames (by simp)).mpr ⟨rfl, by rw [List.map_nil, walkFrom]⟩
  have hc : fs.canonicalize cwd (ofNames []) = .ok (ofNames []) := by
    rw [canonicalize_found hw]
    rfl
  have hrev : (ofNames []).components.reverse = [.root] := by
    rw [components_ofNames (by simp)]
    rfl
  have hof : ofComponents [Component.root] = ofNames [] := rfl
  simp [physical, hrev, physicalRev, hof, hc]

/-- How the place of a path is told: by its true name if it has one, and else from the place of
the path above. -/
theorem physical_concat (h : ∀ m ∈ ns ++ [n], IsName m) :
    physical fs cwd (ofNames (ns ++ [n])) =
      match fs.canonicalize cwd (ofNames (ns ++ [n])) with
      | .ok place => some place
      | .error _ =>
        if (fs.readLink? cwd (ofNames (ns ++ [n]))).isSome then none
        else (physical fs cwd (ofNames ns)).map (·.entry n) := by
  have hns : ∀ m ∈ ns, IsName m := fun m hm => h m (List.mem_append_left _ hm)
  have hrev : (ofNames (ns ++ [n])).components.reverse
      = .name n :: (ofNames ns).components.reverse := by
    rw [components_ofNames h, components_ofNames hns]
    simp
  have hof : ofComponents (Component.name n :: (ofNames ns).components.reverse).reverse
      = ofNames (ns ++ [n]) := by
    rw [← hrev, List.reverse_reverse, components_ofNames h]
    rfl
  rw [physical, hrev, physicalRev]
  simp only [hof]
  rfl

/-- **The place that is told is the one that a walk ends at**, if there is one.  Where the walk
fails because the last names are not there, the place is told with these names behind it. -/
theorem physical_eq (h : ∀ n ∈ ns, IsName n) (hp : physical fs cwd (ofNames ns) = some place)
    (hw : fs.walk cwd true (ofNames ns) = .ok spot) : place = ofNames spot.place := by
  induction ns using List.reverseRecOn generalizing place spot with
  | nil =>
    rw [physical_root] at hp
    have hs := (walk_ofNames h).mp hw
    rw [List.map_nil, walkFrom] at hs
    rw [← Option.some.inj hp, ← Except.ok.inj hs.2]
    rfl
  | append_singleton ns n ih =>
    rw [physical_concat h] at hp
    split at hp
    · rename_i found hc
      rw [← Option.some.inj hp]
      exact canonicalize_eq_ok hw hc
    · split at hp
      · exact absurd hp (by simp)
      · rename_i hlink
        obtain ⟨above, habove, rfl⟩ := Option.map_eq_some_iff.mp hp
        obtain ⟨dir, hl⟩ := lastEntry_of_walk h hw
        have hnolink : ∀ t, fs.object? (dir ++ [n]) ≠ some (.link t) := by
          intro t ht
          apply hlink
          simp [readLink?, find, hl.walk cwd, spotAt, ht, bind, Except.bind]
        have hspot : spot = spotAt fs dir n :=
          Except.ok.inj (hw.symm.trans (hl.walk_of_no_link cwd hnolink))
        have hdir := hl.above.walk cwd (passable_ofNames h hl.passable)
        rw [ih hl.above.names habove hdir, hspot, place_spotAt, entry_ofNames]
        rfl

/-! ## 3. What resolving checks -/

/-- The place `loc` is at or below the one that the root of the workspace leads to. -/
def Within (fs : FileSystem) (cwd : Location) (root : Path) (loc : Location) : Prop :=
  ∃ top, fs.walk cwd true root = .ok top ∧ top.place <+: loc

/-- A root as a workspace has it: an absolute path without dots. -/
structure IsRoot (root : Path) : Prop where
  absolute : root.isAbsolute = true
  folded : root.folded = root

theorem IsRoot.spelled (h : IsRoot root) : ∃ rs, (∀ n ∈ rs, IsName n) ∧ root = ofNames rs := by
  obtain ⟨rs, hrs, he⟩ := folded_of_isAbsolute h.absolute
  exact ⟨rs, hrs, h.folded.symm.trans he⟩

/-- The two checks of a workspace that is confined to a root. -/
theorem resolve_confined (hw : w.root = some root) : w.resolve fs cwd p = .ok q
    ↔ (root.join p).folded = q ∧ q.startsWith root = true
      ∧ ∃ place, physical fs cwd q = some place
        ∧ place.startsWith (physicalRoot fs cwd root) = true := by
  simp only [resolve, hw]
  constructor
  · intro h
    split at h
    · rename_i hstarts
      split at h
      · rename_i place hplace
        split at h
        · rename_i hinside
          obtain rfl := Except.ok.inj h
          exact ⟨rfl, hstarts, place, hplace, hinside⟩
        · exact absurd h (by simp)
      · exact absurd h (by simp)
    · exact absurd h (by simp)
  · rintro ⟨rfl, hstarts, place, hplace, hinside⟩
    simp only [hstarts, hplace, hinside, if_true]

/-- What is known of a resolved path: it is spelled by the names of the root and then some, and it
has a place, which begins with that of the root. -/
theorem resolve_eq_ok (hw : w.root = some root) (hroot : IsRoot root)
    (h : w.resolve fs cwd p = .ok q) :
    ∃ rs ms place, root = ofNames rs ∧ q = ofNames (rs ++ ms) ∧ (∀ n ∈ rs ++ ms, IsName n)
      ∧ physical fs cwd q = some place
      ∧ place.startsWith (physicalRoot fs cwd root) = true := by
  obtain ⟨rs, hrs, rfl⟩ := hroot.spelled
  obtain ⟨qs, hqs, hfolded⟩ := folded_of_isAbsolute (join_of_isAbsolute (q := p) hroot.absolute)
  obtain ⟨hq, hstarts, place, hplace, hinside⟩ := (resolve_confined hw).mp h
  obtain rfl : q = ofNames qs := hq.symm.trans hfolded
  obtain ⟨ms, rfl⟩ := (startsWith_ofNames hqs hrs).mp hstarts
  exact ⟨rs, ms, place, rfl, rfl, hqs, hplace, hinside⟩

/-- Where the names of a directory are those of a place at which a walk has ended, or the first of
them, they lead to themselves. -/
theorem prefix_of_leadsTo {dir : Location} (hd : LeadsTo fs rs dir) (hset : spot.Settled fs)
    (hback : walkFrom fs true maxLinks [] (spot.place.map .into) = .ok spot)
    (hpre : rs <+: spot.place) : dir <+: spot.place := by
  obtain ⟨ks, hks⟩ := hpre
  rcases List.eq_nil_or_concat ks with rfl | ⟨front, k, rfl⟩
  · rw [List.append_nil] at hks
    rw [← hks, hd.walkFrom] at hback
    rw [← Except.ok.inj hback]
    exact List.prefix_refl dir
  · have hrs : IsDir fs rs := by
      refine hset.dir.above ⟨front, ?_⟩
      rw [← hks, List.concat_eq_append, ← List.append_assoc, List.dropLast_concat]
    have hself : LeadsTo fs rs rs := ⟨hd.names, maxLinks, hrs.enters maxLinks⟩
    rw [hd.unique hself]
    exact ⟨_, hks⟩

/-- **Whatever a resolved path leads to is at or below what the root leads to.**  This is where
confinement comes from: the path was looked at by its place and not by its spelling. -/
theorem within_of_resolve (hw : w.root = some root) (hroot : IsRoot root)
    (h : w.resolve fs cwd p = .ok q) (hs : fs.walk cwd true q = .ok spot) :
    Within fs cwd root spot.place := by
  obtain ⟨rs, ms, place, rfl, rfl, hnames, hphys, hinside⟩ := resolve_eq_ok hw hroot h
  by_cases hms : ms = []
  · subst hms
    rw [List.append_nil] at hs
    exact ⟨spot, hs, List.prefix_refl _⟩
  · obtain ⟨dir, hd, hpass⟩ := leadsTo_of_walk hnames hms hs
    have hwroot := hd.walk cwd hpass
    refine ⟨_, hwroot, ?_⟩
    have hset := (settled_of_walk hnames hs).1
    have hplace : ∀ n ∈ spot.place, IsName n := fun n hn => (hset.names n hn).1
    rw [physical_eq hnames hphys hs, physicalRoot, canonicalize_found hwroot] at hinside
    by_cases hlong : (ofNames dir).bytes.length ≥ pathLimit
    · -- the true name of the root is too long, and the root is compared as it was spelled
      rw [if_pos hlong] at hinside
      refine prefix_of_leadsTo hd hset ?_ ((startsWith_ofNames hplace hd.names).mp hinside)
      exact walkFrom_place maxLinks (.root fs) (named_into hnames) ((walk_ofNames hnames).mp hs).2
    · rw [if_neg hlong] at hinside
      exact (startsWith_ofNames hplace fun n hn => (hd.isDir.names n hn).1).mp hinside

end Workspace
end Scriptorium
