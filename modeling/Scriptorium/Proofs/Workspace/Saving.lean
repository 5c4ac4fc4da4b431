import Scriptorium.Proofs.Workspace.Confinement

/-!
# Saving

A save puts a file at one place, where there was a file before or nothing (`Fillable`).  This
changes what is found at that place, and nothing else about any walk: the same steps are possible,
the same links are entered, and a walk that ended there still does (`walkFrom_put`).  So a path that
was let through is let through again and has the same place as before (`resolve_put`), whether the
file was there, is new, or is reached through links.
-/
namespace Scriptorium

namespace FileSystem

open Scriptorium.Path

variable {fs fs' : FileSystem} {cwd at_ loc : Location} {follow : Bool} {p q : Path} {o : Object}
variable {spot spot' : Spot} {links : Nat} {steps : List Step} {content : Bytes} {x : Bool}

/-! ## 1. Walks over a file that is put -/

/-- At `loc` there is a file, or nothing. -/
structure Fillable (fs : FileSystem) (loc : Location) : Prop where
  ne_root : loc ≠ []
  file : ∀ o, fs.object? loc = some o → ∃ content x, o = .file content x

theorem Fillable.ne_of_directory (h : Fillable fs loc) (hd : fs.object? at_ = some .directory) :
    at_ ≠ loc := by
  rintro rfl
  obtain ⟨content, x, he⟩ := h.file _ hd
  exact absurd he (by simp)

theorem IsDir.put (h : IsDir fs at_) (hloc : Fillable fs loc) (o : Object) :
    IsDir (fs.put loc o) at_ where
  names := h.names
  directories above ha := by
    have hd := h.directories above ha
    rw [object?_put _ _ _ _ hloc.ne_root, if_neg (hloc.ne_of_directory hd).symm, hd]

/-- The spot when `o` is at `loc`. -/
def Spot.filled (loc : Location) (o : Object) (spot : Spot) : Spot :=
  if spot.place = loc then .found loc o else spot

@[simp] theorem Spot.place_filled (loc : Location) (o : Object) (spot : Spot) :
    (spot.filled loc o).place = spot.place := by
  unfold filled
  split
  · rename_i h
    exact h.symm
  · rfl

theorem Spot.filled_of_place (h : spot.place = loc) : spot.filled loc o = .found loc o := if_pos h

theorem Spot.filled_of_ne (h : spot.place ≠ loc) : spot.filled loc o = spot := if_neg h

theorem Spot.filled_found (loc at_ : Location) (o was : Object) :
    (Spot.found at_ was).filled loc o = .found at_ (if at_ = loc then o else was) := by
  by_cases h : at_ = loc <;> simp [filled, place, h]

theorem Spot.filled_free (loc at_ : Location) (n : Name) (o : Object) :
    (Spot.free at_ n).filled loc o
      = if at_ ++ [n] = loc then .found (at_ ++ [n]) o else .free at_ n := by
  by_cases h : at_ ++ [n] = loc <;> simp [filled, place, h]

/-- **A file that is put changes what walks find at its place**, and where no other walk ends.
Walks that pass through the place would have to pass through a file, which no walk does. -/
theorem walkFrom_put (hloc : Fillable fs loc) :
    ∀ (links : Nat) (at_ : Location) (steps : List Step), IsDir fs at_ → Named steps →
      (walkFrom (fs.put loc (.file content x)) follow links at_ steps).toOption
        = (walkFrom fs follow links at_ steps).toOption.map (·.filled loc (.file content x))
  | links, at_, [], hd, _ => by
    rw [walkFrom, walkFrom]
    simp [Except.toOption, Spot.filled_found, hloc.ne_of_directory hd.object?]
  | links, at_, .stay :: rest, hd, hs => by
    rw [walkFrom, walkFrom]
    exact walkFrom_put hloc links at_ rest hd hs.tail
  | links, at_, .up :: rest, hd, hs => by
    rw [walkFrom, walkFrom]
    exact walkFrom_put hloc links at_.dropLast rest hd.dropLast hs.tail
  | links, at_, .into n :: rest, hd, hs => by
    have hput := object?_put fs loc (at_ ++ [n]) (.file content x) hloc.ne_root
    rw [walkFrom, walkFrom, hput]
    split
    · rfl
    rename_i hlen
    by_cases hat : at_ ++ [n] = loc
    · -- nothing goes on below the file, neither before nor after
      rw [if_pos hat.symm]
      cases ho : fs.object? (at_ ++ [n]) with
      | none => by_cases hr : rest = [] <;> simp [hr, Except.toOption, Spot.filled_free, hat]
      | some o =>
        obtain ⟨was, y, rfl⟩ := hloc.file o (hat ▸ ho)
        by_cases hr : rest = [] <;> simp [hr, Except.toOption, Spot.filled_found, hat]
    · rw [if_neg (Ne.symm hat)]
      split
      · by_cases hr : rest = [] <;> simp [hr, Except.toOption, Spot.filled_free, hat]
      · rename_i ho
        exact walkFrom_put hloc links (at_ ++ [n]) rest
          (hd.concat (hs n List.mem_cons_self) (Nat.not_lt.mp hlen) ho) hs.tail
      · by_cases hr : rest = [] <;> simp [hr, Except.toOption, Spot.filled_found, hat]
      · by_cases hr : rest = [] <;> simp [hr, Except.toOption, Spot.filled_found, hat]
      · rename_i t ho
        split
        · simp [Except.toOption, Spot.filled_found, hat]
        · cases links with
          | zero => rfl
          | succ more =>
            exact walkFrom_put hloc more (startOf at_ t) (allStepsOf t ++ rest)
              (isDir_startOf hd t) (hs.target t)
termination_by links _ steps => (links, steps.length)

theorem walkFrom_put_eq_ok (hloc : Fillable fs loc) (hd : IsDir fs at_) (hs : Named steps) :
    walkFrom (fs.put loc (.file content x)) follow links at_ steps = .ok spot'
      ↔ ∃ spot, walkFrom fs follow links at_ steps = .ok spot
        ∧ spot.filled loc (.file content x) = spot' := by
  rw [← toOption_eq_some, walkFrom_put hloc links at_ steps hd hs, Option.map_eq_some_iff]
  simp only [toOption_eq_some]

/-- What was found is found again, as it is now. -/
theorem walkFrom_put_found {dir : Location} (hloc : Fillable fs loc) (hd : IsDir fs dir)
    (hs : Named steps) (h : walkFrom fs follow links dir steps = .ok (.found at_ o)) :
    ∃ o', walkFrom (fs.put loc (.file content x)) follow links dir steps = .ok (.found at_ o') :=
  ⟨_, (walkFrom_put_eq_ok hloc hd hs).mpr ⟨_, h, Spot.filled_found ..⟩⟩

theorem walk_put_eq_ok (hloc : Fillable fs loc) (hd : IsDir fs (startOf cwd p)) :
    (fs.put loc (.file content x)).walk cwd follow p = .ok spot'
      ↔ ∃ spot, fs.walk cwd follow p = .ok spot ∧ spot.filled loc (.file content x) = spot' := by
  simp only [walk_eq_ok, walkFrom_put_eq_ok hloc hd (named_allStepsOf p), and_assoc,
    exists_and_left]

/-- A path can be resolved exactly if it can be handed to the system, leads to something that is
there, and the resolved path is not too long. -/
theorem canonicalize_ok_iff : fs.canonicalize cwd p = .ok q
    ↔ 0 ∉ p.bytes ∧ p.bytes ≠ []
      ∧ ∃ loc o, walkFrom fs true maxLinks (startOf cwd p) (allStepsOf p) = .ok (.found loc o)
        ∧ (pathOf loc).bytes.length < pathLimit ∧ q = pathOf loc := by
  unfold canonicalize
  split
  · simp_all
  split
  · simp_all
  rename_i hz hne
  rw [bind_eq_ok]
  constructor
  · rintro ⟨spot, hw, h⟩
    cases spot with
    | free dir n => exact absurd h (by simp)
    | found loc o =>
      simp only at h
      split at h
      · exact absurd h (by simp)
      · rename_i hlen
        exact ⟨hz, hne, loc, o, hw, Nat.not_le.mp hlen, (Except.ok.inj h).symm⟩
  · rintro ⟨-, -, loc, o, hw, hlen, rfl⟩
    exact ⟨_, hw, if_neg (Nat.not_le.mpr hlen)⟩

/-- What has a true name keeps it. -/
theorem canonicalize_put (hloc : Fillable fs loc) (hd : IsDir fs (startOf cwd p))
    (h : fs.canonicalize cwd p = .ok q) :
    (fs.put loc (.file content x)).canonicalize cwd p = .ok q := by
  obtain ⟨hz, hne, at_, o, hw, hlen, rfl⟩ := canonicalize_ok_iff.mp h
  obtain ⟨o', hw'⟩ := walkFrom_put_found hloc hd (named_allStepsOf p) hw
  exact canonicalize_ok_iff.mpr ⟨hz, hne, at_, o', hw', hlen, rfl⟩

/-- A link is read at the place of the path itself, not at what it leads to. -/
theorem readLink?_eq_some {t : Path} :
    fs.readLink? cwd p = some t ↔ ∃ loc, fs.walk cwd false p = .ok (.found loc (.link t)) := by
  simp only [← find_eq_ok]
  unfold readLink?
  split
  · rename_i loc target hf
    simp [hf, eq_comm]
  · rename_i hno
    simp only [reduceCtorEq, false_iff, not_exists]
    intro loc hf
    exact hno loc t hf

/-- There are no new links. -/
theorem readLink?_put (hloc : Fillable fs loc) (hd : IsDir fs (startOf cwd p)) {t : Path}
    (h : (fs.put loc (.file content x)).readLink? cwd p = some t) :
    fs.readLink? cwd p = some t := by
  obtain ⟨at_, hw⟩ := readLink?_eq_some.mp h
  obtain ⟨spot, hw, he⟩ := (walk_put_eq_ok hloc hd).mp hw
  refine readLink?_eq_some.mpr ⟨at_, ?_⟩
  by_cases hp : spot.place = loc
  · rw [Spot.filled_of_place hp] at he
    exact absurd he (by simp)
  · rw [Spot.filled_of_ne hp] at he
    rw [hw, he]

end FileSystem

namespace Workspace

open FileSystem Scriptorium.Path

variable {w : Workspace} {fs fs' : FileSystem} {cwd top loc : Location} {root p q place : Path}
variable {spot : Spot} {o : Object} {content : Bytes} {x : Bool} {ns : List Name}

/-! ## 2. Resolving again -/

theorem isDir_startOf_ofNames (fs : FileSystem) (cwd : Location) (ns : List Name) :
    IsDir fs (startOf cwd (ofNames ns)) := by
  rw [startOf_ofNames]
  exact .root fs

/-- A path that had a place has one when a file was put. -/
theorem isSome_physical_put (hloc : Fillable fs loc) (h : ∀ n ∈ ns, IsName n)
    (hp : (physical fs cwd (ofNames ns)).isSome = true) :
    (physical (fs.put loc (.file content x)) cwd (ofNames ns)).isSome = true := by
  have hd (ns : List Name) : IsDir fs (startOf cwd (ofNames ns)) := isDir_startOf_ofNames ..
  induction ns using List.reverseRecOn with
  | nil => rw [physical_root]; rfl
  | append_singleton ns n ih =>
    rw [physical_concat h] at hp ⊢
    split
    · rfl
    · rename_i hc'
      split at hp
      · rename_i real hc
        rw [canonicalize_put hloc (hd _) hc] at hc'
        exact absurd hc' (by simp)
      · split at hp
        · exact absurd hp (by simp)
        · rename_i hlink
          rw [if_neg, Option.isSome_map]
          · rw [Option.isSome_map] at hp
            exact ih (fun m hm => h m (List.mem_append_left _ hm)) hp
          · intro hlink'
            obtain ⟨t, ht⟩ := Option.isSome_iff_exists.mp hlink'
            exact hlink (by rw [readLink?_put hloc (hd _) ht]; rfl)

/-- What a walk ends at has its place before and after. -/
theorem physical_put (hloc : Fillable fs loc) (h : ∀ n ∈ ns, IsName n)
    (hw : fs.walk cwd true (ofNames ns) = .ok spot)
    (hp : physical fs cwd (ofNames ns) = some place) :
    physical (fs.put loc (.file content x)) cwd (ofNames ns) = some place := by
  have hd : IsDir fs (startOf cwd (ofNames ns)) := isDir_startOf_ofNames ..
  have hsome : (physical (fs.put loc (.file content x)) cwd (ofNames ns)).isSome = true :=
    isSome_physical_put hloc h (by rw [hp]; rfl)
  obtain ⟨place', hp'⟩ := Option.isSome_iff_exists.mp hsome
  rw [hp', physical_eq h hp' ((walk_put_eq_ok hloc hd).mpr ⟨spot, hw, rfl⟩), Spot.place_filled,
    physical_eq h hp hw]

theorem physicalRoot_put (hloc : Fillable fs loc) (hd : IsDir fs (startOf cwd root))
    (htop : fs.walk cwd true root = .ok (.found top o)) :
    physicalRoot (fs.put loc (.file content x)) cwd root = physicalRoot fs cwd root := by
  have htop' : ∃ o', (fs.put loc (.file content x)).walk cwd true root = .ok (.found top o') :=
    ⟨_, (walk_put_eq_ok hloc hd).mpr ⟨_, htop, Spot.filled_found ..⟩⟩
  obtain ⟨o', htop'⟩ := htop'
  rw [physicalRoot, physicalRoot, canonicalize_found htop, canonicalize_found htop']

/-- The root of the workspace is there, if it has one. -/
def Rooted (w : Workspace) (fs : FileSystem) (cwd : Location) : Prop :=
  ∀ root, w.root = some root → IsRoot root ∧ ∃ top o, fs.walk cwd true root = .ok (.found top o)

/-- **A path is resolved as before when a file was put**, if it led to something or to where
something could be made. -/
theorem resolve_put (hrooted : w.Rooted fs cwd) (hloc : Fillable fs loc)
    (hq : w.resolve fs cwd p = .ok q) (hs : fs.walk cwd true q = .ok spot) :
    w.resolve (fs.put loc (.file content x)) cwd p = .ok q := by
  cases hw : w.root with
  | none =>
    rw [resolve, hw] at hq ⊢
    exact hq
  | some root =>
    obtain ⟨hroot, top, o, htop⟩ := hrooted root hw
    obtain ⟨rs, ms, -, rfl, rfl, hnames, -⟩ := resolve_eq_ok hw hroot hq
    obtain ⟨hjoin, hstarts, place, hplace, hinside⟩ := (resolve_confined hw).mp hq
    have hd : IsDir fs (startOf cwd (ofNames rs)) := isDir_startOf_ofNames ..
    refine (resolve_confined hw).mpr ⟨hjoin, hstarts, place, physical_put hloc hnames hs hplace, ?_⟩
    rw [physicalRoot_put hloc hd htop]
    exact hinside

/-- **What a save comes to**: the text is in the file at the place that the path leads to, made
there if need be, and all else is as it was; or the path leads to the device that keeps nothing. -/
theorem write_eq_ok {text : String} (hcwd : IsDir fs cwd) (h : w.write fs cwd p text = .ok fs') :
    ∃ q spot, w.resolve fs cwd p = .ok q ∧ fs.walk cwd true q = .ok spot
      ∧ ((spot.object? = some .device ∧ fs' = fs)
        ∨ ∃ x, Fillable fs spot.place
          ∧ fs' = fs.put spot.place (.file (Text.Utf8.encode text) x)) := by
  obtain ⟨q, hq, h⟩ := bind_eq_ok.mp h
  obtain ⟨spot, hwalk, hcase⟩ := writeFile_eq_ok (during_eq_ok.mp h)
  refine ⟨q, spot, hq, hwalk, hcase.imp_right ?_⟩
  rintro ⟨x, hwas, rfl⟩
  have hset := (settled_of_walkFrom _ _ _ (isDir_startOf hcwd q) (named_allStepsOf q)
    (walk_eq_ok.mp hwalk).2).1
  refine ⟨x, ⟨fun he => ?_, fun o ho => ?_⟩, rfl⟩
  · have hobj := hset.object
    rw [he, object?_nil] at hobj
    rcases hwas with ⟨old, hwas⟩ | hwas <;> simp [hwas] at hobj
  · rw [hset.object] at ho
    rcases hwas with ⟨old, hwas⟩ | hwas
    · exact ⟨old, x, Option.some.inj (ho.symm.trans hwas)⟩
    · exact absurd (ho.symm.trans hwas) (by simp)

/-- **After a save the path is resolved as before, and leads to the file with the text.**  Before
the save there may have been nothing there but a place where a file could be made, which resolves to
the same path. -/
theorem resolve_write {text : String} (hcwd : IsDir fs cwd) (hrooted : w.Rooted fs cwd)
    (h : w.write fs cwd p text = .ok fs') :
    ∃ q spot, w.resolve fs cwd p = .ok q ∧ w.resolve fs' cwd p = .ok q
      ∧ fs.walk cwd true q = .ok spot
      ∧ ((spot.object? = some .device ∧ fs' = fs)
        ∨ ∃ x, Fillable fs spot.place ∧ fs' = fs.put spot.place (.file (Text.Utf8.encode text) x)
          ∧ fs'.walk cwd true q = .ok (.found spot.place (.file (Text.Utf8.encode text) x))) := by
  obtain ⟨q, spot, hq, hwalk, ⟨hdev, rfl⟩ | ⟨x, hloc, rfl⟩⟩ := write_eq_ok hcwd h
  · exact ⟨q, spot, hq, hq, hwalk, .inl ⟨hdev, rfl⟩⟩
  · refine ⟨q, spot, hq, resolve_put hrooted hloc hq hwalk, hwalk, .inr ⟨x, hloc, rfl, ?_⟩⟩
    exact (walk_put_eq_ok hloc (isDir_startOf hcwd q)).mpr
      ⟨spot, hwalk, Spot.filled_of_place rfl⟩

end Workspace
end Scriptorium
