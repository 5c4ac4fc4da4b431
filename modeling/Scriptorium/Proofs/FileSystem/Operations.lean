import Scriptorium.FileSystem.Operations
import Scriptorium.Proofs.FileSystem.Changes
import Scriptorium.Proofs.Succeeds

/-!
# What the operations do when they succeed

One lemma for each operation says where it worked and what became of the file system.  The
operations that follow a last link work at the place that a walk of their path ends at; those that
work on an entry do it in the directory that the path above leads to (`LastEntry`).
-/
namespace Scriptorium

namespace FileSystem

open Scriptorium.Path

variable {fs fs' : FileSystem} {cwd loc : Location} {follow : Bool} {p : Path} {o : Object}
variable {ns : List Name} {n : Name}

/-! ## 1. Reading -/

/-- An object is found exactly where the walk along the path ends at something that is there. -/
theorem find_eq_ok : fs.find cwd follow p = .ok (loc, o)
    ↔ fs.walk cwd follow p = .ok (.found loc o) := by
  rw [find, bind_eq_ok]
  constructor
  · rintro ⟨spot, hw, h⟩
    cases spot with
    | found l q =>
      obtain ⟨rfl, rfl⟩ := Prod.mk.inj (Except.ok.inj h)
      exact hw
    | free dir n => exact absurd h (by simp)
  · exact fun hw => ⟨_, hw, rfl⟩

/-- The bytes that reading an object gives. -/
def Object.content? : Object → Option Bytes
  | .file content _ => some content
  | .device => some []
  | _ => none

theorem readFile_eq_ok {bytes : Bytes} (h : fs.readFile cwd p = .ok bytes) :
    ∃ loc o, fs.walk cwd true p = .ok (.found loc o) ∧ o.content? = some bytes := by
  obtain ⟨⟨loc, o⟩, hf, h⟩ := bind_eq_ok.mp h
  refine ⟨loc, o, find_eq_ok.mp hf, ?_⟩
  cases o with
  | file content x => exact congrArg some (Except.ok.inj h)
  | device => exact congrArg some (Except.ok.inj h)
  | link t => exact absurd h (by simp)
  | directory => exact absurd h (by simp)

theorem readDirectory_eq_ok {es : List (Name × Object)} (h : fs.readDirectory cwd p = .ok es) :
    ∃ loc, fs.walk cwd true p = .ok (.found loc .directory) ∧ es = fs.children loc := by
  obtain ⟨⟨loc, o⟩, hf, h⟩ := bind_eq_ok.mp h
  cases o with
  | directory => exact ⟨loc, find_eq_ok.mp hf, (Except.ok.inj h).symm⟩
  | file content x => exact absurd h (by simp [Object.isDirectory])
  | device => exact absurd h (by simp [Object.isDirectory])
  | link t => exact absurd h (by simp [Object.isDirectory])

/-! ## 2. Making and changing files -/

/-- Writing changes the file that a walk ends at, or makes it there. -/
theorem writeFile_eq_ok {content : Bytes} (h : fs.writeFile cwd p content = .ok fs') :
    ∃ spot, fs.walk cwd true p = .ok spot
      ∧ ((spot.object? = some .device ∧ fs' = fs)
          ∨ ∃ x, ((∃ old, spot.object? = some (.file old x)) ∨ spot.object? = none)
            ∧ fs' = fs.put spot.place (.file content x)) := by
  obtain ⟨place, -, h⟩ := bind_eq_ok.mp h
  split at h
  · split at h
    · exact absurd h (by simp)
    · obtain ⟨spot, hw, h⟩ := bind_eq_ok.mp h
      refine ⟨spot, hw, ?_⟩
      split at h
      · exact .inr ⟨_, .inl ⟨_, rfl⟩, (Except.ok.inj h).symm⟩
      · exact .inl ⟨rfl, (Except.ok.inj h).symm⟩
      · exact absurd h (by simp)
      · exact .inr ⟨_, .inr rfl, (Except.ok.inj h).symm⟩
  · exact absurd h (by simp)

theorem entry?_eq_ok {dir : Location} {there : Option Object}
    (h : fs.entry? dir n = .ok there) :
    n.length ≤ maxNameLength ∧ there = fs.object? (dir ++ [n]) := by
  unfold entry? at h
  split at h
  · exact absurd h (by simp)
  · rename_i hl
    exact ⟨Nat.not_lt.mp hl, (Except.ok.inj h).symm⟩

/-- An operation on an entry works at the last one of its path.  The root directory is none. -/
theorem entry_of_parentOf (h : ∀ m ∈ ns, IsName m) {place : Place}
    (hp : fs.parentOf cwd (ofNames ns) = .ok place) :
    place.last = .root ∨ ∃ front n, ns = front ++ [n] ∧ place.last = .into n
      ∧ place.slashed = false ∧ ∀ there, fs.entry? place.dir n = .ok there →
          LastEntry fs front n place.dir ∧ there = fs.object? (place.dir ++ [n]) := by
  rcases List.eq_nil_or_concat ns with rfl | ⟨front, n, rfl⟩
  · have hroot : fs.parentOf cwd (ofNames []) = .ok ⟨[], .root, true⟩ := rfl
    rw [← Except.ok.inj (hroot.symm.trans hp)]
    exact .inl rfl
  · rw [List.concat_eq_append] at h hp ⊢
    obtain ⟨hpass, hlead, hlast, hslashed⟩ := (parentOf_ofNames h).mp hp
    refine .inr ⟨front, n, rfl, hlast, hslashed, fun there he => ?_⟩
    obtain ⟨hl, ht⟩ := entry?_eq_ok he
    exact ⟨⟨hlead, h n (by simp), hl, hpass⟩, ht⟩

/-- A file is made where there was no entry. -/
theorem createFile_eq_ok (h : ∀ m ∈ ns, IsName m)
    (hc : fs.createFile cwd (ofNames ns) = .ok fs') :
    ∃ front n dir, ns = front ++ [n] ∧ LastEntry fs front n dir
      ∧ fs.object? (dir ++ [n]) = none ∧ fs' = fs.put (dir ++ [n]) (.file [] false) := by
  obtain ⟨place, hp, hc⟩ := bind_eq_ok.mp hc
  rcases entry_of_parentOf h hp with hroot | ⟨front, n, hns, hlast, hslashed, hentry⟩
  · rw [hroot] at hc
    exact absurd hc (by simp)
  · rw [hlast, hslashed] at hc
    obtain ⟨there, he, hc⟩ := bind_eq_ok.mp hc
    obtain ⟨hl, rfl⟩ := hentry there he
    split at hc
    · exact absurd hc (by simp)
    · rename_i hnone
      exact ⟨front, n, place.dir, hns, hl, hnone, (Except.ok.inj hc).symm⟩

/-! ## 3. Removing -/

/-- An entry that is no directory is removed. -/
theorem unlink_eq_ok (h : ∀ m ∈ ns, IsName m) (hu : fs.unlink cwd (ofNames ns) = .ok fs') :
    ∃ front n dir o, ns = front ++ [n] ∧ LastEntry fs front n dir
      ∧ fs.object? (dir ++ [n]) = some o ∧ o ≠ .directory ∧ fs' = fs.removeBelow (dir ++ [n]) := by
  obtain ⟨place, hp, hu⟩ := bind_eq_ok.mp hu
  rcases entry_of_parentOf h hp with hroot | ⟨front, n, hns, hlast, hslashed, hentry⟩
  · rw [hroot] at hu
    exact absurd hu (by simp)
  · rw [hlast, hslashed] at hu
    obtain ⟨there, he, hu⟩ := bind_eq_ok.mp hu
    obtain ⟨hl, rfl⟩ := hentry there he
    split at hu
    · exact absurd hu (by simp)
    · exact absurd hu (by simp)
    · rename_i o hnot ho
      exact ⟨front, n, place.dir, o, hns, hl, ho, hnot, (Except.ok.inj hu).symm⟩

/-- Removing a last entry that is no directory succeeds. -/
theorem LastEntry.unlink {dir : Location} (hl : LastEntry fs ns n dir)
    (ho : fs.object? (dir ++ [n]) = some o) (hd : o ≠ .directory) :
    fs.unlink cwd (ofNames (ns ++ [n])) = .ok (fs.removeBelow (dir ++ [n])) := by
  have he : fs.entry? dir n = .ok (some o) := by
    unfold entry?
    rw [if_neg (Nat.not_lt.mpr hl.short), ho]
  rw [FileSystem.unlink, hl.parentOf cwd]
  simp only [bind, Except.bind, he]
  cases o with
  | directory => exact absurd rfl hd
  | file content x => rfl
  | link t => rfl
  | device => rfl

/-- A directory that is removed is empty. -/
theorem removeDirectory_eq_ok (h : ∀ m ∈ ns, IsName m)
    (hr : fs.removeDirectory cwd (ofNames ns) = .ok fs') :
    ∃ front n dir, ns = front ++ [n] ∧ LastEntry fs front n dir
      ∧ fs.object? (dir ++ [n]) = some .directory ∧ fs.children (dir ++ [n]) = []
      ∧ fs' = fs.removeBelow (dir ++ [n]) := by
  obtain ⟨place, hp, hr⟩ := bind_eq_ok.mp hr
  rcases entry_of_parentOf h hp with hroot | ⟨front, n, hns, hlast, hslashed, hentry⟩
  · rw [hroot] at hr
    exact absurd hr (by simp)
  · rw [hlast] at hr
    obtain ⟨there, he, hr⟩ := bind_eq_ok.mp hr
    obtain ⟨hl, rfl⟩ := hentry there he
    split at hr
    · exact absurd hr (by simp)
    · rename_i ho
      split at hr
      · rename_i hempty
        exact ⟨front, n, place.dir, hns, hl, ho, hempty, (Except.ok.inj hr).symm⟩
      · exact absurd hr (by simp)
    · exact absurd hr (by simp)

/-! ## 4. Moving -/

/-- The entry at `target` can be replaced by `moved`. -/
def Replaceable (fs : FileSystem) (target : Location) (moved : Object) : Prop :=
  fs.object? target = none
    ∨ (moved = .directory ∧ fs.object? target = some .directory ∧ fs.children target = [])
    ∨ (moved ≠ .directory ∧ ∃ o, fs.object? target = some o ∧ o ≠ .directory)

/-- What moving the entry at `source` to `target` takes: neither is inside the other. -/
structure Movable (fs : FileSystem) (source target : Location) (moved : Object) : Prop where
  there : fs.object? source = some moved
  not_below : ¬ source <+: target
  not_above : ¬ target <+: source
  fits : Replaceable fs target moved

@[simp] theorem Object.isDirectory_eq_true : o.isDirectory = true ↔ o = .directory := by
  cases o <;> simp [Object.isDirectory]

/-- A rename puts something in a free place, a directory over an empty directory, or anything else
over what is no directory; in all other cases it fails. -/
theorem replaceable_of_ok {target : Location} {moved : Object} {fs₁ : FileSystem}
    (h : (match fs.object? target with
      | none => .ok fs₁
      | some .directory =>
        if !moved.isDirectory then .error .isDirectory
        else if fs.children target = [] then .ok fs₁
        else .error .notEmpty
      | some _ => if moved.isDirectory then .error .notDirectory else .ok fs₁)
        = (.ok fs' : Except OsError FileSystem)) :
    Replaceable fs target moved ∧ fs' = fs₁ := by
  split at h
  · rename_i hnone
    exact ⟨.inl hnone, (Except.ok.inj h).symm⟩
  · rename_i hdir
    split at h
    · exact absurd h (by simp)
    · rename_i hm
      split at h
      · rename_i hempty
        exact ⟨.inr (.inl ⟨by simpa using hm, hdir, hempty⟩), (Except.ok.inj h).symm⟩
      · exact absurd h (by simp)
  · rename_i o hnot ho
    split at h
    · exact absurd h (by simp)
    · rename_i hm
      exact ⟨.inr (.inr ⟨by simpa using hm, o, ho, hnot⟩), (Except.ok.inj h).symm⟩

theorem not_prefix_concat {dir : Location} (hne : loc ≠ dir ++ [n])
    (h : ¬ loc.isPrefixOf dir = true) : ¬ loc <+: dir ++ [n] := by
  intro hp
  rcases List.prefix_concat_iff.mp hp with he | hp
  · exact hne he
  · exact h (List.isPrefixOf_iff_prefix.mpr hp)

/-- An entry is moved to the place of another, unless the two are the same. -/
theorem rename_eq_ok {ms : List Name} (hs : ∀ m ∈ ns, IsName m) (ht : ∀ m ∈ ms, IsName m)
    (h : fs.rename cwd (ofNames ns) (ofNames ms) = .ok fs') :
    ∃ sfront sn sdir tfront tn tdir, ns = sfront ++ [sn] ∧ LastEntry fs sfront sn sdir
      ∧ ms = tfront ++ [tn] ∧ LastEntry fs tfront tn tdir
      ∧ ((sdir ++ [sn] = tdir ++ [tn] ∧ fs' = fs)
        ∨ (∃ moved, Movable fs (sdir ++ [sn]) (tdir ++ [tn]) moved)
          ∧ fs' = fs.relocate (sdir ++ [sn]) (tdir ++ [tn])) := by
  obtain ⟨s, hsp, h⟩ := bind_eq_ok.mp h
  obtain ⟨t, htp, h⟩ := bind_eq_ok.mp h
  rcases entry_of_parentOf hs hsp with hroot | ⟨sfront, sn, hns, hslast, hsslashed, hsentry⟩
  · rw [hroot] at h
    exact absurd h (by simp)
  rcases entry_of_parentOf ht htp with hroot | ⟨tfront, tn, hms, htlast, htslashed, htentry⟩
  · rw [hslast, hroot] at h
    exact absurd h (by simp)
  rw [hslast, htlast, hsslashed, htslashed] at h
  obtain ⟨there, hse, h⟩ := bind_eq_ok.mp h
  obtain ⟨hsl, rfl⟩ := hsentry there hse
  refine ⟨sfront, sn, s.dir, tfront, tn, t.dir, hns, hsl, hms, ?_⟩
  split at h
  · exact absurd h (by simp)
  rename_i moved hmoved
  obtain ⟨there, hte, h⟩ := bind_eq_ok.mp h
  obtain ⟨htl, rfl⟩ := htentry there hte
  refine ⟨htl, ?_⟩
  split at h
  · exact absurd h (by simp)
  split at h
  · exact absurd h (by simp)
  rename_i hbelow
  split at h
  · exact absurd h (by simp)
  rename_i habove
  split at h
  · rename_i he
    exact .inl ⟨he, (Except.ok.inj h).symm⟩
  · rename_i hne
    obtain ⟨hfits, hfs⟩ := replaceable_of_ok h
    exact .inr ⟨⟨moved, hmoved, not_prefix_concat hne hbelow,
      not_prefix_concat (fun he => hne he.symm) habove, hfits⟩, hfs⟩

/-! ## 5. What stays the contents of a disk -/

namespace WellFormed

/-- An object can be put where a walk ends, unless it would replace a directory. -/
theorem putAt {spot : Spot} (h : fs.WellFormed) (hs : spot.Settled fs)
    (ho : spot.object? ≠ some .directory) : (fs.put spot.place o).WellFormed := by
  obtain ⟨hd, hnames, hobj⟩ := hs
  rw [← hobj] at ho
  rcases List.eq_nil_or_concat spot.place with he | ⟨dir, n, he⟩
  · exact absurd (he ▸ object?_nil fs) ho
  · rw [List.concat_eq_append] at he
    rw [he] at hd hnames ho ⊢
    obtain ⟨hn, hl⟩ := hnames n (by simp)
    exact h.put (by simpa using hd) hn hl ho

theorem writeFile {content : Bytes} (hf : fs.WellFormed) (h : ∀ m ∈ ns, IsName m)
    (hw : fs.writeFile cwd (ofNames ns) content = .ok fs') : fs'.WellFormed := by
  obtain ⟨spot, hwalk, ⟨-, rfl⟩ | ⟨x, hwas, rfl⟩⟩ := writeFile_eq_ok hw
  · exact hf
  · refine hf.putAt (settled_of_walk h hwalk).1 ?_
    rcases hwas with ⟨old, hwas⟩ | hwas <;> simp [hwas]

theorem createFile (hf : fs.WellFormed) (h : ∀ m ∈ ns, IsName m)
    (hc : fs.createFile cwd (ofNames ns) = .ok fs') : fs'.WellFormed := by
  obtain ⟨front, n, dir, -, hl, hnone, rfl⟩ := createFile_eq_ok h hc
  exact hf.put hl.above.isDir hl.name hl.short (by simp [hnone])

theorem unlink (hf : fs.WellFormed) (h : ∀ m ∈ ns, IsName m)
    (hu : fs.unlink cwd (ofNames ns) = .ok fs') : fs'.WellFormed := by
  obtain ⟨front, n, dir, o, -, -, -, -, rfl⟩ := unlink_eq_ok h hu
  exact hf.removeBelow (by simp)

theorem removeDirectory (hf : fs.WellFormed) (h : ∀ m ∈ ns, IsName m)
    (hr : fs.removeDirectory cwd (ofNames ns) = .ok fs') : fs'.WellFormed := by
  obtain ⟨front, n, dir, -, -, -, -, rfl⟩ := removeDirectory_eq_ok h hr
  exact hf.removeBelow (by simp)

/-- Also a tree that could only be emptied leaves the contents of a disk. -/
theorem removeTree (hf : fs.WellFormed) (h : ∀ m ∈ ns, IsName m) :
    (fs.removeTree cwd (ofNames ns)).1.WellFormed := by
  unfold FileSystem.removeTree
  split
  · exact hf
  · dsimp only
    split
    · rename_i hr
      exact hf.clear.removeDirectory h hr
    · exact hf.clear
  · split
    · rename_i hu
      exact hf.unlink h hu
    · exact hf
  · exact hf
  · exact hf

theorem rename {ms : List Name} (hf : fs.WellFormed) (hs : ∀ m ∈ ns, IsName m)
    (ht : ∀ m ∈ ms, IsName m) (h : fs.rename cwd (ofNames ns) (ofNames ms) = .ok fs') :
    fs'.WellFormed := by
  obtain ⟨sfront, sn, sdir, tfront, tn, tdir, -, -, -, htl, hcase⟩ := rename_eq_ok hs ht h
  rcases hcase with ⟨-, rfl⟩ | ⟨⟨moved, hm⟩, rfl⟩
  · exact hf
  · exact hf.relocate (by simp) htl.above.isDir htl.name htl.short hm.not_below

end WellFormed

end FileSystem
end Scriptorium
