import Scriptorium.Proofs.FileSystem.Spelling

/-!
# Where walks lead

A walk that goes on after some steps has come to a directory by then.  `Enters` is this part of a
walk, with the links that may still be entered; it does not depend on what follows, so a walk of
a path and a walk of the path above it go the same way (`enters_of_walkFrom`, `Enters.walkFrom`).

A walk comes to a place whose ancestors are directories and no links (`IsDir`, `Spot.Settled`).
So the names of that place, walked from the root directory, lead there again, whatever way the
first walk took (`walkFrom_place`).
-/
namespace Scriptorium.FileSystem

open Scriptorium.Path

variable {fs : FileSystem} {cwd at_ dir loc : Location} {steps more rest : List Step}
variable {links links' : Nat} {follow : Bool} {n : Name} {ns ms : List Name} {spot : Spot}

/-! ## 1. One step of a walk -/

/-- Where a walk has ended: at the location of what was found, or of what could be made there. -/
def Spot.place : Spot → Location
  | .found loc _ => loc
  | .free dir n => dir ++ [n]

/-- What a walk has found. -/
def Spot.object? : Spot → Option Object
  | .found _ o => some o
  | .free _ _ => none

/-- The spot of the entry `n` of the directory `dir`. -/
def spotAt (fs : FileSystem) (dir : Location) (n : Name) : Spot :=
  match fs.object? (dir ++ [n]) with
  | some o => .found (dir ++ [n]) o
  | none => .free dir n

@[simp] theorem place_spotAt (fs : FileSystem) (dir : Location) (n : Name) :
    (spotAt fs dir n).place = dir ++ [n] := by
  unfold spotAt
  split <;> rfl

@[simp] theorem object?_spotAt (fs : FileSystem) (dir : Location) (n : Name) :
    (spotAt fs dir n).object? = fs.object? (dir ++ [n]) := by
  unfold spotAt
  split <;> simp_all [Spot.object?]

@[simp] theorem object?_found (o : Object) : (Spot.found loc o).object? = some o := rfl

/-- What a step into an entry has come to. -/
inductive IntoCases (fs : FileSystem) (follow : Bool) (links : Nat) (at_ : Location) (n : Name)
    (rest : List Step) (spot : Spot) : Prop
  /-- The walk has ended there, and there is no link that it should have entered. -/
  | ends : rest = [] → spot = spotAt fs at_ n →
      (follow = true → ∀ t, spot.object? ≠ some (.link t)) →
      IntoCases fs follow links at_ n rest spot
  | enters : fs.object? (at_ ++ [n]) = some .directory →
      walkFrom fs follow links (at_ ++ [n]) rest = .ok spot →
      IntoCases fs follow links at_ n rest spot
  | follows {t : Path} {more : Nat} : fs.object? (at_ ++ [n]) = some (.link t) → links = more + 1 →
      walkFrom fs follow more (startOf at_ t) (allStepsOf t ++ rest) = .ok spot →
      IntoCases fs follow links at_ n rest spot

/-- What stops a walk ends it in the last place. -/
theorem intoCases_of_stop (hs : spotAt fs at_ n = spot) (hl : ∀ t, spot.object? ≠ some (.link t))
    {e : OsError} {spot' : Spot} (h : (if rest = [] then .ok spot else .error e) = Except.ok spot') :
    IntoCases fs follow links at_ n rest spot' := by
  split at h
  · rename_i hr
    obtain rfl := Except.ok.inj h
    exact .ends hr hs.symm fun _ => hl
  · exact absurd h (by simp)

/-- **What a walk does with a name.** -/
theorem into_cases (h : walkFrom fs follow links at_ (.into n :: rest) = .ok spot) :
    n.length ≤ maxNameLength ∧ IntoCases fs follow links at_ n rest spot := by
  rw [walkFrom] at h
  split at h
  · exact absurd h (by simp)
  · rename_i hlen
    refine ⟨Nat.not_lt.mp hlen, ?_⟩
    split at h
    · rename_i ho
      exact intoCases_of_stop (by rw [spotAt, ho]) (by simp [Spot.object?]) h
    · rename_i ho
      exact .enters ho h
    · rename_i ho
      exact intoCases_of_stop (by rw [spotAt, ho]) (by simp) h
    · rename_i ho
      exact intoCases_of_stop (by rw [spotAt, ho]) (by simp) h
    · rename_i t ho
      split at h
      · rename_i hlast
        obtain rfl := Except.ok.inj h
        refine .ends hlast.1 (by rw [spotAt, ho]) fun hf => ?_
        exact absurd (hlast.2.symm.trans hf) (by simp)
      · cases links with
        | zero => exact absurd h (by simp)
        | succ more => exact .follows ho rfl h

/-- One step into an entry that is not to be followed. -/
theorem walkFrom_into (hl : n.length ≤ maxNameLength)
    (ho : follow = false ∨ ∀ t, fs.object? (dir ++ [n]) ≠ some (.link t)) :
    walkFrom fs follow links dir [.into n] = .ok (spotAt fs dir n) := by
  rw [walkFrom, if_neg (Nat.not_lt.mpr hl), spotAt]
  split
  · simp_all
  · rename_i hd
    simp [hd, walkFrom]
  · simp_all
  · simp_all
  · rename_i t hd
    rcases ho with rfl | ho
    · simp [hd]
    · exact absurd hd (ho t)

/-! ## 2. The part of a walk before its end -/

/-- From the directory `at_`, the steps lead to the directory `dir`; of `links` links that may be
entered, `links'` remain. -/
inductive Enters (fs : FileSystem) : Nat → Location → List Step → Nat → Location → Prop
  | done {links : Nat} {at_ : Location} : Enters fs links at_ [] links at_
  | stay {links links' : Nat} {at_ dir : Location} {rest : List Step} :
      Enters fs links at_ rest links' dir → Enters fs links at_ (.stay :: rest) links' dir
  | up {links links' : Nat} {at_ dir : Location} {rest : List Step} :
      Enters fs links at_.dropLast rest links' dir → Enters fs links at_ (.up :: rest) links' dir
  | into {links links' : Nat} {at_ dir : Location} {n : Name} {rest : List Step} :
      n.length ≤ maxNameLength → fs.object? (at_ ++ [n]) = some .directory →
      Enters fs links (at_ ++ [n]) rest links' dir →
      Enters fs links at_ (.into n :: rest) links' dir
  | follow {links links' : Nat} {at_ dir : Location} {n : Name} {t : Path} {rest : List Step} :
      n.length ≤ maxNameLength → fs.object? (at_ ++ [n]) = some (.link t) →
      Enters fs links (startOf at_ t) (allStepsOf t ++ rest) links' dir →
      Enters fs (links + 1) at_ (.into n :: rest) links' dir

/-- After the directory that some steps lead to, a walk depends on the steps that remain. -/
theorem Enters.walkFrom (h : Enters fs links at_ steps links' dir)
    (hm : more ≠ [] ∨ follow = true) :
    walkFrom fs follow links at_ (steps ++ more) = walkFrom fs follow links' dir more := by
  induction h with
  | done => rfl
  | stay _ ih => rw [List.cons_append, FileSystem.walkFrom, ih]
  | up _ ih => rw [List.cons_append, FileSystem.walkFrom, ih]
  | into hn ho _ ih =>
    rw [List.cons_append, FileSystem.walkFrom, if_neg (Nat.not_lt.mpr hn), ho]
    exact ih
  | @follow _ _ _ _ _ t rest hn ho _ ih =>
    have hlast : ¬ (rest ++ more = [] ∧ follow = false) := by
      rintro ⟨he, hf⟩
      rcases hm with hm | hm
      · exact hm (List.append_eq_nil_iff.mp he).2
      · exact absurd (hf.symm.trans hm) (by simp)
    rw [List.cons_append, FileSystem.walkFrom, if_neg (Nat.not_lt.mpr hn), ho]
    simp only [if_neg hlast]
    rw [← List.append_assoc]
    exact ih

/-- A walk of the steps finds the directory that they lead to. -/
theorem Enters.found (h : Enters fs links at_ steps links' dir) :
    FileSystem.walkFrom fs true links at_ steps = .ok (.found dir .directory) := by
  have hw : FileSystem.walkFrom fs true links at_ (steps ++ [])
      = FileSystem.walkFrom fs true links' dir [] := h.walkFrom (.inr rfl)
  rwa [List.append_nil, FileSystem.walkFrom] at hw

theorem Enters.unique {dir' : Location} {links'' : Nat} (h : Enters fs links at_ steps links' dir)
    (h' : Enters fs links at_ steps links'' dir') : dir = dir' := by
  simpa using h.found.symm.trans h'.found

/-- **A walk that goes on after some steps has come to a directory by then.** -/
theorem enters_of_walkFrom (hm : more ≠ []) :
    ∀ (links : Nat) (at_ : Location) (steps : List Step),
      walkFrom fs follow links at_ (steps ++ more) = .ok spot →
      ∃ links' dir, Enters fs links at_ steps links' dir
        ∧ walkFrom fs follow links' dir more = .ok spot
  | links, at_, [], h => ⟨links, at_, .done, h⟩
  | links, at_, .stay :: rest, h => by
    rw [List.cons_append, walkFrom] at h
    obtain ⟨links', dir, he, hw⟩ := enters_of_walkFrom hm links at_ rest h
    exact ⟨links', dir, .stay he, hw⟩
  | links, at_, .up :: rest, h => by
    rw [List.cons_append, walkFrom] at h
    obtain ⟨links', dir, he, hw⟩ := enters_of_walkFrom hm links at_.dropLast rest h
    exact ⟨links', dir, .up he, hw⟩
  | links, at_, .into n :: rest, h => by
    have hlast : rest ++ more ≠ [] := fun he => hm (List.append_eq_nil_iff.mp he).2
    rw [List.cons_append] at h
    obtain ⟨hn, hcase⟩ := into_cases h
    cases hcase with
    | ends he _ _ => exact absurd he hlast
    | enters ho hw =>
      obtain ⟨links', dir, he, hw⟩ := enters_of_walkFrom hm links (at_ ++ [n]) rest hw
      exact ⟨links', dir, .into hn ho he, hw⟩
    | @follows t next ho hlinks hw =>
      subst hlinks
      rw [← List.append_assoc] at hw
      obtain ⟨links', dir, he, hw⟩ :=
        enters_of_walkFrom hm next (startOf at_ t) (allStepsOf t ++ rest) hw
      exact ⟨links', dir, .follow hn ho he, hw⟩
termination_by links _ steps => (links, steps.length)

/-- A walk that has found a directory has come to it. -/
theorem enters_of_found :
    ∀ (links : Nat) (at_ : Location) (steps : List Step),
      walkFrom fs follow links at_ steps = .ok (.found loc .directory) →
      ∃ links', Enters fs links at_ steps links' loc
  | links, at_, [], h => by
    rw [walkFrom] at h
    obtain ⟨rfl, -⟩ := Spot.found.inj (Except.ok.inj h)
    exact ⟨links, .done⟩
  | links, at_, .stay :: rest, h => by
    rw [walkFrom] at h
    obtain ⟨links', he⟩ := enters_of_found links at_ rest h
    exact ⟨links', .stay he⟩
  | links, at_, .up :: rest, h => by
    rw [walkFrom] at h
    obtain ⟨links', he⟩ := enters_of_found links at_.dropLast rest h
    exact ⟨links', .up he⟩
  | links, at_, .into n :: rest, h => by
    obtain ⟨hn, hcase⟩ := into_cases h
    cases hcase with
    | ends hr hspot _ =>
      have hloc : loc = at_ ++ [n] := (congrArg Spot.place hspot).trans (place_spotAt fs at_ n)
      have ho : some .directory = fs.object? (at_ ++ [n]) :=
        (congrArg Spot.object? hspot).trans (object?_spotAt fs at_ n)
      subst hr hloc
      exact ⟨links, .into hn ho.symm .done⟩
    | enters ho hw =>
      obtain ⟨links', he⟩ := enters_of_found links (at_ ++ [n]) rest hw
      exact ⟨links', .into hn ho he⟩
    | @follows t next ho hlinks hw =>
      subst hlinks
      obtain ⟨links', he⟩ := enters_of_found next (startOf at_ t) (allStepsOf t ++ rest) hw
      exact ⟨links', .follow hn ho he⟩
termination_by links _ steps => (links, steps.length)

/-- Where there is more to be found, the same steps lead to the same directory. -/
theorem Enters.mono {fs' : FileSystem} (hsub : ∀ loc o, fs.object? loc = some o →
      fs'.object? loc = some o) (h : Enters fs links at_ steps links' dir) :
    Enters fs' links at_ steps links' dir := by
  induction h with
  | done => exact .done
  | stay _ ih => exact .stay ih
  | up _ ih => exact .up ih
  | into hn ho _ ih => exact .into hn (hsub _ _ ho) ih
  | follow hn ho _ ih => exact .follow hn (hsub _ _ ho) ih

/-! ## 3. Directories and places -/

/-- At `loc`, and at each location above it, there is a directory. -/
structure IsDir (fs : FileSystem) (loc : Location) : Prop where
  names : ∀ n ∈ loc, IsName n ∧ n.length ≤ maxNameLength
  directories : ∀ above, above <+: loc → fs.object? above = some .directory

@[simp] theorem object?_nil (fs : FileSystem) : fs.object? [] = some .directory := rfl

namespace IsDir

theorem root (fs : FileSystem) : IsDir fs [] where
  names n hn := absurd hn (by simp)
  directories above h := by rw [List.prefix_nil.mp h]; rfl

theorem object? (h : IsDir fs loc) : fs.object? loc = some .directory :=
  h.directories loc (List.prefix_refl loc)

theorem above (h : IsDir fs loc) (ha : dir <+: loc) : IsDir fs dir where
  names n hn := h.names n (ha.subset hn)
  directories above hp := h.directories above (hp.trans ha)

theorem dropLast (h : IsDir fs loc) : IsDir fs loc.dropLast := h.above (List.dropLast_prefix loc)

/-- A directory in a directory that can be reached can be reached, if its name is one that a walk
can take. -/
theorem concat (h : IsDir fs loc) (hn : IsName n) (hl : n.length ≤ maxNameLength)
    (ho : fs.object? (loc ++ [n]) = some .directory) : IsDir fs (loc ++ [n]) where
  names m hm := by
    rcases List.mem_append.mp hm with hm | hm
    · exact h.names m hm
    · rw [List.mem_singleton.mp hm]
      exact ⟨hn, hl⟩
  directories above hp := by
    rcases List.prefix_concat_iff.mp hp with rfl | hp
    · exact ho
    · exact h.directories above hp

/-- A directory is reached from one above it through its names. -/
theorem enters (links : Nat) : ∀ {ns : List Name} {dir : Location}, IsDir fs (dir ++ ns) →
    Enters fs links dir (ns.map .into) links (dir ++ ns)
  | [], dir, _ => by simpa using Enters.done
  | n :: ns, dir, h => by
    rw [List.append_cons] at h ⊢
    have hd := h.above (List.prefix_append (dir ++ [n]) ns)
    exact .into (h.names n (by simp)).2 hd.object? (enters links h)

end IsDir

theorem isDir_startOf (h : IsDir fs at_) (p : Path) : IsDir fs (startOf at_ p) := by
  unfold startOf
  split
  · exact .root fs
  · exact h

/-- The steps go into names only. -/
def Named (steps : List Step) : Prop := ∀ n, .into n ∈ steps → IsName n

theorem Named.tail {s : Step} (h : Named (s :: rest)) : Named rest :=
  fun n hn => h n (List.mem_cons_of_mem _ hn)

theorem Named.target {s : Step} (h : Named (s :: rest)) (t : Path) :
    Named (allStepsOf t ++ rest) := by
  intro n hn
  rcases List.mem_append.mp hn with hn | hn
  · exact isName_of_mem_allStepsOf hn
  · exact h.tail n hn

theorem named_into (h : ∀ n ∈ ns, IsName n) : Named (ns.map .into) := by
  intro n hn
  obtain ⟨m, hm, he⟩ := List.mem_map.mp hn
  exact Step.into.inj he ▸ h m hm

theorem named_allStepsOf (p : Path) : Named (allStepsOf p) := fun _ hn => isName_of_mem_allStepsOf hn

/-- The directory that a walk has come to is one, and so is each above it. -/
theorem Enters.isDir (h : Enters fs links at_ steps links' dir) (hd : IsDir fs at_)
    (hs : Named steps) : IsDir fs dir := by
  induction h with
  | done => exact hd
  | stay _ ih => exact ih hd hs.tail
  | up _ ih => exact ih hd.dropLast hs.tail
  | into hn ho _ ih => exact ih (hd.concat (hs _ List.mem_cons_self) hn ho) hs.tail
  | follow hn ho _ ih => exact ih (isDir_startOf hd _) (hs.target _)

/-- A place that a walk can end at: what is there is what was found, in a directory that is
reached through directories. -/
structure Spot.Settled (fs : FileSystem) (spot : Spot) : Prop where
  dir : IsDir fs spot.place.dropLast
  names : ∀ n ∈ spot.place, IsName n ∧ n.length ≤ maxNameLength
  object : fs.object? spot.place = spot.object?

theorem IsDir.settled (h : IsDir fs loc) : (Spot.found loc .directory).Settled fs where
  dir := h.dropLast
  names := h.names
  object := h.object?

/-- The spot of a name in a directory that can be reached is settled: the directory is there, and
the name is one that can stand in it. -/
theorem IsDir.settled_spotAt (h : IsDir fs dir) (hn : IsName n) (hl : n.length ≤ maxNameLength) :
    (spotAt fs dir n).Settled fs where
  dir := by simpa using h
  names m hm := by
    rw [place_spotAt] at hm
    rcases List.mem_append.mp hm with hm | hm
    · exact h.names m hm
    · rw [List.mem_singleton.mp hm]
      exact ⟨hn, hl⟩
  object := by simp

/-- **A walk ends at a place in a directory that is reached through directories.** -/
theorem settled_of_walkFrom :
    ∀ (links : Nat) (at_ : Location) (steps : List Step), IsDir fs at_ → Named steps →
      walkFrom fs follow links at_ steps = .ok spot →
      spot.Settled fs ∧ (follow = true → ∀ t, spot.object? ≠ some (.link t))
  | links, at_, [], hd, _, h => by
    rw [walkFrom] at h
    obtain rfl := Except.ok.inj h
    exact ⟨hd.settled, fun _ t => by simp [Spot.object?]⟩
  | links, at_, .stay :: rest, hd, hs, h => by
    rw [walkFrom] at h
    exact settled_of_walkFrom links at_ rest hd hs.tail h
  | links, at_, .up :: rest, hd, hs, h => by
    rw [walkFrom] at h
    exact settled_of_walkFrom links at_.dropLast rest hd.dropLast hs.tail h
  | links, at_, .into n :: rest, hd, hs, h => by
    have hn := hs n List.mem_cons_self
    obtain ⟨hl, hcase⟩ := into_cases h
    cases hcase with
    | ends _ he hnolink =>
      subst he
      exact ⟨hd.settled_spotAt hn hl, hnolink⟩
    | enters ho hw =>
      exact settled_of_walkFrom links (at_ ++ [n]) rest (hd.concat hn hl ho) hs.tail hw
    | @follows t next ho hlinks hw =>
      subst hlinks
      exact settled_of_walkFrom next (startOf at_ t) (allStepsOf t ++ rest) (isDir_startOf hd t)
        (hs.target t) hw
termination_by links _ steps => (links, steps.length)

/-- **The names of the place that a walk ends at lead there again.** -/
theorem walkFrom_place (links' : Nat) (hd : IsDir fs at_) (hs : Named steps)
    (h : walkFrom fs true links at_ steps = .ok spot) :
    walkFrom fs true links' [] (spot.place.map .into) = .ok spot := by
  obtain ⟨hset, hlink⟩ := settled_of_walkFrom links at_ steps hd hs h
  have henters : ∀ {loc}, IsDir fs loc → Enters fs links' [] (loc.map .into) links' loc :=
    fun hl => hl.enters links'
  cases spot with
  | found loc o =>
    rcases List.eq_nil_or_concat loc with rfl | ⟨dir, n, rfl⟩
    · obtain rfl : o = .directory := (Option.some.inj hset.object).symm
      rw [Spot.place, List.map_nil, walkFrom]
    · rw [List.concat_eq_append] at hset ⊢
      have hdir : IsDir fs dir := by simpa [Spot.place] using hset.dir
      have ho : fs.object? (dir ++ [n]) = some o := hset.object
      have hspot : spotAt fs dir n = .found (dir ++ [n]) o := by simp [spotAt, ho]
      rw [Spot.place, List.map_append, (henters hdir).walkFrom (.inr rfl), ← hspot]
      refine walkFrom_into (hset.names n (by simp [Spot.place])).2 (.inr fun t ht => ?_)
      exact hlink rfl t (congrArg some (Option.some.inj (ho.symm.trans ht)))
  | free dir n =>
    have hdir : IsDir fs dir := by simpa [Spot.place] using hset.dir
    have ho : fs.object? (dir ++ [n]) = none := hset.object
    have hspot : spotAt fs dir n = .free dir n := by simp [spotAt, ho]
    rw [Spot.place, List.map_append, (henters hdir).walkFrom (.inr rfl), ← hspot]
    exact walkFrom_into (hset.names n (by simp [Spot.place])).2 (.inr fun t => by simp [ho])

/-! ## 4. Walks of spelled paths -/

theorem walk_eq_ok {p : Path} : fs.walk cwd follow p = .ok spot
    ↔ passable p = .ok ()
      ∧ walkFrom fs follow maxLinks (startOf cwd p) (allStepsOf p) = .ok spot := by
  unfold walk
  cases passable p <;> simp [bind, Except.bind]

@[simp] theorem startOf_ofNames (cwd : Location) (ns : List Name) :
    startOf cwd (ofNames ns) = [] := by
  simp [startOf]

/-- The steps of a spelling are its names, the one that stays at the root apart. -/
theorem walkFrom_ofNames (h : ∀ n ∈ ns, IsName n) :
    walkFrom fs follow links at_ (allStepsOf (ofNames ns))
      = walkFrom fs follow links at_ (ns.map .into) := by
  rw [allStepsOf_ofNames h]
  split
  · rename_i hns
    rw [hns, walkFrom]
    rfl
  · rfl

theorem walk_ofNames (h : ∀ n ∈ ns, IsName n) : fs.walk cwd follow (ofNames ns) = .ok spot
    ↔ passable (ofNames ns) = .ok ()
      ∧ walkFrom fs follow maxLinks [] (ns.map .into) = .ok spot := by
  rw [walk_eq_ok, startOf_ofNames, walkFrom_ofNames h]

theorem settled_of_walk (h : ∀ n ∈ ns, IsName n)
    (hw : fs.walk cwd follow (ofNames ns) = .ok spot) :
    spot.Settled fs ∧ (follow = true → ∀ t, spot.object? ≠ some (.link t)) :=
  settled_of_walkFrom _ _ _ (.root fs) (named_into h) ((walk_ofNames h).mp hw).2

/-- The path from the root directory through `ns` leads to the directory `dir`. -/
structure LeadsTo (fs : FileSystem) (ns : List Name) (dir : Location) : Prop where
  names : ∀ m ∈ ns, IsName m
  enters : ∃ links, Enters fs maxLinks [] (ns.map .into) links dir

namespace LeadsTo

theorem isDir (h : LeadsTo fs ns dir) : IsDir fs dir := by
  obtain ⟨links, he⟩ := h.enters
  exact he.isDir (.root fs) (named_into h.names)

theorem walkFrom (h : LeadsTo fs ns dir) :
    FileSystem.walkFrom fs true maxLinks [] (ns.map .into) = .ok (.found dir .directory) := by
  obtain ⟨links, he⟩ := h.enters
  exact he.found

theorem unique {dir' : Location} (h : LeadsTo fs ns dir) (h' : LeadsTo fs ns dir') :
    dir = dir' := by
  simpa using h.walkFrom.symm.trans h'.walkFrom

theorem walk (h : LeadsTo fs ns dir) (cwd : Location) (hp : passable (ofNames ns) = .ok ()) :
    fs.walk cwd true (ofNames ns) = .ok (.found dir .directory) :=
  (walk_ofNames h.names).mpr ⟨hp, h.walkFrom⟩

theorem mono {fs' : FileSystem} (h : LeadsTo fs ns dir)
    (hsub : ∀ loc o, fs.object? loc = some o → fs'.object? loc = some o) : LeadsTo fs' ns dir := by
  obtain ⟨links, he⟩ := h.enters
  exact ⟨h.names, links, he.mono hsub⟩

/-- What is found of the next name in the directory, unless it is a link to follow. -/
theorem walk_entry (h : LeadsTo fs ns dir) (cwd : Location) (hn : IsName n)
    (hl : n.length ≤ maxNameLength) (hp : passable (ofNames (ns ++ [n])) = .ok ())
    (ho : follow = false ∨ ∀ t, fs.object? (dir ++ [n]) ≠ some (.link t)) :
    fs.walk cwd follow (ofNames (ns ++ [n])) = .ok (spotAt fs dir n) := by
  obtain ⟨links, he⟩ := h.enters
  refine (walk_ofNames ?_).mpr ⟨hp, ?_⟩
  · intro m hm
    rcases List.mem_append.mp hm with hm | hm
    · exact h.names m hm
    · exact List.mem_singleton.mp hm ▸ hn
  · rw [List.map_append, he.walkFrom (.inl (by simp))]
    exact walkFrom_into hl ho

end LeadsTo

/-- **A walk that goes on below a path has come to a directory there**, and a walk of that path
ends at it. -/
theorem leadsTo_of_walk (h : ∀ n ∈ ns ++ ms, IsName n) (hms : ms ≠ [])
    (hw : fs.walk cwd follow (ofNames (ns ++ ms)) = .ok spot) :
    ∃ dir, LeadsTo fs ns dir ∧ passable (ofNames ns) = .ok () := by
  obtain ⟨hp, hw⟩ := (walk_ofNames h).mp hw
  rw [List.map_append] at hw
  obtain ⟨links, dir, he, -⟩ := enters_of_walkFrom (by simpa using hms) _ _ _ hw
  exact ⟨dir, ⟨fun n hn => h n (List.mem_append_left _ hn), links, he⟩, passable_ofNames h hp⟩

/-! ## 5. The last entry of a path -/

/-- The path through `ns` and `n` asks for the entry `n` of the directory `dir`. -/
structure LastEntry (fs : FileSystem) (ns : List Name) (n : Name) (dir : Location) : Prop where
  above : LeadsTo fs ns dir
  name : IsName n
  short : n.length ≤ maxNameLength
  passable : FileSystem.passable (ofNames (ns ++ [n])) = .ok ()

namespace LastEntry

theorem names (h : LastEntry fs ns n dir) : ∀ m ∈ ns ++ [n], IsName m := by
  intro m hm
  rcases List.mem_append.mp hm with hm | hm
  · exact h.above.names m hm
  · exact List.mem_singleton.mp hm ▸ h.name

/-- A walk that does not follow its last entry ends there. -/
theorem walk (h : LastEntry fs ns n dir) (cwd : Location) :
    fs.walk cwd false (ofNames (ns ++ [n])) = .ok (spotAt fs dir n) :=
  h.above.walk_entry cwd h.name h.short h.passable (.inl rfl)

/-- A walk ends at its last entry if that is no link. -/
theorem walk_of_no_link (h : LastEntry fs ns n dir) (cwd : Location)
    (ho : ∀ t, fs.object? (dir ++ [n]) ≠ some (.link t)) :
    fs.walk cwd true (ofNames (ns ++ [n])) = .ok (spotAt fs dir n) :=
  h.above.walk_entry cwd h.name h.short h.passable (.inr ho)

end LastEntry

/-- **A walk comes by the last entry of its path.** -/
theorem lastEntry_of_walk (h : ∀ m ∈ ns ++ [n], IsName m)
    (hw : fs.walk cwd follow (ofNames (ns ++ [n])) = .ok spot) : ∃ dir, LastEntry fs ns n dir := by
  obtain ⟨hp, hw⟩ := (walk_ofNames h).mp hw
  rw [List.map_append] at hw
  obtain ⟨links, dir, he, hstep⟩ := enters_of_walkFrom (by simp) _ _ _ hw
  refine ⟨dir, ⟨fun m hm => h m (List.mem_append_left _ hm), links, he⟩, h n (by simp), ?_, hp⟩
  refine Nat.not_lt.mp fun hl => ?_
  rw [List.map_singleton, walkFrom, if_pos hl] at hstep
  exact absurd hstep (by simp)

/-- One name more leads to the entry of the directory, unless that is a link. -/
theorem walk_concat (h : ∀ m ∈ ns ++ [n], IsName m) {o : Object}
    (hdir : fs.walk cwd true (ofNames ns) = .ok (.found dir o))
    (ho : ∀ t, fs.object? (dir ++ [n]) ≠ some (.link t))
    (hw : fs.walk cwd true (ofNames (ns ++ [n])) = .ok spot) : spot = spotAt fs dir n := by
  obtain ⟨dir', hl⟩ := lastEntry_of_walk h hw
  have hdir' := hl.above.walk cwd (passable_ofNames h hl.passable)
  obtain ⟨rfl, -⟩ : dir = dir' ∧ o = .directory := by simpa using hdir.symm.trans hdir'
  exact Except.ok.inj (hw.symm.trans (hl.walk_of_no_link cwd ho))

/-- The place that an operation on an entry works at: the last name of the path, in the directory
that the names before it lead to. -/
theorem parentOf_ofNames (h : ∀ m ∈ ns ++ [n], IsName m) {place : Place} :
    fs.parentOf cwd (ofNames (ns ++ [n])) = .ok place
      ↔ passable (ofNames (ns ++ [n])) = .ok () ∧ LeadsTo fs ns place.dir
        ∧ place.last = .into n ∧ place.slashed = false := by
  have hsteps : stepsOf (ofNames (ns ++ [n])) = ns.map .into ++ [.into n] := by
    rw [stepsOf_ofNames h]
    simp
  have hslash : (ofNames (ns ++ [n])).endsInSlash = false := by
    rw [endsInSlash_ofNames h]
    simp
  have hns : ∀ m ∈ ns, IsName m := fun m hm => h m (List.mem_append_left _ hm)
  unfold parentOf
  simp only [hsteps, hslash, startOf_ofNames, List.getLast?_concat, List.dropLast_concat]
  cases passable (ofNames (ns ++ [n])) with
  | error e => simp [bind, Except.bind]
  | ok u =>
    simp only [bind, Except.bind, true_and]
    constructor
    · intro hp
      cases hw : walkFrom fs true maxLinks [] (ns.map .into ++ [.stay]) with
      | error e => simp [hw] at hp
      | ok spot =>
        obtain ⟨links, dir, he, hstay⟩ := enters_of_walkFrom (by simp) _ _ _ hw
        rw [walkFrom, walkFrom] at hstay
        obtain rfl := Except.ok.inj hstay
        rw [hw] at hp
        obtain rfl := Except.ok.inj hp
        exact ⟨⟨hns, links, he⟩, rfl, rfl⟩
    · rintro ⟨⟨-, links, he⟩, hlast, hslashed⟩
      rw [he.walkFrom (.inl (by simp)), walkFrom, walkFrom]
      obtain ⟨dir, last, slashed⟩ := place
      simp only at hlast hslashed ⊢
      rw [hlast, hslashed]
      rfl

theorem LastEntry.parentOf (h : LastEntry fs ns n dir) (cwd : Location) :
    fs.parentOf cwd (ofNames (ns ++ [n])) = .ok ⟨dir, .into n, false⟩ :=
  (parentOf_ofNames h.names).mpr ⟨h.passable, h.above, rfl, rfl⟩

end Scriptorium.FileSystem
