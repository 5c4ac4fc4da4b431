import Scriptorium.Proofs.FileSystem.Entry
import Scriptorium.Proofs.FileSystem.Operations

/-!
# The last name of a path

The operations that remove an entry are about the last name of their path.  Slashes and dots may
come behind that name, which are steps that stay (`stepsOf_last`); with them a link of that name is
followed even by a walk that follows no last link.

`Asks` says which entry it is: the names before the last one lead to its directory, through links as
may be.  An operation that removes an entry works there (`last_of_parentOf`), also if the files have
become fewer in the meantime.  What is found at the path is that entry, unless the entry is a link
and steps that stay come behind its name (`find_of_asks`).
-/
namespace Scriptorium

namespace Path

variable {p q : Path} {n : Name} {cs : List Component}

/-! ## 1. Components and steps -/

/-- The last component of a path is a name if its last piece that is not empty is one; the root and
slashes at the end do not matter. -/
theorem getLast?_components : p.components.getLast? = some (.name n)
    ↔ (p.pieces.filterMap Component.ofPiece?).getLast? = some (.name n) := by
  obtain ⟨opening, hc, hopening⟩ := exists_opening p
  rw [hc, List.getLast?_append]
  constructor
  · intro h
    rcases Option.or_eq_some_iff.mp h with h | ⟨-, h⟩
    · exact h
    · exact absurd (List.mem_of_getLast? h) (hopening n)
  · intro h
    rw [h, Option.some_or]

/-- Behind the last name of a path there are only empty pieces and dots. -/
theorem pieces_last (h : p.components.getLast? = some (.name n)) :
    ∃ front back, p.pieces = front ++ n :: back
      ∧ ∀ piece ∈ back, piece = [] ∨ piece = [dot] := by
  obtain ⟨before, hbefore⟩ := List.getLast?_eq_some_iff.mp (getLast?_components.mp h)
  obtain ⟨front, rest, hpieces, -, hrest⟩ := List.filterMap_eq_append_iff.mp hbefore
  obtain ⟨skipped, piece, back, rfl, -, hpiece, hback⟩ := List.filterMap_eq_cons_iff.mp hrest
  obtain ⟨rfl, -⟩ := ofPiece?_eq_name hpiece
  refine ⟨front ++ skipped, back, by rw [hpieces, List.append_assoc], ?_⟩
  intro b hb
  have hnone := List.filterMap_eq_nil_iff.mp hback b hb
  unfold Component.ofPiece? at hnone
  split at hnone
  · assumption
  · split at hnone <;> exact absurd hnone (by simp)

/-- A path behind another keeps its pieces. -/
theorem pieces_join (p q : Path) : ∃ front, (p.join q).pieces = front ++ q.pieces := by
  rw [join]
  split
  · exact ⟨[], rfl⟩
  · split
    · rename_i hslash
      obtain ⟨bs, hbs⟩ : ∃ bs, p.bytes = bs ++ [slash] :=
        List.getLast?_eq_some_iff.mp (by simpa [endsInSlash] using hslash)
      refine ⟨pieces ⟨bs⟩, ?_⟩
      rw [hbs, List.append_assoc]
      exact pieces_append bs q.bytes
    · exact ⟨p.pieces, pieces_append p.bytes q.bytes⟩

/-- A path ends in the same name wherever it is seen from. -/
theorem getLast?_join (h : q.components.getLast? = some (.name n)) :
    (p.join q).components.getLast? = some (.name n) := by
  obtain ⟨front, hpieces⟩ := pieces_join p q
  rw [getLast?_components] at h ⊢
  rw [hpieces, List.filterMap_append, List.getLast?_append, h, Option.some_or]

/-- Folding leaves a name in the last place. -/
theorem getLast?_folded (h : p.components.getLast? = some (.name n)) :
    p.folded.components.getLast? = some (.name n) := by
  obtain ⟨before, hbefore⟩ := List.getLast?_eq_some_iff.mp h
  rw [components_of_folded, foldComponents, hbefore, List.foldl_append]
  simp [foldStep]

/-- A folded path that ends in a name is that of an entry. -/
theorem IsFolded.eq_entry (hq : IsFolded q) (h : q.components.getLast? = some (.name n)) :
    ∃ above : Path, IsName n ∧ q = above.entry n := by
  obtain ⟨cs, hcs⟩ := List.getLast?_eq_some_iff.mp h
  refine ⟨ofComponents cs, isName_of_mem_components (List.mem_of_getLast? h), ?_⟩
  rw [← ofComponents_concat, ← hcs, hq.spelling]

end Path

namespace FileSystem

open Scriptorium.Path

variable {fs fs' : FileSystem} {cwd dir loc : Location} {p : Path} {n : Name}
variable {o : Object} {front back rest : List Step} {links : Nat} {follow : Bool}
variable {spot : Spot}

/-- Behind the step into the last name of a path there are only steps that stay. -/
theorem stepsOf_last (h : p.components.getLast? = some (.name n)) :
    ∃ front back, stepsOf p = front ++ .into n :: back ∧ ∀ s ∈ back, s = .stay := by
  obtain ⟨before, after, hpieces, hafter⟩ := pieces_last h
  have hn : IsName n := isName_of_mem_components (List.mem_of_getLast? h)
  refine ⟨before.filterMap Step.ofPiece?, after.filterMap Step.ofPiece?, ?_, ?_⟩
  · rw [stepsOf, hpieces, List.filterMap_append, List.filterMap_cons, Step.ofPiece?_of_isName hn]
  · intro s hs
    obtain ⟨piece, hm, hs⟩ := List.mem_filterMap.mp hs
    rcases hafter piece hm with rfl | rfl
    · exact absurd hs (by simp [Step.ofPiece?])
    · simpa [Step.ofPiece?] using hs.symm

/-- A slash behind the path is one more step that stays. -/
theorem allStepsOf_last (hsteps : stepsOf p = front ++ .into n :: back)
    (hstay : ∀ s ∈ back, s = .stay) :
    ∃ rest, allStepsOf p = front ++ .into n :: rest ∧ ∀ s ∈ rest, s = .stay := by
  refine ⟨back ++ if p.endsInSlash then [.stay] else [], ?_, ?_⟩
  · rw [allStepsOf, hsteps]
    simp
  · intro s hs
    rcases List.mem_append.mp hs with hs | hs
    · exact hstay s hs
    · split at hs
      · exact List.mem_singleton.mp hs
      · exact absurd hs (by simp)

/-! ## 2. The entry that a path asks for -/

/-- The path asks for the entry `n` of the directory `dir`: that is where the steps before the last
name lead, and none of those behind it leads on. -/
def Asks (fs : FileSystem) (cwd : Location) (p : Path) (dir : Location) (n : Name) : Prop :=
  ∃ front back links, stepsOf p = front ++ .into n :: back ∧ (∀ s ∈ back, s = .stay)
    ∧ Enters fs maxLinks (startOf cwd p) front links dir

theorem walkFrom_stay (h : ∀ s ∈ rest, s = .stay) :
    walkFrom fs follow links dir rest = .ok (.found dir .directory) := by
  induction rest with
  | nil => rw [walkFrom]
  | cons s rest ih =>
    obtain rfl := h s List.mem_cons_self
    rw [walkFrom]
    exact ih fun t ht => h t (List.mem_cons_of_mem _ ht)

/-- A walk of a path that ends in a name comes by the entry that the path asks for. -/
theorem asks_of_walk (hn : p.components.getLast? = some (.name n))
    (hw : fs.walk cwd follow p = .ok spot) : ∃ dir, Asks fs cwd p dir n := by
  obtain ⟨front, back, hsteps, hstay⟩ := stepsOf_last hn
  obtain ⟨rest, hall, -⟩ := allStepsOf_last hsteps hstay
  obtain ⟨-, hw⟩ := walk_eq_ok.mp hw
  rw [hall] at hw
  obtain ⟨links, dir, he, -⟩ := enters_of_walkFrom (by simp) _ _ _ hw
  exact ⟨dir, front, back, links, hsteps, hstay, he⟩

/-- Something comes behind the last name of the path: a slash, or a slash and a dot. -/
def Slashed (p : Path) : Prop := (allStepsOf p).getLast? = some .stay

/-- The path asks for the link at `loc`, and leads on to the directory `target` even where a link in
the last place is not to be followed. -/
def LedAway (fs : FileSystem) (cwd : Location) (p : Path) (loc target : Location) : Prop :=
  (∃ t, fs.object? loc = some (.link t)) ∧ fs.find cwd false p = .ok (target, .directory)

/-- **What is found at a path is the entry that it asks for**, unless that is a link and the path
leads away by it. -/
theorem find_of_asks (ha : Asks fs cwd p dir n) (hf : fs.find cwd false p = .ok (loc, o)) :
    (loc = dir ++ [n] ∧ fs.object? (dir ++ [n]) = some o)
      ∨ (o = .directory ∧ LedAway fs cwd p (dir ++ [n]) loc ∧ Slashed p) := by
  obtain ⟨front, back, links, hsteps, hstay, he⟩ := ha
  obtain ⟨rest, hall, hrest⟩ := allStepsOf_last hsteps hstay
  have hwalk := (walk_eq_ok.mp (find_eq_ok.mp hf)).2
  rw [hall, he.walkFrom (.inl (by simp))] at hwalk
  obtain ⟨hlength, hcase⟩ := into_cases hwalk
  rcases List.eq_nil_or_concat rest with rfl | ⟨stays, s, rfl⟩
  · -- nothing comes behind the name, and a link is not followed
    left
    rw [walkFrom_into hlength (.inl rfl)] at hwalk
    have hspot := Except.ok.inj hwalk
    constructor
    · rw [← place_spotAt fs dir n, hspot]
      rfl
    · rw [← object?_spotAt, hspot]
      rfl
  · rw [List.concat_eq_append] at hall hrest hcase
    cases hcase with
    | ends hr _ _ => exact absurd hr (by simp)
    | enters ho hw =>
      rw [walkFrom_stay hrest] at hw
      obtain ⟨rfl, rfl⟩ := Spot.found.inj (Except.ok.inj hw)
      exact .inl ⟨rfl, ho⟩
    | @follows t more ho hlinks hw =>
      obtain ⟨_, target, -, hw⟩ := enters_of_walkFrom (by simp) _ _ _ hw
      rw [walkFrom_stay hrest] at hw
      obtain ⟨rfl, rfl⟩ := Spot.found.inj (Except.ok.inj hw)
      refine .inr ⟨rfl, ⟨⟨t, ho⟩, hf⟩, ?_⟩
      rw [Slashed, hall, hrest s (by simp), List.append_cons, ← List.append_assoc,
        List.getLast?_concat]

theorem not_slashed_entry (p : Path) (hn : IsName n) : ¬ Slashed (p.entry n) := by
  rw [Slashed, allStepsOf_entry p hn, List.getLast?_concat]
  simp

/-! ## 3. Removing it -/

/-- **An operation on an entry works at the one that the path asks for**, also when the files have
become fewer, and only if nothing comes behind the last name. -/
theorem last_of_parentOf {place : Place} (ha : Asks fs cwd p dir n)
    (hsub : ∀ l o, fs'.object? l = some o → fs.object? l = some o)
    (hp : fs'.parentOf cwd p = .ok place) :
    place.last = .stay ∨ place.dir = dir ∧ place.last = .into n := by
  obtain ⟨front, back, links, hsteps, hstay, he⟩ := ha
  obtain ⟨_, -, hp⟩ := bind_eq_ok.mp hp
  rcases List.eq_nil_or_concat back with rfl | ⟨stays, s, rfl⟩
  · have hlast : (stepsOf p).getLast? = some (.into n) := by rw [hsteps, List.getLast?_concat]
    have hfront : (stepsOf p).dropLast = front := by rw [hsteps, List.dropLast_concat]
    simp only [hlast, hfront] at hp
    obtain ⟨spot, hw, hp⟩ := bind_eq_ok.mp hp
    obtain ⟨_, dir', he', hw⟩ := enters_of_walkFrom (by simp) _ _ _ hw
    rw [walkFrom, walkFrom] at hw
    obtain rfl := Except.ok.inj hw
    obtain rfl := Except.ok.inj hp
    exact .inr ⟨(he'.mono hsub).unique he, rfl⟩
  · rw [List.concat_eq_append] at hsteps hstay
    have hlast : (stepsOf p).getLast? = some .stay := by
      rw [hsteps, hstay s (by simp), List.append_cons, ← List.append_assoc, List.getLast?_concat]
    simp only [hlast] at hp
    obtain ⟨spot, hw, hp⟩ := bind_eq_ok.mp hp
    left
    cases spot with
    | found l o =>
      rw [← Except.ok.inj hp]
      rfl
    | free d m => exact absurd hp (by simp)

/-- Unlinking takes away the entry that the last name of the path stands for, in the directory that
the rest of the path leads to, and nothing else. -/
theorem unlink_of_asks (ha : Asks fs cwd p dir n) (hu : fs.unlink cwd p = .ok fs') :
    (fs.object? (dir ++ [n])).isSome = true ∧ fs' = fs.removeBelow (dir ++ [n]) := by
  obtain ⟨place, hp, hu⟩ := bind_eq_ok.mp hu
  rcases last_of_parentOf ha (fun _ _ h => h) hp with hlast | ⟨hdir, hlast⟩
  · rw [hlast] at hu
    exact absurd hu (by simp)
  · rw [hlast, hdir] at hu
    obtain ⟨there, he, hu⟩ := bind_eq_ok.mp hu
    obtain ⟨-, rfl⟩ := entry?_eq_ok he
    split at hu
    · exact absurd hu (by simp)
    · exact absurd hu (by simp)
    · rename_i ho
      split at hu
      · exact absurd hu (by simp)
      · exact ⟨by rw [ho]; rfl, (Except.ok.inj hu).symm⟩

/-- A directory that is removed is the entry that the path asks for. -/
theorem removeDirectory_of_asks (ha : Asks fs cwd p dir n)
    (hr : (fs.clear loc).removeDirectory cwd p = .ok fs') :
    fs.object? (dir ++ [n]) = some .directory ∧ fs' = (fs.clear loc).removeBelow (dir ++ [n]) := by
  obtain ⟨place, hp, hr⟩ := bind_eq_ok.mp hr
  rcases last_of_parentOf ha (fun _ _ => object?_of_clear) hp with hlast | ⟨hdir, hlast⟩
  · rw [hlast] at hr
    exact absurd hr (by simp)
  · rw [hlast, hdir] at hr
    obtain ⟨there, he, hr⟩ := bind_eq_ok.mp hr
    obtain ⟨-, rfl⟩ := entry?_eq_ok he
    split at hr
    · exact absurd hr (by simp)
    · rename_i ho
      split at hr
      · exact ⟨object?_of_clear ho, (Except.ok.inj hr).symm⟩
      · exact absurd hr (by simp)
    · exact absurd hr (by simp)

end FileSystem
end Scriptorium
