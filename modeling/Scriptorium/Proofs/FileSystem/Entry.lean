import Scriptorium.Proofs.FileSystem.Walk

/-!
# The entries of a directory, as paths

A listing names each entry by the path of its directory with the entry's name behind it
(`Path.entry`).  Whatever way the directory was spelled, such a path has the components and the
steps of the directory and one more (`components_entry`, `stepsOf_entry`).  So a walk of it goes
the way of the directory, and on from there (`walk_entry`), and a path that was folded stays as it
is (`IsFolded.entry`).
-/
namespace Scriptorium

namespace Path

variable {p q root : Path} {n : Name} {cs : List Component}

/-! ## 1. Pieces and components -/

/-- The path of an entry begins where the path of its directory does. -/
theorem isAbsolute_entry (p : Path) (hn : IsName n) : (p.entry n).isAbsolute = p.isAbsolute := by
  obtain ⟨bs⟩ := p
  have hname := not_isAbsolute_of_no_slash hn.no_slash
  cases bs with
  | nil =>
    rw [entry, join, if_pos (.inr rfl)]
    exact hname
  | cons b bs =>
    rw [entry, join, if_neg (by simp [hname])]
    split <;> rfl

/-- The pieces of an entry: its name behind those of the directory, of which a last one that a slash
leaves empty is not counted. -/
theorem pieces_entry (p : Path) (hn : IsName n) :
    ∃ front, (p.entry n).pieces = front ++ [n] ∧ (p.pieces = front ∨ p.pieces = front ++ [[]]) := by
  obtain ⟨bs⟩ := p
  have hname := not_isAbsolute_of_no_slash hn.no_slash
  rw [entry, join]
  by_cases hbs : bs = []
  · subst hbs
    refine ⟨[], ?_, .inr rfl⟩
    rw [if_pos (.inr rfl), List.nil_append, pieces, splitFrom_of_no_slash hn.no_slash]
    rfl
  · rw [if_neg (by simp [hname, hbs])]
    split
    · rename_i hslash
      obtain ⟨front, rfl⟩ : ∃ front, bs = front ++ [slash] :=
        List.getLast?_eq_some_iff.mp (by simpa [endsInSlash] using hslash)
      refine ⟨pieces ⟨front⟩, ?_, .inr (pieces_concat (by simp) front)⟩
      rw [List.append_assoc]
      exact pieces_concat hn.no_slash front
    · exact ⟨_, pieces_concat hn.no_slash bs, .inl rfl⟩

/-- What the pieces of an entry ask for, where an empty piece asks for nothing. -/
theorem filterMap_pieces_entry {α : Type} {f : Bytes → Option α} {a : α} (p : Path) (hn : IsName n)
    (hnil : f [] = none) (ha : f n = some a) :
    (p.entry n).pieces.filterMap f = p.pieces.filterMap f ++ [a] := by
  obtain ⟨front, hentry, hp⟩ := pieces_entry p hn
  rw [hentry, List.filterMap_append]
  rcases hp with hp | hp
  · rw [hp]
    simp [ha]
  · rw [hp, List.filterMap_append]
    simp [ha, hnil]

/-- Whether a path opens with a dot is not changed by a name behind it. -/
theorem head?_pieces_entry (p : Path) (hn : IsName n) :
    (p.entry n).pieces.head? = some [dot] ↔ p.pieces.head? = some [dot] := by
  obtain ⟨front, hentry, hp⟩ := pieces_entry p hn
  rw [hentry]
  cases front with
  | nil =>
    have hnot : p.pieces.head? ≠ some [dot] := by
      rcases hp with hp | hp <;> simp [hp]
    simpa [hnot] using hn.ne_dot
  | cons piece front => rcases hp with hp | hp <;> simp [hp]

/-- **An entry has the components of its directory and one more.** -/
theorem components_entry (p : Path) (hn : IsName n) :
    (p.entry n).components = p.components ++ [.name n] := by
  have hpieces := filterMap_pieces_entry p hn (f := Component.ofPiece?)
    (by simp [Component.ofPiece?])
    (ofPiece?_of_isName hn)
  simp only [components, isAbsolute_entry p hn, head?_pieces_entry p hn, hpieces, List.append_assoc]

theorem bytes_entry_ne_nil (p : Path) (hn : IsName n) : (p.entry n).bytes ≠ [] := by
  intro he
  have hempty : p.entry n = ⟨[]⟩ := congrArg Path.mk he
  have hc := components_entry p hn
  rw [hempty] at hc
  exact absurd hc.symm (by simp [components, isAbsolute, pieces, splitFrom, Component.ofPiece?])

theorem startsWith_entry (hn : IsName n) (h : p.startsWith root = true) :
    (p.entry n).startsWith root = true := by
  rw [startsWith, List.isPrefixOf_iff_prefix] at h ⊢
  rw [components_entry p hn]
  exact h.trans (List.prefix_append _ _)

/-- The path through some names, from a directory down. -/
def below (p : Path) (ns : List Name) : Path := ns.foldl Path.entry p

@[simp] theorem below_nil (p : Path) : p.below [] = p := rfl

theorem below_cons (p : Path) (n : Name) (ns : List Name) :
    p.below (n :: ns) = (p.entry n).below ns := rfl

theorem below_concat (p : Path) (ns : List Name) (n : Name) :
    p.below (ns ++ [n]) = (p.below ns).entry n := by
  simp [below]

theorem components_below (p : Path) {ns : List Name} (h : ∀ n ∈ ns, IsName n) :
    (p.below ns).components = p.components ++ ns.map .name := by
  induction ns generalizing p with
  | nil => simp
  | cons n ns ih =>
    rw [below_cons, ih _ fun m hm => h m (List.mem_cons_of_mem _ hm),
      components_entry p (h n List.mem_cons_self)]
    simp

/-- Different names lead to different paths. -/
theorem below_inj {ns ms : List Name} (hn : ∀ n ∈ ns, IsName n) (hm : ∀ m ∈ ms, IsName m)
    (h : p.below ns = p.below ms) : ns = ms := by
  have hc := congrArg components h
  rw [components_below p hn, components_below p hm] at hc
  exact List.map_injective_iff.mpr (fun _ _ => Component.name.inj) (List.append_cancel_left hc)

theorem bytes_prefix_entry (p : Path) (hn : IsName n) : p.bytes <+: (p.entry n).bytes := by
  have hname := not_isAbsolute_of_no_slash hn.no_slash
  rw [entry, join]
  split
  · rename_i h
    rcases h with h | h
    · exact absurd (hname.symm.trans h) (by simp)
    · exact h ▸ List.nil_prefix
  · split <;> exact List.prefix_append _ _

theorem bytes_prefix_below (p : Path) {ns : List Name} (h : ∀ n ∈ ns, IsName n) :
    p.bytes <+: (p.below ns).bytes := by
  induction ns generalizing p with
  | nil => exact List.prefix_refl _
  | cons n ns ih =>
    exact (bytes_prefix_entry p (h n List.mem_cons_self)).trans
      (ih _ fun m hm => h m (List.mem_cons_of_mem _ hm))

/-! ## 2. Folded paths -/

/-- The path has no dots, and is spelled as plainly as can be. -/
structure IsFolded (p : Path) : Prop where
  plain : Plain p.components
  spelling : ofComponents p.components = p

theorem ofComponents_concat (cs : List Component) (n : Name) :
    ofComponents (cs ++ [.name n]) = (ofComponents cs).entry n := by
  simp [ofComponents, entry, Component.spelling]

/-- Reading a plain spelling gives the components back. -/
theorem components_ofComponents (h : Plain cs) (hn : ∀ n, .name n ∈ cs → IsName n) :
    (ofComponents cs).components = cs := by
  have names (base : List Component) (hbase : (ofComponents base).components = base)
      (ns : List Name) (hns : ∀ n ∈ ns, IsName n) :
      (ofComponents (base ++ ns.map .name)).components = base ++ ns.map .name := by
    induction ns using List.reverseRecOn with
    | nil => simpa using hbase
    | append_singleton ns n ih =>
      rw [List.map_append, List.map_singleton, ← List.append_assoc, ofComponents_concat,
        components_entry _ (hns n (by simp)), ih fun m hm => hns m (by simp [hm])]
  obtain ⟨ns, rfl | rfl⟩ := h
  · exact names [] rfl ns fun n hm => hn n (by simp [hm])
  · exact names [.root] rfl ns fun n hm => hn n (by simp [hm])

/-- Folding makes up no names: each one that is left was in the path. -/
theorem mem_foldl_foldStep {before : List Component}
    (h : .name n ∈ cs.foldl foldStep before) : .name n ∈ before ∨ .name n ∈ cs := by
  induction cs generalizing before with
  | nil => exact .inl h
  | cons c cs ih =>
    rcases ih h with h | h
    · cases c with
      | root => exact absurd h (by simp [foldStep])
      | here => exact .inl h
      | name m =>
        rcases List.mem_cons.mp h with h | h
        · exact .inr (h ▸ List.mem_cons_self)
        · exact .inl h
      | up =>
        simp only [foldStep] at h
        split at h
        · exact .inl (List.mem_cons_of_mem _ h)
        · exact .inl h
    · exact .inr (List.mem_cons_of_mem _ h)

/-- The components of a folded path are the folded ones, relative paths included. -/
theorem components_of_folded (p : Path) : p.folded.components = foldComponents p.components := by
  refine components_ofComponents (foldComponents_plain _) fun n hm => ?_
  rcases mem_foldl_foldStep (List.mem_reverse.mp hm) with h | h
  · exact absurd h (by simp)
  · exact isName_of_mem_components h

theorem isFolded_folded (p : Path) : IsFolded p.folded where
  plain := components_of_folded p ▸ foldComponents_plain _
  spelling := by rw [components_of_folded]; rfl

theorem isFolded_ofNames {ns : List Name} (h : ∀ n ∈ ns, IsName n) : IsFolded (ofNames ns) where
  plain := ⟨ns, .inr (components_ofNames h)⟩
  spelling := by rw [components_ofNames h]; rfl

namespace IsFolded

theorem folded_eq (h : IsFolded p) : p.folded = p := by
  rw [Path.folded, foldComponents_of_plain h.plain, h.spelling]

theorem spelling_entry (h : IsFolded p) (n : Name) :
    ofComponents (p.components ++ [.name n]) = p.entry n := by
  rw [ofComponents_concat, h.spelling]

/-- **A name behind a folded path leaves it folded.** -/
theorem entry (h : IsFolded p) (hn : IsName n) : IsFolded (p.entry n) where
  plain := by
    rw [components_entry p hn]
    obtain ⟨ns, hc | hc⟩ := h.plain
    · exact ⟨ns ++ [n], .inl (by simp [hc])⟩
    · exact ⟨ns ++ [n], .inr (by simp [hc])⟩
  spelling := by rw [components_entry p hn, h.spelling_entry n]

end IsFolded

end Path

namespace FileSystem

open Scriptorium.Path

variable {fs : FileSystem} {cwd loc : Location} {p : Path} {n : Name} {o o' : Object} {spot : Spot}
variable {follow : Bool}

/-! ## 3. Walks -/

theorem stepsOf_entry (p : Path) (hn : IsName n) :
    stepsOf (p.entry n) = stepsOf p ++ [.into n] :=
  filterMap_pieces_entry p hn (by simp [Step.ofPiece?]) (Step.ofPiece?_of_isName hn)

/-- The path of an entry ends in its name, so it can name a file or a link as well as a directory.
-/
theorem endsInSlash_entry (p : Path) (hn : IsName n) : (p.entry n).endsInSlash = false := by
  have hlast (bs : Bytes) : (⟨bs ++ n⟩ : Path).endsInSlash = false := by
    have hne : n.getLast? ≠ some slash := fun h => hn.no_slash (List.mem_of_getLast? h)
    simpa [endsInSlash, List.getLast?_append_of_ne_nil _ hn.ne_nil] using hne
  rw [Path.entry, join]
  split
  · exact hlast []
  · split
    · exact hlast _
    · rw [List.append_cons]
      exact hlast _

theorem allStepsOf_entry (p : Path) (hn : IsName n) :
    allStepsOf (p.entry n) = stepsOf p ++ [.into n] := by
  rw [allStepsOf, stepsOf_entry p hn, endsInSlash_entry p hn]
  simp

theorem startOf_entry (cwd : Location) (p : Path) (hn : IsName n) :
    startOf cwd (p.entry n) = startOf cwd p := by
  rw [startOf, startOf, isAbsolute_entry p hn]

/-- A walk that has found a directory has come to it by the steps of its path. -/
theorem enters_of_walk (h : fs.walk cwd follow p = .ok (.found loc .directory)) :
    ∃ links, Enters fs maxLinks (startOf cwd p) (stepsOf p) links loc := by
  obtain ⟨-, hw⟩ := walk_eq_ok.mp h
  rw [allStepsOf] at hw
  split at hw
  · obtain ⟨links, dir, he, hstay⟩ := enters_of_walkFrom (by simp) _ _ _ hw
    rw [walkFrom, walkFrom] at hstay
    obtain ⟨rfl, -⟩ := Spot.found.inj (Except.ok.inj hstay)
    exact ⟨links, he⟩
  · rw [List.append_nil] at hw
    exact enters_of_found _ _ _ hw

/-- A name is looked for in the directory that the path before it leads to. -/
theorem walk_entry_eq (hn : IsName n) (hl : n.length ≤ maxNameLength)
    (hdir : fs.walk cwd true p = .ok (.found loc .directory))
    (hpass : passable (p.entry n) = .ok ())
    (ho : follow = false ∨ ∀ t, fs.object? (loc ++ [n]) ≠ some (.link t)) :
    fs.walk cwd follow (p.entry n) = .ok (spotAt fs loc n) := by
  obtain ⟨links, he⟩ := enters_of_walk hdir
  refine walk_eq_ok.mpr ⟨hpass, ?_⟩
  rw [allStepsOf_entry p hn, startOf_entry cwd p hn, he.walkFrom (.inl (by simp))]
  exact walkFrom_into hl ho

/-- **An entry is found in the directory that its path leads to**, whether or not a link in its
place would be followed, if it is none. -/
theorem walk_entry (hn : IsName n) (hdir : fs.walk cwd true p = .ok (.found loc .directory))
    (ho : fs.object? (loc ++ [n]) = some o) (hlink : ∀ t, o ≠ .link t)
    (hw : fs.walk cwd true (p.entry n) = .ok spot) :
    fs.walk cwd follow (p.entry n) = .ok (.found (loc ++ [n]) o) := by
  obtain ⟨hpass, hw⟩ := walk_eq_ok.mp hw
  rw [allStepsOf_entry p hn] at hw
  obtain ⟨links, dir, -, hstep⟩ := enters_of_walkFrom (by simp) _ _ _ hw
  have hnolink : ∀ t, fs.object? (loc ++ [n]) ≠ some (.link t) := by
    intro t ht
    exact hlink t (Option.some.inj (ho.symm.trans ht))
  rw [walk_entry_eq hn (into_cases hstep).1 hdir hpass (.inr hnolink), spotAt, ho]

end FileSystem
end Scriptorium
