import Mathlib.Data.List.Basic
import Mathlib.Data.List.Induction
import Scriptorium.FileSystem.Walk

/-!
# How absolute paths without dots are spelled

A path from the root directory through some names is spelled by `Path.ofNames`.  Reading such a
spelling gives the names back, as components (`components_ofNames`) and as the steps of a walk
(`allStepsOf_ofNames`), provided that each name is one that a piece of a path can be (`IsName`).

Every folded absolute path is spelled in this way (`folded_of_isAbsolute`).  So what is asked of
such paths, that one begins with another say, becomes a question about lists of names.
-/
namespace Scriptorium.Path

/-! ## 1. Names and pieces -/

/-- A byte string that can stand between slashes and names an entry there. -/
structure IsName (n : Bytes) : Prop where
  ne_nil : n ≠ []
  ne_dot : n ≠ [dot]
  ne_up : n ≠ [dot, dot]
  no_slash : slash ∉ n

instance (n : Bytes) : Decidable (IsName n) :=
  decidable_of_iff (n ≠ [] ∧ n ≠ [dot] ∧ n ≠ [dot, dot] ∧ slash ∉ n)
    ⟨fun ⟨a, b, c, d⟩ => ⟨a, b, c, d⟩, fun ⟨a, b, c, d⟩ => ⟨a, b, c, d⟩⟩

theorem splitFrom_of_no_slash {n : Bytes} (hn : slash ∉ n) (piece : Bytes) (done : List Bytes) :
    splitFrom piece done n = done.reverse ++ [piece.reverse ++ n] := by
  induction n generalizing piece with
  | nil => simp [splitFrom]
  | cons b n ih =>
    have hb : b ≠ slash := fun e => hn (e ▸ List.mem_cons_self)
    rw [splitFrom, if_neg hb, ih (fun h => hn (List.mem_cons_of_mem _ h))]
    simp

/-- The pieces that are done already stand in front of those that are still to come, and have no
influence on them. -/
theorem splitFrom_done (bs piece : Bytes) (done : List Bytes) :
    splitFrom piece done bs = done.reverse ++ splitFrom piece [] bs := by
  induction bs generalizing piece done with
  | nil => simp [splitFrom]
  | cons b bs ih =>
    rw [splitFrom, splitFrom]
    split
    · rw [ih [] (piece.reverse :: done), ih [] [piece.reverse]]
      simp
    · exact ih _ _

/-- A slash parts the pieces of a text: those in front of it and those behind it can be told apart
from each other's text. -/
theorem splitFrom_append (bs cs piece : Bytes) (done : List Bytes) :
    splitFrom piece done (bs ++ slash :: cs) = splitFrom piece done bs ++ splitFrom [] [] cs := by
  induction bs generalizing piece done with
  | nil =>
    simp only [List.nil_append, splitFrom, if_true]
    exact splitFrom_done ..
  | cons b bs ih =>
    simp only [List.cons_append, splitFrom]
    split
    · exact ih _ _
    · exact ih _ _

/-- A slash sets the pieces before it apart from those behind. -/
theorem pieces_append (bs cs : Bytes) : pieces ⟨bs ++ slash :: cs⟩ = pieces ⟨bs⟩ ++ pieces ⟨cs⟩ :=
  splitFrom_append bs cs [] []

/-- What stands after a last slash is a piece of its own. -/
theorem pieces_concat {n : Bytes} (hn : slash ∉ n) (bs : Bytes) :
    pieces ⟨bs ++ slash :: n⟩ = pieces ⟨bs⟩ ++ [n] := by
  rw [pieces_append]
  exact congrArg _ (splitFrom_of_no_slash hn [] [])

/-- No piece of a path has a slash in it, so a piece can be a name. -/
theorem no_slash_of_mem_splitFrom {bs piece : Bytes} {done : List Bytes} (hp : slash ∉ piece)
    (hd : ∀ d ∈ done, slash ∉ d) : ∀ q ∈ splitFrom piece done bs, slash ∉ q := by
  induction bs generalizing piece done with
  | nil =>
    intro q hq
    rw [splitFrom, List.mem_reverse, List.mem_cons] at hq
    rcases hq with rfl | hq
    · exact fun h => hp (List.mem_reverse.mp h)
    · exact hd q hq
  | cons b bs ih =>
    rw [splitFrom]
    split
    · refine ih (by simp) fun d hm => ?_
      rcases List.mem_cons.mp hm with rfl | hm
      · exact fun h => hp (List.mem_reverse.mp h)
      · exact hd d hm
    · rename_i hb
      refine ih (fun h => ?_) hd
      rcases List.mem_cons.mp h with h | h
      · exact hb h.symm
      · exact hp h

/-- No piece of a path has a slash in it. -/
theorem no_slash_of_mem_pieces {p : Path} {piece : Bytes} (h : piece ∈ p.pieces) :
    slash ∉ piece :=
  no_slash_of_mem_splitFrom (by simp) (by simp) piece h

/-- A piece that asks for a name is that name. -/
theorem ofPiece?_eq_name {piece n : Bytes} (h : Component.ofPiece? piece = some (.name n)) :
    piece = n ∧ n ≠ [] ∧ n ≠ [dot] ∧ n ≠ [dot, dot] := by
  unfold Component.ofPiece? at h
  split at h
  · exact absurd h (by simp)
  · rename_i h1
    split at h
    · exact absurd h (by simp)
    · rename_i h2
      obtain rfl : piece = n := by simpa using h
      exact ⟨rfl, fun e => h1 (.inl e), fun e => h1 (.inr e), h2⟩

/-- What a path opens with, apart from its pieces, is no name. -/
theorem exists_opening (p : Path) :
    ∃ opening, p.components = opening ++ p.pieces.filterMap Component.ofPiece?
      ∧ ∀ n, .name n ∉ opening := by
  refine ⟨_, rfl, ?_⟩
  intro n hn
  split at hn
  · exact absurd hn (by simp)
  · split at hn <;> exact absurd hn (by simp)

/-- A name in a path is one. -/
theorem isName_of_mem_components {p : Path} {n : Name} (h : .name n ∈ p.components) :
    IsName n := by
  obtain ⟨opening, hc, hopening⟩ := exists_opening p
  rw [hc] at h
  rcases List.mem_append.mp h with h | h
  · exact absurd h (hopening n)
  · obtain ⟨piece, hp, he⟩ := List.mem_filterMap.mp h
    obtain ⟨rfl, hne, hdot, hup⟩ := ofPiece?_eq_name he
    exact ⟨hne, hdot, hup, no_slash_of_mem_pieces hp⟩

/-! ## 2. The spelling of a list of names -/

variable {ns ms : List Name} {n : Name}

theorem ofNames_concat (ns : List Name) (n : Name) :
    ofNames (ns ++ [n]) = (ofNames ns).join ⟨n⟩ := by
  simp [ofNames, ofComponents, Component.spelling]

/-- A path that goes on from an absolute one is absolute, be it because of its beginning or because
it replaces it. -/
theorem join_of_isAbsolute {p q : Path} (hp : p.isAbsolute = true) :
    (p.join q).isAbsolute = true := by
  obtain ⟨bs⟩ := p
  cases bs with
  | nil => exact absurd hp (by simp [isAbsolute])
  | cons b bs =>
    obtain rfl : b = slash := by simpa [isAbsolute] using hp
    unfold join
    split
    · rename_i h
      rcases h with h | h
      · exact h
      · exact absurd h (by simp)
    · split <;> rfl

@[simp] theorem isAbsolute_ofNames (ns : List Name) : (ofNames ns).isAbsolute = true := by
  induction ns using List.reverseRecOn with
  | nil => rfl
  | append_singleton ns n ih => rw [ofNames_concat]; exact join_of_isAbsolute ih

theorem ofNames_ne_nil (ns : List Name) : (ofNames ns).bytes ≠ [] := by
  intro h
  have := isAbsolute_ofNames ns
  simp [isAbsolute, h] at this

theorem not_isAbsolute_of_no_slash (hn : slash ∉ n) : (⟨n⟩ : Path).isAbsolute = false := by
  cases n with
  | nil => rfl
  | cons b n =>
    have : b ≠ slash := fun e => hn (e ▸ List.mem_cons_self)
    simp [isAbsolute, this]

/-- The bytes of some names with a slash before each. -/
def spell (ns : List Name) : Bytes := ns.flatMap (slash :: ·)

@[simp] theorem spell_nil : spell [] = [] := rfl

theorem spell_append (ns ms : List Name) : spell (ns ++ ms) = spell ns ++ spell ms :=
  List.flatMap_append

theorem spell_concat (ns : List Name) (n : Name) : spell (ns ++ [n]) = spell ns ++ slash :: n := by
  simp [spell]

theorem pieces_spell (h : ∀ n ∈ ns, IsName n) : pieces ⟨spell ns⟩ = [] :: ns := by
  induction ns using List.reverseRecOn with
  | nil => rfl
  | append_singleton ns n ih =>
    rw [spell_concat, pieces_concat (h n (by simp)).no_slash,
      ih fun m hm => h m (List.mem_append_left _ hm)]
    rfl

theorem endsInSlash_spell_concat (ns : List Name) (hn : IsName n) :
    (⟨spell (ns ++ [n])⟩ : Path).endsInSlash = false := by
  have hlast : (spell (ns ++ [n])).getLast? = n.getLast? := by
    rw [spell_concat, List.getLast?_append, List.getLast?_cons]
    cases hl : n.getLast? with
    | none => exact absurd (List.getLast?_eq_none_iff.mp hl) hn.ne_nil
    | some b => simp
  simp only [endsInSlash, hlast, decide_eq_false_iff_not]
  exact fun h => hn.no_slash (List.mem_of_getLast? h)

/-- **The spelling of some names.**  Only the root directory ends in a slash. -/
theorem ofNames_eq (h : ∀ n ∈ ns, IsName n) :
    ofNames ns = if ns = [] then ⟨[slash]⟩ else ⟨spell ns⟩ := by
  induction ns using List.reverseRecOn with
  | nil => rfl
  | append_singleton ns n ih =>
    have hn := h n (by simp)
    have hns : ∀ m ∈ ns, IsName m := fun m hm => h m (List.mem_append_left _ hm)
    have habs := not_isAbsolute_of_no_slash hn.no_slash
    have hne : ns ++ [n] ≠ [] := by simp
    rw [ofNames_concat, ih hns, if_neg hne]
    rcases List.eq_nil_or_concat ns with rfl | ⟨front, m, rfl⟩
    · simp [join, habs, endsInSlash, spell]
    · rw [List.concat_eq_append] at hns ⊢
      have hfront : front ++ [m] ≠ [] := by simp
      rw [if_neg hfront, join, endsInSlash_spell_concat front (hns m (by simp)),
        spell_concat (front ++ [m])]
      simp [habs, spell_concat]

theorem bytes_ofNames_prefix (h : ∀ n ∈ ns ++ ms, IsName n) :
    (ofNames ns).bytes <+: (ofNames (ns ++ ms)).bytes := by
  rw [ofNames_eq h, ofNames_eq fun n hn => h n (List.mem_append_left _ hn)]
  by_cases hns : ns = []
  · cases ms with
    | nil => simp [hns]
    | cons m ms => simp [hns, spell]
  · simp [hns, spell_append]

theorem pieces_ofNames (h : ∀ n ∈ ns, IsName n) :
    (ofNames ns).pieces = [] :: if ns = [] then [[]] else ns := by
  rw [ofNames_eq h]
  split
  · rfl
  · exact pieces_spell h

theorem endsInSlash_ofNames (h : ∀ n ∈ ns, IsName n) :
    (ofNames ns).endsInSlash = decide (ns = []) := by
  rw [ofNames_eq h]
  rcases List.eq_nil_or_concat ns with rfl | ⟨front, n, rfl⟩
  · rfl
  · rw [List.concat_eq_append] at h ⊢
    rw [if_neg (by simp), endsInSlash_spell_concat front (h n (by simp))]
    simp

/-! ## 3. Reading a spelling -/

theorem ofPiece?_of_isName (hn : IsName n) : Component.ofPiece? n = some (.name n) := by
  simp [Component.ofPiece?, hn.ne_nil, hn.ne_dot, hn.ne_up]

/-- **The components of a spelling are its names.** -/
theorem components_ofNames (h : ∀ n ∈ ns, IsName n) :
    (ofNames ns).components = .root :: ns.map .name := by
  have hpieces : (ofNames ns).pieces.filterMap Component.ofPiece? = ns.map .name := by
    rw [pieces_ofNames h]
    split
    · rename_i hns
      rw [hns]
      rfl
    · rw [List.filterMap_cons]
      exact List.filterMap_eq_map_iff_forall_eq_some.mpr fun n hn => ofPiece?_of_isName (h n hn)
  rw [components, if_pos (isAbsolute_ofNames ns), hpieces]
  rfl

/-- A spelling begins with another if its names do. -/
theorem startsWith_ofNames (hn : ∀ n ∈ ns, IsName n) (hm : ∀ n ∈ ms, IsName n) :
    (ofNames ns).startsWith (ofNames ms) = true ↔ ms <+: ns := by
  rw [startsWith, components_ofNames hn, components_ofNames hm, List.isPrefixOf_iff_prefix,
    List.cons_prefix_cons]
  simp [List.prefix_map_iff_of_injective fun _ _ => Component.name.inj]

theorem entry_ofNames (ns : List Name) (n : Name) : (ofNames ns).entry n = ofNames (ns ++ [n]) :=
  (ofNames_concat ns n).symm

/-! ## 4. Folding -/

/-- Folding below the root ends at names below the root: a step up takes one of them away, or stays
at the root if there is none. -/
theorem foldl_foldStep_root (cs : List Component) (ns : List Name) :
    ∃ ms : List Name, cs.foldl foldStep (ns.map .name ++ [.root]) = ms.map .name ++ [.root]
      ∧ ∀ m ∈ ms, m ∈ ns ∨ .name m ∈ cs := by
  induction cs generalizing ns with
  | nil => exact ⟨ns, rfl, fun m hm => .inl hm⟩
  | cons c cs ih =>
    obtain ⟨ks, hks, hsub⟩ : ∃ ks : List Name,
        foldStep (ns.map .name ++ [.root]) c = ks.map .name ++ [.root]
          ∧ ∀ k ∈ ks, k ∈ ns ∨ .name k = c := by
      cases c with
      | root => exact ⟨[], rfl, by simp⟩
      | here => exact ⟨ns, rfl, fun k hk => .inl hk⟩
      | name n => exact ⟨n :: ns, rfl, by simp [or_comm]⟩
      | up =>
        cases ns with
        | nil => exact ⟨[], rfl, by simp⟩
        | cons n ns => exact ⟨ns, rfl, fun k hk => .inl (List.mem_cons_of_mem _ hk)⟩
    obtain ⟨ms, hms, hsub'⟩ := ih ks
    refine ⟨ms, by rw [List.foldl_cons, hks, hms], fun m hm => ?_⟩
    rcases hsub' m hm with h | h
    · rcases hsub m h with h | h
      · exact .inl h
      · exact .inr (h ▸ List.mem_cons_self)
    · exact .inr (List.mem_cons_of_mem _ h)

/-- The components of an absolute path fold to the root directory and names. -/
theorem foldComponents_of_isAbsolute {p : Path} (hp : p.isAbsolute = true) :
    ∃ ns : List Name, (∀ n ∈ ns, IsName n)
      ∧ foldComponents p.components = .root :: ns.map .name := by
  have hc : p.components = .root :: p.pieces.filterMap Component.ofPiece? := by
    simp [components, hp]
  obtain ⟨ms, hms, hsub⟩ := foldl_foldStep_root (p.pieces.filterMap Component.ofPiece?) []
  refine ⟨ms.reverse, fun n hn => ?_, ?_⟩
  · rcases hsub n (List.mem_reverse.mp hn) with h | h
    · exact absurd h (by simp)
    · exact isName_of_mem_components (hc ▸ List.mem_cons_of_mem _ h)
  · have hms' : (p.pieces.filterMap Component.ofPiece?).foldl foldStep (foldStep [] .root)
        = ms.map .name ++ [.root] := hms
    rw [foldComponents, hc, List.foldl_cons, hms']
    simp

/-- **A folded absolute path is spelled by names.** -/
theorem folded_of_isAbsolute {p : Path} (hp : p.isAbsolute = true) :
    ∃ ns, (∀ n ∈ ns, IsName n) ∧ p.folded = ofNames ns := by
  obtain ⟨ns, hns, hc⟩ := foldComponents_of_isAbsolute hp
  exact ⟨ns, hns, congrArg ofComponents hc⟩

/-- The components of a folded absolute path are the folded ones. -/
theorem components_folded {p : Path} (hp : p.isAbsolute = true) :
    p.folded.components = foldComponents p.components := by
  obtain ⟨ns, hns, hc⟩ := foldComponents_of_isAbsolute hp
  rw [folded, hc]
  exact components_ofNames hns

end Scriptorium.Path

namespace Scriptorium.FileSystem

open Scriptorium.Path

/-! ## 5. The steps of a spelling -/

variable {ns ms : List Name} {n : Name}

theorem Step.ofPiece?_of_isName (hn : IsName n) : Step.ofPiece? n = some (.into n) := by
  simp [Step.ofPiece?, hn.ne_nil, hn.ne_dot, hn.ne_up]

/-- A walk only ever goes into entries whose names are names. -/
theorem isName_of_mem_stepsOf {p : Path} (h : .into n ∈ stepsOf p) : IsName n := by
  obtain ⟨piece, hp, he⟩ := List.mem_filterMap.mp h
  unfold Step.ofPiece? at he
  split at he
  · exact absurd he (by simp)
  · rename_i h1
    split at he
    · exact absurd he (by simp)
    · rename_i h2
      split at he
      · exact absurd he (by simp)
      · rename_i h3
        obtain rfl : piece = n := by simpa using he
        exact ⟨h1, h2, h3, no_slash_of_mem_pieces hp⟩

theorem isName_of_mem_allStepsOf {p : Path} (h : .into n ∈ allStepsOf p) : IsName n := by
  rcases List.mem_append.mp h with h | h
  · exact isName_of_mem_stepsOf h
  · split at h <;> exact absurd h (by simp)

theorem stepsOf_ofNames (h : ∀ n ∈ ns, IsName n) : stepsOf (ofNames ns) = ns.map .into := by
  rw [stepsOf, pieces_ofNames h]
  split
  · rename_i hns
    rw [hns]
    rfl
  · rw [List.filterMap_cons]
    exact List.filterMap_eq_map_iff_forall_eq_some.mpr fun n hn => Step.ofPiece?_of_isName (h n hn)

/-- **The steps of a spelling go into its names**, one after the other. -/
theorem allStepsOf_ofNames (h : ∀ n ∈ ns, IsName n) :
    allStepsOf (ofNames ns) = if ns = [] then [.stay] else ns.map .into := by
  rw [allStepsOf, stepsOf_ofNames h, endsInSlash_ofNames h]
  by_cases hns : ns = [] <;> simp [hns]

/-- A path can be handed to the system if it is not empty, not too long, and has no zero byte in it.
-/
theorem passable_eq_ok {p : Path} :
    passable p = .ok () ↔ 0 ∉ p.bytes ∧ p.bytes ≠ [] ∧ p.bytes.length < pathLimit := by
  unfold passable
  split
  · simp_all
  · split
    · simp_all
    · split
      · simp_all
      · simp_all

/-- What can be handed to the system can be cut off at its end. -/
theorem passable_of_prefix {p q : Path} (hpre : p.bytes <+: q.bytes) (hne : p.bytes ≠ [])
    (hq : passable q = .ok ()) : passable p = .ok () := by
  obtain ⟨hz, -, hl⟩ := passable_eq_ok.mp hq
  exact passable_eq_ok.mpr
    ⟨fun hm => hz (hpre.subset hm), hne, Nat.lt_of_le_of_lt hpre.length_le hl⟩

theorem passable_ofNames (h : ∀ n ∈ ns ++ ms, IsName n)
    (hp : passable (ofNames (ns ++ ms)) = .ok ()) : passable (ofNames ns) = .ok () := by
  have hpre := bytes_ofNames_prefix h
  exact passable_of_prefix hpre (ofNames_ne_nil ns) hp

end Scriptorium.FileSystem
