import Mathlib.Data.List.Nodup
import Mathlib.Data.List.Perm.Subperm
import Scriptorium.Proofs.FileSystem.Walk

/-!
# What changes of a file system leave as it was

A file system is a list of entries, but only some lists are the contents of a disk: each location
has one entry, and stands in a directory (`WellFormed`).  In such a list an entry is what is found
at its location, and what is found is a directory only below directories (`WellFormed.isDir`).

Each change of the list comes with two lemmas: what is found afterwards at any location, and that
the list stays one that can be the contents of a disk.
-/
namespace Scriptorium.FileSystem

open Scriptorium.Path

variable {fs : FileSystem} {loc l dir source target : Location} {o : Object} {n : Name}

/-! ## 1. Entries and what is found -/

/-- Where no location is listed twice, the entry that is listed is the one that is found. -/
theorem lookup_of_mem {es : List (Location × Object)} (hd : (es.map Prod.fst).Nodup)
    (hm : (loc, o) ∈ es) : lookup loc es = some o := by
  induction es with
  | nil => exact absurd hm (by simp)
  | cons e es ih =>
    obtain ⟨k, p⟩ := e
    rw [List.map_cons, List.nodup_cons] at hd
    rcases List.mem_cons.mp hm with he | hm
    · obtain ⟨rfl, rfl⟩ := Prod.mk.inj he
      simp [lookup]
    · have hne : k ≠ loc := by
        rintro rfl
        exact hd.1 (List.mem_map.mpr ⟨_, hm, rfl⟩)
      rw [lookup, if_neg hne, ih hd.2 hm]

/-- What is found at a location is listed there. -/
theorem mem_of_lookup {es : List (Location × Object)} (h : lookup loc es = some o) :
    (loc, o) ∈ es := by
  induction es with
  | nil => exact absurd h (by simp [lookup])
  | cons e es ih =>
    obtain ⟨k, p⟩ := e
    rw [lookup] at h
    split at h
    · rename_i hk
      rw [hk, Option.some.inj h]
      exact List.mem_cons_self
    · exact List.mem_cons_of_mem _ (ih h)

/-- The name of a location in a directory is the one that it has more. -/
theorem nameIn?_eq_some : nameIn? dir loc = some n ↔ loc = dir ++ [n] := by
  unfold nameIn?
  constructor
  · intro h
    split at h
    · rename_i k hlast
      split at h
      · rename_i hdir
        obtain rfl := Option.some.inj h
        rw [← hdir, List.dropLast_append_getLast? _ hlast]
      · exact absurd h (by simp)
    · exact absurd h (by simp)
  · rintro rfl
    simp

/-- What is in a directory stands one name below it. -/
theorem mem_children : (n, o) ∈ fs.children dir ↔ (dir ++ [n], o) ∈ fs.entries := by
  simp only [children, List.mem_filterMap, Option.map_eq_some_iff, Prod.mk.injEq]
  constructor
  · rintro ⟨⟨loc, p⟩, hm, m, hname, rfl, rfl⟩
    exact nameIn?_eq_some.mp hname ▸ hm
  · intro hm
    exact ⟨(dir ++ [n], o), hm, n, nameIn?_eq_some.mpr rfl, rfl, rfl⟩

/-- The entries are the contents of a disk. -/
structure WellFormed (fs : FileSystem) : Prop where
  once : (fs.entries.map Prod.fst).Nodup
  ne_root : ∀ e ∈ fs.entries, e.1 ≠ []
  names : ∀ e ∈ fs.entries, ∀ n ∈ e.1, IsName n ∧ n.length ≤ maxNameLength
  parents : ∀ e ∈ fs.entries, fs.object? e.1.dropLast = some .directory

theorem WellFormed.object?_of_mem (h : fs.WellFormed) (hm : (loc, o) ∈ fs.entries) :
    fs.object? loc = some o := by
  rw [object?, if_neg (h.ne_root _ hm)]
  exact lookup_of_mem h.once hm

theorem mem_of_object? (hl : loc ≠ []) (h : fs.object? loc = some o) : (loc, o) ∈ fs.entries := by
  rw [object?, if_neg hl] at h
  exact mem_of_lookup h

/-- What is in a directory is what is found there. -/
theorem WellFormed.object?_of_mem_children (h : fs.WellFormed) (hm : (n, o) ∈ fs.children dir) :
    fs.object? (dir ++ [n]) = some o ∧ IsName n :=
  have hm := mem_children.mp hm
  ⟨h.object?_of_mem hm, (h.names _ hm n (by simp)).1⟩

theorem WellFormed.mem_children_iff (h : fs.WellFormed) :
    (n, o) ∈ fs.children dir ↔ fs.object? (dir ++ [n]) = some o :=
  ⟨fun hm => (h.object?_of_mem_children hm).1,
    fun ho => mem_children.mpr (mem_of_object? (by simp) ho)⟩

/-- No name stands twice in a directory. -/
theorem WellFormed.nodup_children (h : fs.WellFormed) (dir : Location) :
    ((fs.children dir).map Prod.fst).Nodup := by
  have hnames : (fs.children dir).map Prod.fst
      = (fs.entries.map Prod.fst).filterMap (nameIn? dir) := by
    rw [children, List.map_filterMap, List.filterMap_map]
    refine List.filterMap_congr fun e _ => ?_
    rw [Option.map_map]
    exact Option.map_id'
  rw [hnames]
  refine h.once.filterMap fun a b m ha hb => ?_
  rw [nameIn?_eq_some.mp ha, nameIn?_eq_some.mp hb]

/-- **A directory stands below directories only.** -/
theorem WellFormed.isDir (h : fs.WellFormed) (hd : fs.object? loc = some .directory) :
    IsDir fs loc := by
  induction loc using List.reverseRecOn with
  | nil => exact .root fs
  | append_singleton dir n ih =>
    have hm := mem_of_object? (by simp) hd
    have hp := h.parents _ hm
    rw [List.dropLast_concat] at hp
    obtain ⟨hn, hs⟩ := h.names _ hm n (by simp)
    exact (ih hp).concat hn hs hd

/-- What is at or above an entry is one. -/
theorem WellFormed.mem_of_prefix (h : fs.WellFormed) (ho : fs.object? loc = some o)
    (hl : l <+: loc) (hne : l ≠ []) : l ∈ fs.entries.map Prod.fst := by
  have hm := mem_of_object? (fun he => hne (List.prefix_nil.mp (he ▸ hl))) ho
  rcases List.eq_nil_or_concat loc with rfl | ⟨dir, n, rfl⟩
  · exact absurd (List.prefix_nil.mp hl) hne
  · have hp := h.parents _ hm
    rw [List.concat_eq_append] at hl hm hp
    rcases List.prefix_concat_iff.mp hl with rfl | hl
    · exact List.mem_map.mpr ⟨_, hm, rfl⟩
    · rw [List.dropLast_concat] at hp
      exact List.mem_map.mpr ⟨_, mem_of_object? hne ((h.isDir hp).directories _ hl), rfl⟩

/-- A place is at most as deep as there are entries, since each place above it is one. -/
theorem WellFormed.length_le (h : fs.WellFormed) (ho : fs.object? loc = some o) :
    loc.length ≤ fs.entries.length := by
  have hlength : ∀ i < loc.length, (loc.take (i + 1)).length = i + 1 := by
    intro i hi
    rw [List.length_take]
    omega
  have hnodup : ((List.range loc.length).map fun i => loc.take (i + 1)).Nodup := by
    refine List.Nodup.map_on (fun i hi j hj he => ?_) List.nodup_range
    rw [List.mem_range] at hi hj
    have hlen := congrArg List.length he
    rw [hlength i hi, hlength j hj] at hlen
    omega
  have hsub : ((List.range loc.length).map fun i => loc.take (i + 1))
      ⊆ fs.entries.map Prod.fst := by
    intro l hl
    obtain ⟨i, hi, rfl⟩ := List.mem_map.mp hl
    refine h.mem_of_prefix ho (List.take_prefix _ loc) (List.ne_nil_of_length_pos ?_)
    rw [hlength i (List.mem_range.mp hi)]
    omega
  simpa using (List.Nodup.subperm hnodup hsub).length_le

/-! ## 2. What is found after a change -/

/-- Clearing a directory takes away what is below it, and nothing else. -/
theorem object?_clear (fs : FileSystem) (loc l : Location) :
    (fs.clear loc).object? l = if loc <+: l ∧ l ≠ loc then none else fs.object? l := by
  unfold object? clear
  by_cases hl : l = []
  · subst hl
    rw [if_pos rfl, if_pos rfl, if_neg]
    rintro ⟨hp, hne⟩
    exact hne (List.prefix_nil.mp hp).symm
  · rw [if_neg hl, if_neg hl, lookup_filter fun k => !loc.isPrefixOf k || k = loc]
    by_cases hp : loc <+: l
    · have hb : loc.isPrefixOf l = true := List.isPrefixOf_iff_prefix.mpr hp
      by_cases he : l = loc <;> simp [hp, hb, he]
    · have hb : ¬ loc.isPrefixOf l = true := fun h => hp (List.isPrefixOf_iff_prefix.mp h)
      simp [hp, hb]

/-- What is found after a directory has been emptied was there before. -/
theorem object?_of_clear (h : (fs.clear loc).object? l = some o) : fs.object? l = some o := by
  rw [object?_clear] at h
  split at h
  · exact absurd h (by simp)
  · exact h

/-- Where a path leads after a directory has been emptied, it led before. -/
theorem LeadsTo.of_clear {ns : List Name} (h : LeadsTo (fs.clear loc) ns dir) :
    LeadsTo fs ns dir := h.mono fun _ _ => object?_of_clear

/-- The entry that a moved entry becomes. -/
def movedEntry (source target : Location) (e : Location × Object) : Location × Object :=
  if source.isPrefixOf e.1 then (target ++ e.1.drop source.length, e.2) else e

theorem relocate_entries (fs : FileSystem) (source target : Location) :
    (fs.relocate source target).entries
      = (fs.entries.filter fun e => source.isPrefixOf e.1 || !target.isPrefixOf e.1).map
          (movedEntry source target) := rfl

theorem movedEntry_below (x : Location) (o : Object) :
    movedEntry source target (source ++ x, o) = (target ++ x, o) := by
  have hb : source.isPrefixOf (source ++ x) = true :=
    List.isPrefixOf_iff_prefix.mpr (List.prefix_append source x)
  simp [movedEntry, hb]

theorem movedEntry_outside {e : Location × Object} (h : ¬ source <+: e.1) :
    movedEntry source target e = e := by
  have hb : ¬ source.isPrefixOf e.1 = true := fun hp => h (List.isPrefixOf_iff_prefix.mp hp)
  rw [movedEntry, if_neg hb]

/-- The entries that are still there after a move, with what they become. -/
theorem relocate_cons (source target : Location) (e : Location × Object)
    (es : List (Location × Object)) :
    (relocate ⟨e :: es⟩ source target).entries
      = if source <+: e.1 ∨ ¬ target <+: e.1 then
          movedEntry source target e :: (relocate ⟨es⟩ source target).entries
        else (relocate ⟨es⟩ source target).entries := by
  have hkept : (source.isPrefixOf e.1 || !target.isPrefixOf e.1) = true
      ↔ source <+: e.1 ∨ ¬ target <+: e.1 := by
    rw [Bool.or_eq_true, Bool.not_eq_true', ← Bool.not_eq_true, List.isPrefixOf_iff_prefix,
      List.isPrefixOf_iff_prefix]
  rw [relocate_entries, List.filter_cons]
  split
  · rename_i h
    rw [if_pos (hkept.mp h)]
    rfl
  · rename_i h
    rw [if_neg fun hk => h (hkept.mpr hk)]
    rfl

/-- After a move, what is below the new location is what was below the old one; whatever was there
before is gone. -/
theorem lookup_relocate_below (es : List (Location × Object)) (x : Location) :
    lookup (target ++ x) (relocate ⟨es⟩ source target).entries = lookup (source ++ x) es := by
  induction es with
  | nil => rfl
  | cons e es ih =>
    obtain ⟨k, o⟩ := e
    rw [relocate_cons, lookup]
    by_cases hs : source <+: k
    · obtain ⟨y, rfl⟩ := hs
      rw [if_pos (.inl (List.prefix_append source y)), movedEntry_below, lookup, ih]
      simp
    · have hk : k ≠ source ++ x := by
        rintro rfl
        exact hs (List.prefix_append source x)
      rw [if_neg hk, movedEntry_outside hs]
      split
      · rename_i ht
        have hk' : k ≠ target ++ x := by
          rintro rfl
          exact ht.elim hs fun h => h (List.prefix_append target x)
        rw [lookup, if_neg hk', ih]
      · exact ih

/-- After a move nothing is left at or below the old location, and outside both locations everything
is as it was. -/
theorem lookup_relocate_outside (es : List (Location × Object)) (hl : ¬ target <+: l) :
    lookup l (relocate ⟨es⟩ source target).entries
      = if source <+: l then none else lookup l es := by
  induction es with
  | nil => simp [relocate, lookup]
  | cons e es ih =>
    obtain ⟨k, o⟩ := e
    rw [relocate_cons, lookup]
    by_cases hs : source <+: k
    · obtain ⟨y, rfl⟩ := hs
      have hne : target ++ y ≠ l := by
        rintro rfl
        exact hl (List.prefix_append target y)
      rw [if_pos (.inl (List.prefix_append source y)), movedEntry_below, lookup, if_neg hne, ih]
      split
      · rfl
      · rename_i hsl
        rw [if_neg]
        rintro rfl
        exact hsl (List.prefix_append source y)
    · rw [movedEntry_outside hs]
      by_cases hk : k = l
      · subst hk
        rw [if_pos (.inr hl), lookup, if_pos rfl, if_neg hs, if_pos rfl]
      · rw [if_neg hk]
        split
        · rw [lookup, if_neg hk, ih]
        · exact ih

/-- **Moving** takes what is at and below `source` to `target`, in place of what was there. -/
theorem object?_relocate (fs : FileSystem) (hs : source ≠ []) (ht : target ≠ []) (l : Location) :
    (fs.relocate source target).object? l =
      if target <+: l then fs.object? (source ++ l.drop target.length)
      else if source <+: l then none else fs.object? l := by
  by_cases hl : target <+: l
  · obtain ⟨x, rfl⟩ := hl
    rw [if_pos (List.prefix_append target x), object?, object?, if_neg (by simp [ht]),
      if_neg (by simp [hs]), lookup_relocate_below, List.drop_left]
  · rw [if_neg hl, object?, object?, lookup_relocate_outside _ hl]
    by_cases he : l = []
    · subst he
      rw [if_pos rfl, if_pos rfl, if_neg fun h => hs (List.prefix_nil.mp h)]
    · rw [if_neg he, if_neg he]

/-! ## 3. What stays the contents of a disk -/

/-- Putting an object at a location adds no other entry than this one. -/
theorem mem_putIn {es : List (Location × Object)} {e : Location × Object}
    (h : e ∈ putIn loc o es) : e = (loc, o) ∨ e ∈ es := by
  induction es with
  | nil => exact .inl (List.mem_singleton.mp h)
  | cons d es ih =>
    obtain ⟨k, p⟩ := d
    rw [putIn] at h
    split at h
    · rename_i hk
      rcases List.mem_cons.mp h with rfl | h
      · exact .inl (by rw [hk])
      · exact .inr (List.mem_cons_of_mem _ h)
    · rcases List.mem_cons.mp h with rfl | h
      · exact .inr List.mem_cons_self
      · exact (ih h).imp_right (List.mem_cons_of_mem _)

/-- An object takes the place of the one at its location, so no location comes to be listed twice.
-/
theorem nodup_putIn {es : List (Location × Object)} (h : (es.map Prod.fst).Nodup) :
    ((putIn loc o es).map Prod.fst).Nodup := by
  induction es with
  | nil => simp [putIn]
  | cons d es ih =>
    obtain ⟨k, p⟩ := d
    rw [putIn]
    split
    · exact h
    · rename_i hk
      rw [List.map_cons, List.nodup_cons] at h ⊢
      refine ⟨fun hm => ?_, ih h.2⟩
      obtain ⟨e, he, rfl⟩ := List.mem_map.mp hm
      rcases mem_putIn he with rfl | he
      · exact hk rfl
      · exact h.1 (List.mem_map.mpr ⟨e, he, rfl⟩)

/-- An object can be put in a directory, unless it would replace another directory. -/
theorem WellFormed.put (h : fs.WellFormed) (hd : IsDir fs dir) (hn : IsName n)
    (hs : n.length ≤ maxNameLength) (ho : fs.object? (dir ++ [n]) ≠ some .directory) :
    (fs.put (dir ++ [n]) o).WellFormed where
  once := nodup_putIn h.once
  ne_root e he := by
    rcases mem_putIn he with rfl | he
    · simp
    · exact h.ne_root e he
  names e he m hm := by
    rcases mem_putIn he with rfl | he
    · rcases List.mem_append.mp hm with hm | hm
      · exact hd.names m hm
      · rw [List.mem_singleton.mp hm]
        exact ⟨hn, hs⟩
    · exact h.names e he m hm
  parents e he := by
    rw [object?_put _ _ _ _ (by simp)]
    rcases mem_putIn he with rfl | he
    · rw [List.dropLast_concat, if_neg, hd.object?]
      intro hc
      simpa using congrArg List.length hc
    · rw [if_neg, h.parents e he]
      intro hc
      exact ho (hc ▸ h.parents e he)

/-- Entries can be taken away together with all that is below them. -/
theorem WellFormed.filter (h : fs.WellFormed) (keep : Location → Bool)
    (hup : ∀ e ∈ fs.entries, keep e.1 = true →
      object? ⟨fs.entries.filter fun e => keep e.1⟩ e.1.dropLast = fs.object? e.1.dropLast) :
    WellFormed ⟨fs.entries.filter fun e => keep e.1⟩ where
  once := h.once.sublist (List.filter_sublist.map _)
  ne_root e he := h.ne_root e (List.mem_filter.mp he).1
  names e he := h.names e (List.mem_filter.mp he).1
  parents e he := by
    obtain ⟨he, hk⟩ := List.mem_filter.mp he
    rw [hup e he hk]
    exact h.parents e he

theorem WellFormed.removeBelow (h : fs.WellFormed) (hl : loc ≠ []) :
    (fs.removeBelow loc).WellFormed := by
  refine h.filter (fun l => !loc.isPrefixOf l) fun e _ hk => ?_
  have hnot : ¬ loc.isPrefixOf e.1.dropLast = true := by
    intro hp
    have hp' := (List.isPrefixOf_iff_prefix.mp hp).trans (List.dropLast_prefix e.1)
    simp [List.isPrefixOf_iff_prefix.mpr hp'] at hk
  exact (object?_removeBelow fs loc _ hl).trans (if_neg hnot)

theorem WellFormed.clear (h : fs.WellFormed) : (fs.clear loc).WellFormed := by
  refine h.filter (fun l => !loc.isPrefixOf l || l = loc) fun e _ hk => ?_
  refine (object?_clear fs loc _).trans (if_neg ?_)
  rintro ⟨hp, hne⟩
  have hp' := hp.trans (List.dropLast_prefix e.1)
  have he : e.1 = loc := by simpa [List.isPrefixOf_iff_prefix.mpr hp'] using hk
  exact hne (hp.eq_of_length_le (by simp [he])).symm

/-- An entry that is there after a move: one that came with the move, or one that was not at or
below either place. -/
theorem mem_relocate {e : Location × Object} (h : e ∈ (fs.relocate source target).entries) :
    (∃ x, e.1 = target ++ x ∧ (source ++ x, e.2) ∈ fs.entries)
      ∨ (e ∈ fs.entries ∧ ¬ source <+: e.1 ∧ ¬ target <+: e.1) := by
  rw [relocate_entries] at h
  obtain ⟨d, hd, rfl⟩ := List.mem_map.mp h
  obtain ⟨hd, hk⟩ := List.mem_filter.mp hd
  by_cases hs : source <+: d.1
  · obtain ⟨x, hx⟩ := hs
    obtain ⟨k, o⟩ := d
    obtain rfl : source ++ x = k := hx
    rw [movedEntry_below]
    exact .inl ⟨x, rfl, hd⟩
  · rw [movedEntry_outside hs]
    have hs' : ¬ source.isPrefixOf d.1 = true := fun hp => hs (List.isPrefixOf_iff_prefix.mp hp)
    refine .inr ⟨hd, hs, fun ht => ?_⟩
    simp [hs', List.isPrefixOf_iff_prefix.mpr ht] at hk

/-- Two entries that are both kept do not come to the same place. -/
theorem key_of_movedEntry {d e : Location × Object} (hd : source <+: d.1 ∨ ¬ target <+: d.1)
    (he : source <+: e.1 ∨ ¬ target <+: e.1)
    (h : (movedEntry source target d).1 = (movedEntry source target e).1) : d.1 = e.1 := by
  obtain ⟨k, o⟩ := d
  obtain ⟨l, q⟩ := e
  by_cases hk : source <+: k <;> by_cases hl : source <+: l
  · obtain ⟨x, rfl⟩ := hk
    obtain ⟨y, rfl⟩ := hl
    rw [movedEntry_below, movedEntry_below] at h
    rw [List.append_cancel_left h]
  · obtain ⟨x, rfl⟩ := hk
    rw [movedEntry_below, movedEntry_outside hl] at h
    exact absurd ⟨x, h⟩ (he.resolve_left hl)
  · obtain ⟨y, rfl⟩ := hl
    rw [movedEntry_below, movedEntry_outside hk] at h
    exact absurd ⟨y, h.symm⟩ (hd.resolve_left hk)
  · rwa [movedEntry_outside hk, movedEntry_outside hl] at h

/-- A move lists no location twice: the entries at the new location are taken away before others
come there. -/
theorem nodup_relocate (h : (fs.entries.map Prod.fst).Nodup) :
    ((fs.relocate source target).entries.map Prod.fst).Nodup := by
  have hkept : ∀ e ∈ fs.entries.filter fun e => source.isPrefixOf e.1 || !target.isPrefixOf e.1,
      source <+: e.1 ∨ ¬ target <+: e.1 := by
    intro e he
    simpa [← List.isPrefixOf_iff_prefix] using (List.mem_filter.mp he).2
  have hsub := h.sublist (List.filter_sublist (p := fun e =>
    source.isPrefixOf e.1 || !target.isPrefixOf e.1).map Prod.fst)
  rw [relocate_entries, List.map_map, List.Nodup, List.pairwise_map]
  rw [List.Nodup, List.pairwise_map] at hsub
  exact hsub.imp_of_mem fun hd he hne hkey =>
    hne (key_of_movedEntry (hkept _ hd) (hkept _ he) hkey)

/-- An entry can be moved into a directory that is not inside it. -/
theorem WellFormed.relocate (h : fs.WellFormed) (hs : source ≠ []) (hd : IsDir fs dir)
    (hn : IsName n) (hl : n.length ≤ maxNameLength) (hb : ¬ source <+: dir ++ [n]) :
    (fs.relocate source (dir ++ [n])).WellFormed where
  once := nodup_relocate h.once
  ne_root e he := by
    rcases mem_relocate he with ⟨x, hx, -⟩ | ⟨he, -, -⟩
    · simp [hx]
    · exact h.ne_root e he
  names e he m hm := by
    rcases mem_relocate he with ⟨x, hx, he⟩ | ⟨he, -, -⟩
    · rw [hx] at hm
      rcases List.mem_append.mp hm with hm | hm
      · rcases List.mem_append.mp hm with hm | hm
        · exact hd.names m hm
        · rw [List.mem_singleton.mp hm]
          exact ⟨hn, hl⟩
      · exact h.names _ he m (List.mem_append_right _ hm)
    · exact h.names e he m hm
  parents e he := by
    rw [object?_relocate fs hs (by simp)]
    rcases mem_relocate he with ⟨x, hx, he⟩ | ⟨he, hns, hnt⟩
    · rw [hx]
      rcases List.eq_nil_or_concat x with rfl | ⟨y, b, rfl⟩
      · rw [List.append_nil, List.dropLast_concat, if_neg, if_neg, hd.object?]
        · exact fun hp => hb (hp.trans (List.prefix_append dir [n]))
        · intro hp
          have hlen := hp.length_le
          rw [List.length_append, List.length_singleton] at hlen
          omega
      · have hp := h.parents _ he
        simp only [List.concat_eq_append, ← List.append_assoc, List.dropLast_concat] at hp ⊢
        rw [if_pos (List.prefix_append _ y), List.drop_left, hp]
    · rw [if_neg, if_neg, h.parents e he]
      · exact fun hp => hns (hp.trans (List.dropLast_prefix e.1))
      · exact fun hp => hnt (hp.trans (List.dropLast_prefix e.1))

end Scriptorium.FileSystem
