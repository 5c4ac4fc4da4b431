import Scriptorium.Settings.Load

/-!
# Layers of settings

What is given is laid over what is below it entry by entry, and an entry may be a whole table or a
single value that a key leads to.  For one setting of one section, all of this comes to one thing:
what the last entry says of the setting, and what was below if it says nothing (`at?_assignAt`).
The same then holds of a layer and of all layers together (`at?_onto`, `at?_combined`).

This takes entries that are parts of a table of tables, as far as the setting goes (`IsPartial`):
what they give for the section is a table, and what they give for the setting is none.  Whatever
they give for other sections, and for other settings of the section, does not matter.
-/
namespace Scriptorium.Settings

variable {α β γ : Type} {sec key : String} {g below : Given} {v : Given} {steps : List Step}
variable {layer : Layer} {ls : List Layer}

/-! ## 1. The last word -/

/-- What is seen of the end of a run is what the last item says that says anything, if each item has
the last word over what was seen before. -/
theorem view_foldl {step : β → α → β} (view : β → Option γ) (word? : α → Option γ) {l : List α}
    (h : ∀ a ∈ l, ∀ b, view (step b a) = (word? a).or (view b)) (b : β) :
    view (l.foldl step b) = (l.reverse.findSome? word?).or (view b) := by
  induction l generalizing b with
  | nil => rfl
  | cons a l ih =>
    rw [List.foldl_cons, ih fun c hc => h c (List.mem_cons_of_mem a hc), h a List.mem_cons_self,
      ← Option.or_assoc, List.reverse_cons, List.findSome?_append]
    simp

namespace Given

/-! ## 2. Assigning to a name -/

/-- Whether a value is a table. -/
def isTable : Given → Bool
  | .table _ _ => true
  | _ => false

/-- What a name has when a value was laid over what it had. -/
def laidOver : Given → Option Given → Given
  | .table _ ms, below => assignAll ms (below.getD empty)
  | g, _ => g

theorem laidOver_of_not_table (h : v.isTable = false) (below : Option Given) :
    v.laidOver below = v := by
  cases v with
  | table o ms => exact absurd h (by simp [isTable])
  | _ => rfl

theorem assign_eq (n : String) (v below : Given) :
    assign n v below = below.set (smallName n) (v.laidOver (below.member? (smallName n))) := by
  cases v <;> rw [assign] <;> rfl

theorem assignAll_eq (ms : List (String × Given)) (below : Given) :
    assignAll ms below = ms.foldl (fun g m => assign m.1 m.2 g) below := by
  induction ms generalizing below with
  | nil => rw [assignAll, List.foldl_nil]
  | cons m ms ih => rw [assignAll, ih, List.foldl_cons]

@[simp] theorem isTable_set (g : Given) (n : String) (v : Given) : (g.set n v).isTable = true := by
  cases g <;> rfl

theorem isTable_assignAll (ms : List (String × Given)) (h : below.isTable = true) :
    (assignAll ms below).isTable = true := by
  induction ms generalizing below with
  | nil => rwa [assignAll]
  | cons m ms ih =>
    rw [assignAll]
    refine ih ?_
    rw [assign_eq, isTable_set]

/-- What a member of a table says of a name. -/
def said? (key : String) (m : String × Given) : Option Given :=
  if smallName m.1 = key then some m.2 else none

/-- **The last member that has the name counts.** -/
theorem member?_assignAll {ms : List (String × Given)}
    (h : ∀ m ∈ ms, smallName m.1 = key → m.2.isTable = false) (below : Given) :
    (assignAll ms below).member? key
      = (ms.reverse.findSome? (said? key)).or (below.member? key) := by
  rw [assignAll_eq]
  refine view_foldl (·.member? key) (said? key) (fun m hm below => ?_) below
  rw [assign_eq, member?_set, said?]
  by_cases hk : smallName m.1 = key
  · rw [if_pos hk.symm, if_pos hk, laidOver_of_not_table (h m hm hk)]
    rfl
  · rw [if_neg (Ne.symm hk), if_neg hk]
    rfl

theorem at?_pair (n m : String) (g : Given) : at? [n, m] g = (g.member? n).bind (·.member? m) := by
  simp [at?]

end Given

/-! ## 3. Entries -/

open Given

/-- What a value says of a setting, if it is given for what some steps into the section lead to. -/
def saidBelow? (key : String) : List Step → Given → Option Given
  | [], v => v.members.reverse.findSome? (said? key)
  | [.name m], v => said? key (m, v)
  | _, _ => none

/-- What an entry gives for a setting of a section. -/
def given? (sec key : String) (e : List Step × Given) : Option Given :=
  match e.1 with
  | .name n :: rest => if smallName n = sec then saidBelow? key rest e.2 else none
  | _ => none

/-- What is given for the section is a table, and what is given for the setting is none. -/
def PartialBelow (key : String) : List Step → Given → Prop
  | [], v => v.isTable = true ∧ ∀ m ∈ v.members, smallName m.1 = key → m.2.isTable = false
  | [.name m], v => smallName m = key → v.isTable = false
  | .name m :: _, _ => smallName m ≠ key
  | .index _ :: _, _ => False

/-- An entry is a part of a table of tables, as far as a setting of a section goes. -/
def PartialEntry (sec key : String) (e : List Step × Given) : Prop :=
  ∀ n rest, e.1 = .name n :: rest → smallName n = sec → PartialBelow key rest e.2

/-- An entry begins with the name of a section. -/
def NamedEntry (e : List Step × Given) : Prop := ∃ n rest, e.1 = .name n :: rest

namespace Given

/-- What a name has when a value was laid over what some steps lead to from there. -/
def entered (v : Given) : List Step → Option Given → Given
  | [], below => v.laidOver below
  | s :: rest, below => assignAt v (s :: rest) (below.getD (.scalar .unstated .nothing))

theorem assignAt_name (v : Given) (n : String) (rest : List Step) (g : Given) :
    assignAt v (.name n :: rest) g
      = g.set (smallName n) (v.entered rest (g.member? (smallName n))) := by
  cases rest with
  | nil => rw [assignAt, assign_eq, entered]
  | cons s rest =>
    rw [assignAt]
    · rfl
    · simp

theorem member?_assignAt_name (v : Given) (n : String) (rest : List Step) (g : Given) (k : String) :
    (assignAt v (.name n :: rest) g).member? k
      = if k = smallName n then some (v.entered rest (g.member? (smallName n)))
        else g.member? k := by
  rw [assignAt_name, member?_set]

/-- A missing table has no members, and neither has what stands in for it. -/
theorem member?_getD (o : Option Given) {d : Given} (hd : d.members = []) (k : String) :
    (o.getD d).member? k = o.bind (·.member? k) := by
  cases o with
  | none => simp [member?, hd]
  | some g => rfl

/-- What is laid over a section says something of the setting, or leaves it. -/
theorem member?_entered {rest : List Step} (h : PartialBelow key rest v) (below : Option Given) :
    (v.entered rest below).member? key
      = (saidBelow? key rest v).or (below.bind (·.member? key)) := by
  match rest with
  | [] =>
    obtain ⟨htable, hms⟩ := h
    cases v with
    | table o ms =>
      have hsaid := member?_assignAll hms (below.getD empty)
      rwa [member?_getD _ rfl] at hsaid
    | _ => exact absurd htable (by simp [isTable])
  | [.name m] =>
    rw [entered, member?_assignAt_name, member?_getD _ rfl, member?_getD _ rfl, saidBelow?, said?]
    by_cases hm : smallName m = key
    · rw [if_pos hm.symm, if_pos hm, entered, laidOver_of_not_table (h hm)]
      rfl
    · rw [if_neg (Ne.symm hm), if_neg hm]
      rfl
  | .name m :: s :: rest =>
    rw [entered, member?_assignAt_name, if_neg (Ne.symm h), member?_getD _ rfl]
    rfl
  | .index i :: rest => exact absurd h id

/-- What is laid over a table, or over nothing, as a part of a table is one again. -/
theorem isTable_entered {rest : List Step} (h : PartialBelow key rest v) {below : Option Given}
    (hb : ∀ s, below = some s → s.isTable = true) : (v.entered rest below).isTable = true := by
  match rest with
  | [] =>
    obtain ⟨htable, -⟩ := h
    cases v with
    | table o ms =>
      refine isTable_assignAll ms ?_
      cases below with
      | none => rfl
      | some s => exact hb s rfl
    | _ => exact absurd htable (by simp [isTable])
  | .name m :: rest => rw [entered, assignAt_name, isTable_set]
  | .index i :: rest => exact absurd h id

/-- The value is a table, and so is what it has for a section, if it has something. -/
structure InOrder (sec : String) (g : Given) : Prop where
  isTable : g.isTable = true
  section_isTable : ∀ s, g.member? sec = some s → s.isTable = true

theorem inOrder_empty (sec : String) : InOrder sec empty where
  isTable := rfl
  section_isTable s h := absurd h (by simp [empty, member?, members])

end Given

variable {e : List Step × Given}

/-- **What an entry says of a setting counts, and it leaves the setting alone if it says nothing.**
So the layers can be looked at setting by setting, as if no other setting existed. -/
theorem at?_assignAt (hn : NamedEntry e) (h : PartialEntry sec key e) (g : Given) :
    at? [sec, key] (assignAt e.2 e.1 g) = (given? sec key e).or (at? [sec, key] g) := by
  obtain ⟨n, rest, he⟩ := hn
  rw [at?_pair, at?_pair, he, member?_assignAt_name, given?, he]
  by_cases hs : smallName n = sec
  · rw [if_pos hs.symm, hs, Option.bind_some, member?_entered (h n rest he hs)]
    simp [hs]
  · simp [hs, Ne.symm hs]

/-- A part of a table that is laid into the settings leaves them a table, and the section a table in
it. -/
theorem inOrder_assignAt (hn : NamedEntry e) (h : PartialEntry sec key e) (hg : InOrder sec g) :
    InOrder sec (assignAt e.2 e.1 g) := by
  obtain ⟨n, rest, he⟩ := hn
  rw [he]
  refine ⟨by rw [assignAt_name, isTable_set], fun s hsec => ?_⟩
  rw [member?_assignAt_name] at hsec
  split at hsec
  · rename_i hs
    rw [← Option.some.inj hsec]
    exact isTable_entered (h n rest he hs.symm) (hs ▸ hg.section_isTable)
  · exact hg.section_isTable s hsec

/-! ## 4. Layers -/

namespace Layer

/-- What a layer gives for a setting of a section: what its last entry gives that gives
something. -/
def gives? (layer : Layer) (sec key : String) : Option Given :=
  layer.reverse.findSome? (given? sec key)

/-- A layer consists of parts of a table of tables, as far as a setting of a section goes. -/
def IsPartial (layer : Layer) (sec key : String) : Prop := ∀ e ∈ layer, PartialEntry sec key e

/-- All that a layer gives belongs to sections. -/
def IsNamed (layer : Layer) : Prop := ∀ e ∈ layer, NamedEntry e

end Layer

theorem at?_onto (hn : layer.IsNamed) (h : layer.IsPartial sec key) (g : Given) :
    at? [sec, key] (layer.onto g) = (layer.gives? sec key).or (at? [sec, key] g) :=
  view_foldl (at? [sec, key]) _ (fun e he => at?_assignAt (hn e he) (h e he)) g

theorem inOrder_onto (hn : layer.IsNamed) (h : layer.IsPartial sec key) (hg : InOrder sec g) :
    InOrder sec (layer.onto g) :=
  List.foldlRecOn layer _ hg fun _ hg e he => inOrder_assignAt (hn e he) (h e he) hg

/-- **The highest layer that gives a setting counts.**  Layers below it are not asked, but what they
give for other settings stays. -/
theorem at?_combined (hn : ∀ l ∈ ls, l.IsNamed) (h : ∀ l ∈ ls, l.IsPartial sec key) :
    at? [sec, key] (combined ls) = ls.reverse.findSome? (·.gives? sec key) := by
  refine (view_foldl (at? [sec, key]) (·.gives? sec key)
    (fun l hl g => at?_onto (hn l hl) (h l hl) g) empty).trans ?_
  rw [at?_pair]
  exact Option.or_none

theorem inOrder_combined (hn : ∀ l ∈ ls, l.IsNamed) (h : ∀ l ∈ ls, l.IsPartial sec key) :
    InOrder sec (combined ls) :=
  List.foldlRecOn ls _ (inOrder_empty sec) fun _ hg l hl => inOrder_onto (hn l hl) (h l hl) hg

/-! ## 5. What files and the environment give -/

/-- The steps that were read before stand at the beginning of all steps of a key. -/
theorem stepsFrom?_eq_some {done : List Step} {cs : List Char}
    (h : stepsFrom? done cs = some steps) : done.reverse <+: steps := by
  fun_induction stepsFrom? done cs with
  | case1 done => exact Option.some.inj h ▸ List.prefix_refl _
  | case2 done rest s rest' _ ih =>
    refine List.IsPrefix.trans ?_ (ih h)
    rw [List.reverse_cons]
    exact List.prefix_append _ _
  | case4 done rest s rest' _ ih =>
    refine List.IsPrefix.trans ?_ (ih h)
    rw [List.reverse_cons]
    exact List.prefix_append _ _
  | _ => exact absurd h (by simp)

/-- **A key begins with a name.** -/
theorem keySteps_eq (k : String) : ∃ n rest, keySteps k = .name n :: rest := by
  unfold keySteps
  cases hname : keyName? k.toList with
  | none => exact ⟨k, [], rfl⟩
  | some found =>
    obtain ⟨s, left⟩ := found
    simp only [keyName?, Option.ite_none_left_eq_some, Option.some.injEq, Prod.mk.injEq] at hname
    obtain ⟨-, rfl, -⟩ := hname
    simp only [Option.bind_eq_bind, Option.bind_some]
    cases hsteps : stepsFrom? [.name (String.ofList (k.toList.takeWhile inKeyName))] left with
    | none => exact ⟨k, [], rfl⟩
    | some steps =>
      obtain ⟨more, rfl⟩ := stepsFrom?_eq_some hsteps
      exact ⟨_, more, rfl⟩

namespace Layer

theorem isNamed_ofEnvironment (env : List (String × String)) : IsNamed (ofEnvironment env) := by
  intro e he
  obtain ⟨⟨v, text⟩, -, he⟩ := List.mem_filterMap.mp he
  obtain ⟨k, -, rfl⟩ := Option.map_eq_some_iff.mp he
  exact keySteps_eq k

/-- All that a file of settings gives belongs to sections: a table is given member by member, so its
keys begin with names. -/
theorem isNamed_ofFile {fs : FileSystem} {cwd : Location} {name : String}
    (h : ofFile fs cwd name = .ok layer) : IsNamed layer := by
  unfold ofFile at h
  split at h
  · obtain rfl := Except.ok.inj h
    exact fun e he => absurd he (by simp)
  · split at h
    · unfold ofFileText at h
      split at h
      · exact absurd h (by simp)
      · obtain rfl := Except.ok.inj h
        intro e he
        obtain ⟨⟨n, v⟩, -, rfl⟩ := List.mem_map.mp he
        exact keySteps_eq n
      · exact absurd h (by simp)
    · obtain rfl := Except.ok.inj h
      exact fun e he => absurd he (by simp)

theorem isNamed_builtIn : IsNamed builtIn := by
  simp [IsNamed, NamedEntry, builtIn]

/-- The layer consists of sections without tables in them, and of single settings. -/
def isFlat (layer : Layer) : Bool :=
  layer.all fun e => match e.1 with
    | [.name _] => e.2.isTable && e.2.members.all fun m => !m.2.isTable
    | [.name _, .name _] => !e.2.isTable
    | _ => false

/-- Such a layer is a part of a table of tables for every setting. -/
theorem isPartial_of_isFlat (h : layer.isFlat = true) (sec key : String) :
    layer.IsPartial sec key := by
  intro e he n rest hsteps _
  have hflat := List.all_eq_true.mp h e he
  rw [hsteps] at hflat
  match rest with
  | [] =>
    simp only [Bool.and_eq_true, List.all_eq_true, Bool.not_eq_true'] at hflat
    exact ⟨hflat.1, fun m hm _ => hflat.2 m hm⟩
  | [.name m] => exact fun _ => by simpa using hflat
  | .index i :: rest => exact absurd hflat (by simp)
  | .name m :: s :: rest => exact absurd hflat (by simp)

theorem isPartial_builtIn (sec key : String) : IsPartial builtIn sec key :=
  isPartial_of_isFlat rfl sec key

end Layer

end Scriptorium.Settings
