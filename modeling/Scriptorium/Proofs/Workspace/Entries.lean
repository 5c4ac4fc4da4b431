import Scriptorium.Proofs.Workspace.Confinement

/-!
# Which entries are removed and moved

Deleting and moving work on the last entry of a path and do not follow it, while `resolve` judges
where the path leads when all links are followed.  The two differ for one kind of path: its last
entry is a link that stands outside of the root and leads back in (`StrayLink`).  Such a path is
let through, and the entry is removed, moved away or replaced where it stands.

That is the only way out.  A deletion takes away nothing but entries of the root and of the
directories below it exactly if the path has no such link in the last place
(`entries_below_up_to_stray`), and so does a move if neither of its paths has one.
-/
namespace Scriptorium.Workspace

open FileSystem Scriptorium.Path

variable {w : Workspace} {fs fs' : FileSystem} {cwd top dir loc l : Location} {root p q : Path}
variable {o : Object} {spot : Spot} {follow : Bool} {rs ms ns front : List Name} {n : Name}

/-! ## 1. Entries at or below the root -/

/-- The entry at `l` is one of the directory `top` or of a directory below it. -/
def EntryBelow (top l : Location) : Prop := top <+: l.dropLast

/-- The last entry of the path is a link that stands outside of `top`. -/
def StrayLink (fs : FileSystem) (cwd top : Location) (q : Path) : Prop :=
  ∃ loc t, fs.find cwd false q = .ok (loc, .link t) ∧ ¬ EntryBelow top loc

@[simp] theorem entryBelow_concat : EntryBelow top (dir ++ [n]) ↔ top <+: dir := by
  rw [EntryBelow, List.dropLast_concat]

theorem EntryBelow.mono (h : EntryBelow top loc) (hl : loc <+: l) : EntryBelow top l := by
  obtain ⟨x, rfl⟩ := hl
  rcases List.eq_nil_or_concat x with rfl | ⟨y, b, rfl⟩
  · rwa [List.append_nil]
  · rw [EntryBelow, List.concat_eq_append, ← List.append_assoc, List.dropLast_concat]
    exact h.trans ((List.dropLast_prefix loc).trans (List.prefix_append loc y))

/-- What is strictly below `top` is an entry of `top` or of a directory below it. -/
theorem entryBelow_of_ne (h : top <+: l) (hne : l ≠ top) : EntryBelow top l := by
  rcases List.eq_nil_or_concat l with rfl | ⟨dir, n, rfl⟩
  · exact absurd (List.prefix_nil.mp h).symm hne
  · rw [List.concat_eq_append] at h hne ⊢
    rcases List.prefix_concat_iff.mp h with he | hp
    · exact absurd he.symm hne
    · exact entryBelow_concat.mpr hp

theorem isRoot_ofNames (hw : w.root = some (ofNames rs)) (h : ∀ n ∈ rs ++ ms, IsName n) :
    w.isRoot (ofNames (rs ++ ms)) = decide (ms = []) := by
  have hrs : ∀ n ∈ rs, IsName n := fun n hn => h n (List.mem_append_left _ hn)
  simp [isRoot, hw, sameAs, components_ofNames h, components_ofNames hrs]

/-- The root of a workspace in which a path can be followed is a directory. -/
theorem leadsTo_root (hl : LastEntry fs (rs ++ ms) n dir)
    (htop : fs.walk cwd true (ofNames rs) = .ok (.found top o)) : LeadsTo fs rs top := by
  have hwalk := hl.walk cwd
  have hnames := hl.names
  rw [List.append_assoc] at hwalk hnames
  obtain ⟨dir', hd, hp⟩ := leadsTo_of_walk hnames (by simp) hwalk
  obtain ⟨rfl, -⟩ : top = dir' ∧ o = .directory := by simpa using htop.symm.trans (hd.walk cwd hp)
  exact hd

theorem find_lastEntry (hl : LastEntry fs front n dir) (ho : fs.object? (dir ++ [n]) = some o) :
    fs.find cwd false (ofNames (front ++ [n])) = .ok (dir ++ [n], o) := by
  rw [find_eq_ok, hl.walk cwd, spotAt, ho]

/-- What is found without following a last link is the last entry. -/
theorem found_lastEntry (hl : LastEntry fs front n dir)
    (hf : fs.find cwd false (ofNames (front ++ [n])) = .ok (loc, o)) :
    loc = dir ++ [n] ∧ fs.object? loc = some o := by
  have hspot : Spot.found loc o = spotAt fs dir n :=
    Except.ok.inj ((find_eq_ok.mp hf).symm.trans (hl.walk cwd))
  have hloc : loc = dir ++ [n] := by
    rw [← place_spotAt fs dir n, ← hspot]
    rfl
  refine ⟨hloc, ?_⟩
  rw [hloc, ← object?_spotAt, ← hspot]
  rfl

/-- The last entry of a resolved path is at or below the root, unless it is a stray link. -/
theorem prefix_of_lastEntry (htop : fs.walk cwd true root = .ok (.found top o))
    (hin : ∀ spot, fs.walk cwd true (ofNames (front ++ [n])) = .ok spot →
      Within fs cwd root spot.place)
    (hl : LastEntry fs front n dir) (hs : ¬ StrayLink fs cwd top (ofNames (front ++ [n]))) :
    top <+: dir ++ [n] := by
  by_cases hlink : ∃ t, fs.object? (dir ++ [n]) = some (.link t)
  · obtain ⟨t, ht⟩ := hlink
    by_contra hno
    refine hs ⟨dir ++ [n], t, find_lastEntry hl ht, fun hb => hno ?_⟩
    exact (entryBelow_concat.mp hb).trans (List.prefix_append dir [n])
  · obtain ⟨top', htop', hpre⟩ := hin _ (hl.walk_of_no_link cwd fun t ht => hlink ⟨t, ht⟩)
    rw [place_spotAt] at hpre
    rwa [← Except.ok.inj (htop.symm.trans htop')] at hpre

/-! ## 2. Deleting -/

/-- What a removed tree leaves as it was: all that is not at or below the tree.  The tree itself
goes only where its directory can still be reached when it has been emptied. -/
theorem removeTree_directory {ns : List Name} (h : ∀ m ∈ ns, IsName m)
    (hf : fs.find cwd false (ofNames ns) = .ok (loc, .directory))
    (hl : (fs.removeTree cwd (ofNames ns)).1.object? l ≠ fs.object? l) :
    (loc <+: l ∧ l ≠ loc)
      ∨ ∃ front n dir, ns = front ++ [n] ∧ LeadsTo (fs.clear loc) front dir ∧ dir ++ [n] <+: l := by
  unfold removeTree at hl
  simp only [hf] at hl
  cases hr : (fs.clear loc).removeDirectory cwd (ofNames ns) with
  | error e =>
    rw [hr] at hl
    simp only [object?_clear] at hl
    left
    by_contra hno
    exact hl (if_neg hno)
  | ok gone =>
    rw [hr] at hl
    obtain ⟨front, n, dir, rfl, hlast, -, -, rfl⟩ := removeDirectory_eq_ok h hr
    simp only [object?_removeBelow _ _ _ (List.append_ne_nil_of_right_ne_nil dir
      (List.cons_ne_nil n [])), object?_clear] at hl
    by_cases hb : dir ++ [n] <+: l
    · exact .inr ⟨front, n, dir, rfl, hlast.above, hb⟩
    · left
      by_contra hno
      have hb' : ¬ (dir ++ [n]).isPrefixOf l = true :=
        fun hp => hb (List.isPrefixOf_iff_prefix.mp hp)
      rw [if_neg hb', if_neg hno] at hl
      exact hl rfl

/-- Nothing leads on from a directory that has been emptied. -/
theorem not_leadsTo_clear (hrs : LeadsTo fs rs top) {m : Name}
    (h : LeadsTo (fs.clear top) (rs ++ m :: ms) dir) : False := by
  have hw := h.walkFrom
  rw [List.map_append, List.map_cons] at hw
  obtain ⟨links, mid, he, hw⟩ := enters_of_walkFrom (by simp) _ _ _ hw
  obtain rfl := hrs.unique (LeadsTo.of_clear ⟨hrs.names, links, he⟩)
  have hnone : (fs.clear top).object? (top ++ [m]) = none := by
    rw [object?_clear, if_pos]
    exact ⟨List.prefix_append top [m], by simp⟩
  obtain ⟨-, hcase⟩ := into_cases hw
  cases hcase with
  | ends _ he _ => simp [spotAt, hnone] at he
  | enters ho _ => exact absurd (hnone.symm.trans ho) (by simp)
  | follows ho _ _ => exact absurd (hnone.symm.trans ho) (by simp)

theorem removeBelow_changes {loc l : Location} (hloc : loc ≠ [])
    (hl : (fs.removeBelow loc).object? l ≠ fs.object? l) : loc <+: l := by
  by_contra hno
  rw [object?_removeBelow _ _ _ hloc, if_neg fun hp => hno (List.isPrefixOf_iff_prefix.mp hp)] at hl
  exact hl rfl

/-- A resolved path other than the root ends in a name below it. -/
theorem names_of_resolve (hw : w.root = some root) (hroot : IsRoot root)
    (hq : w.resolve fs cwd p = .ok q) (hnot : w.isRoot q = false) :
    ∃ rs mid n, root = ofNames rs ∧ q = ofNames (rs ++ mid ++ [n])
      ∧ (∀ m ∈ rs ++ mid ++ [n], IsName m)
      ∧ ∀ spot, fs.walk cwd true q = .ok spot → Within fs cwd root spot.place := by
  obtain ⟨rs, ms, _, rfl, rfl, hnames, -, -⟩ := resolve_eq_ok hw hroot hq
  rw [isRoot_ofNames hw hnames] at hnot
  rcases List.eq_nil_or_concat ms with rfl | ⟨mid, n, rfl⟩
  · exact absurd hnot (by simp)
  · refine ⟨rs, mid, n, rfl, ?_, ?_, fun spot hs => within_of_resolve hw hroot hq hs⟩
    · rw [List.concat_eq_append, List.append_assoc]
    · rw [List.append_assoc, ← List.concat_eq_append]
      exact hnames

/-- A directory that is removed is not the root under another name: the way to it by that name goes
through the root, and has gone with what was in there. -/
theorem ne_root_of_leadsTo_clear (htop : LeadsTo fs rs top) (hl : LastEntry fs (rs ++ ms) n dir)
    (h : LeadsTo (fs.clear (dir ++ [n])) (rs ++ ms) dir) : top ≠ dir ++ [n] := by
  intro he
  cases ms with
  | nil =>
    rw [List.append_nil] at hl
    rw [htop.unique hl.above] at he
    simpa using congrArg List.length he
  | cons m ms => exact not_leadsTo_clear htop (he ▸ h)

/-- **Without a stray link, deleting takes away entries at or below the root only.**  A stray link
stands outside of the root and leads back in, so its path is let through although the entry itself
is not the root's. -/
theorem delete_below (hw : w.root = some root) (hroot : IsRoot root)
    (htop : fs.walk cwd true root = .ok (.found top o)) (hq : w.resolve fs cwd p = .ok q)
    (hs : w.isRoot q = true ∨ ¬ StrayLink fs cwd top q)
    (hl : (w.delete fs cwd p).1.object? l ≠ fs.object? l) : EntryBelow top l := by
  rcases delete_cases w fs cwd p with ⟨e, he⟩ | ⟨q', hq', hnot, hcase⟩
  · rw [he] at hl
    exact absurd rfl hl
  obtain rfl : q' = q := Except.ok.inj (hq'.symm.trans hq)
  have hstray : ¬ StrayLink fs cwd top q' := by
    rcases hs with h | h
    · rw [hnot] at h
      exact absurd h (by simp)
    · exact h
  obtain ⟨rs, mid, n, rfl, rfl, hnames, hin⟩ := names_of_resolve hw hroot hq hnot
  have hlast_eq : ∀ {front k}, rs ++ mid ++ [n] = front ++ [k] → rs ++ mid = front ∧ n = k := by
    intro front k he
    obtain ⟨hf, hk⟩ := List.append_inj' he rfl
    exact ⟨hf, by simpa using hk⟩
  rcases hcase with ⟨loc, hfind, hdel⟩ | ⟨fs', hu, hdel⟩
  · rw [hdel] at hl
    obtain ⟨dir, hlast⟩ := lastEntry_of_walk hnames (find_eq_ok.mp hfind)
    obtain ⟨rfl, -⟩ := found_lastEntry hlast hfind
    have hpre := prefix_of_lastEntry htop hin hlast hstray
    rcases removeTree_directory hnames hfind hl with
      ⟨hbelow, hne⟩ | ⟨front, k, dir', he, hlead, hbelow⟩
    · exact hpre.trans (entryBelow_of_ne hbelow hne)
    · obtain ⟨rfl, rfl⟩ := hlast_eq he
      obtain rfl := hlast.above.unique hlead.of_clear
      rcases List.prefix_concat_iff.mp hpre with htopeq | hdir
      · exact absurd htopeq (ne_root_of_leadsTo_clear (leadsTo_root hlast htop) hlast hlead)
      · exact (entryBelow_concat.mpr hdir).mono hbelow
  · rw [hdel] at hl
    obtain ⟨front, k, dir, o', he, hlast, ho', hnotdir, rfl⟩ := unlink_eq_ok hnames hu
    obtain ⟨rfl, rfl⟩ := hlast_eq he
    have hpre := prefix_of_lastEntry htop hin hlast hstray
    rcases List.prefix_concat_iff.mp hpre with htopeq | hdir
    · have hobj := (leadsTo_root hlast htop).isDir.object?
      rw [htopeq, ho'] at hobj
      exact absurd (Option.some.inj hobj) hnotdir
    · exact (entryBelow_concat.mpr hdir).mono (removeBelow_changes (by simp) hl)

/-- **With a stray link, deleting takes the link away** where it stands. -/
theorem delete_link (hw : w.root = some root) (hroot : IsRoot root) {t : Path}
    (hq : w.resolve fs cwd p = .ok q) (hnot : w.isRoot q = false)
    (hf : fs.find cwd false q = .ok (loc, .link t)) :
    w.delete fs cwd p = (fs.removeBelow loc, .ok ()) ∧ fs.object? loc = some (.link t)
      ∧ (fs.removeBelow loc).object? loc = none := by
  obtain ⟨rs, mid, n, rfl, rfl, hnames, -⟩ := names_of_resolve hw hroot hq hnot
  obtain ⟨dir, hlast⟩ := lastEntry_of_walk hnames (find_eq_ok.mp hf)
  obtain ⟨rfl, ho⟩ := found_lastEntry hlast hf
  have hself : (dir ++ [n]).isPrefixOf (dir ++ [n]) = true :=
    List.isPrefixOf_iff_prefix.mpr (List.prefix_refl _)
  have hu : fs.unlink cwd (ofNames (rs ++ mid ++ [n])) = .ok (fs.removeBelow (dir ++ [n])) :=
    hlast.unlink ho (by simp)
  refine ⟨?_, ho, ?_⟩
  · simp only [delete, hq, hnot, hf, hu, during, Bool.false_eq_true, if_false]
  · rw [object?_removeBelow _ _ _ (by simp), if_pos hself]

/-! ## 3. Moving -/

/-- A rename that succeeds moves the entry of the last name of one path to the last name of the
other, or finds that both are one and the same and changes nothing. -/
theorem rename_cases {source target : Path} {q' : Path} (hw : w.root = some root)
    (hroot : IsRoot root) (hq : w.resolve fs cwd source = .ok q)
    (hq' : w.resolve fs cwd target = .ok q') (h : w.rename fs cwd source target = .ok fs') :
    ∃ sfront sn sdir tfront tn tdir, q = ofNames (sfront ++ [sn]) ∧ LastEntry fs sfront sn sdir
      ∧ q' = ofNames (tfront ++ [tn]) ∧ LastEntry fs tfront tn tdir
      ∧ (fs' = fs ∨ (∃ moved, Movable fs (sdir ++ [sn]) (tdir ++ [tn]) moved)
          ∧ fs' = fs.relocate (sdir ++ [sn]) (tdir ++ [tn])) := by
  obtain ⟨_, hs, h⟩ := bind_eq_ok.mp h
  obtain rfl := Except.ok.inj (hs.symm.trans hq)
  obtain ⟨_, ht, h⟩ := bind_eq_ok.mp h
  obtain rfl := Except.ok.inj (ht.symm.trans hq')
  obtain ⟨ns, hns, rfl, -⟩ := inside_of_resolve hw hroot hq
  obtain ⟨ms, hms, rfl, -⟩ := inside_of_resolve hw hroot hq'
  obtain ⟨sfront, sn, sdir, tfront, tn, tdir, rfl, hsl, rfl, htl, hcase⟩ :=
    rename_eq_ok hns hms (during_eq_ok.mp h)
  exact ⟨sfront, sn, sdir, tfront, tn, tdir, rfl, hsl, rfl, htl, hcase.imp_left And.right⟩

/-- A move changes what is at or below the two entries. -/
theorem relocate_changes {source target : Location} (hs : source ≠ []) (ht : target ≠ [])
    (hl : (fs.relocate source target).object? l ≠ fs.object? l) : source <+: l ∨ target <+: l := by
  by_contra hno
  rw [not_or] at hno
  rw [object?_relocate fs hs ht, if_neg hno.2, if_neg hno.1] at hl
  exact hl rfl

/-- **Without stray links, moving changes entries at or below the root only.**  This holds of both
paths, of the one that is moved and of the one that it is moved to. -/
theorem rename_below {source target : Path} {q' : Path} (hw : w.root = some root)
    (hroot : IsRoot root) (htop : fs.walk cwd true root = .ok (.found top o))
    (hq : w.resolve fs cwd source = .ok q) (hq' : w.resolve fs cwd target = .ok q')
    (h : w.rename fs cwd source target = .ok fs') (hs : ¬ StrayLink fs cwd top q)
    (ht : ¬ StrayLink fs cwd top q') (hl : fs'.object? l ≠ fs.object? l) : EntryBelow top l := by
  obtain ⟨sfront, sn, sdir, tfront, tn, tdir, rfl, hsl, rfl, htl, hcase⟩ :=
    rename_cases hw hroot hq hq' h
  rcases hcase with rfl | ⟨⟨moved, hm⟩, rfl⟩
  · exact absurd rfl hl
  have hspre := prefix_of_lastEntry htop
    (fun spot hspot => within_of_resolve hw hroot hq hspot) hsl hs
  have htpre := prefix_of_lastEntry htop
    (fun spot hspot => within_of_resolve hw hroot hq' hspot) htl ht
  -- neither entry is that of the root itself: the other one would be inside it
  have hsdir : top <+: sdir := by
    rcases List.prefix_concat_iff.mp hspre with he | hp
    · exact absurd (he ▸ htpre) hm.not_below
    · exact hp
  have htdir : top <+: tdir := by
    rcases List.prefix_concat_iff.mp htpre with he | hp
    · exact absurd (he ▸ hspre) hm.not_above
    · exact hp
  rcases relocate_changes (by simp) (by simp) hl with hb | hb
  · exact (entryBelow_concat.mpr hsdir).mono hb
  · exact (entryBelow_concat.mpr htdir).mono hb

/-- **A link that is moved goes from where it stands**, and one that is moved to is replaced
there. -/
theorem rename_link {source target : Path} {q' : Path} (hw : w.root = some root)
    (hroot : IsRoot root) (hq : w.resolve fs cwd source = .ok q)
    (hq' : w.resolve fs cwd target = .ok q') (h : w.rename fs cwd source target = .ok fs')
    (hne : fs' ≠ fs) :
    ∃ sloc moved, fs.find cwd false q = .ok (sloc, moved) ∧ fs'.object? sloc = none
      ∧ ∀ loc t, fs.find cwd false q' = .ok (loc, .link t) → fs'.object? loc = some moved := by
  obtain ⟨sfront, sn, sdir, tfront, tn, tdir, rfl, hsl, rfl, htl, hcase⟩ :=
    rename_cases hw hroot hq hq' h
  rcases hcase with rfl | ⟨⟨moved, hm⟩, rfl⟩
  · exact absurd rfl hne
  refine ⟨sdir ++ [sn], moved, find_lastEntry hsl hm.there, ?_, fun loc t hf => ?_⟩
  · rw [object?_relocate fs (by simp) (by simp), if_neg hm.not_above,
      if_pos (List.prefix_refl _)]
  · obtain ⟨rfl, -⟩ := found_lastEntry htl hf
    rw [object?_relocate fs (by simp) (by simp), if_pos (List.prefix_refl _), List.drop_length,
      List.append_nil, hm.there]

/-! ## 4. The exact condition -/

/-- **Deleting and moving stay inside exactly up to stray links.**  A deletion takes away entries
at or below the root only, if and only if its path is that of the root itself, and so refused, or
does not end in a stray link.  A move changes entries at or below the root only, if neither of its
paths ends in a stray link; one that does anything takes its source away from where it stands, and
puts it where a link that it is moved to stands, be that inside or not. -/
theorem entries_below_up_to_stray (hw : w.root = some root) (hroot : IsRoot root)
    (htop : fs.walk cwd true root = .ok (.found top o)) :
    (∀ p q, w.resolve fs cwd p = .ok q →
        ((∀ l, (w.delete fs cwd p).1.object? l ≠ fs.object? l → EntryBelow top l)
          ↔ (w.isRoot q = true ∨ ¬ StrayLink fs cwd top q)))
      ∧ ∀ source target q q' fs', w.resolve fs cwd source = .ok q →
          w.resolve fs cwd target = .ok q' → w.rename fs cwd source target = .ok fs' →
          (¬ StrayLink fs cwd top q → ¬ StrayLink fs cwd top q' →
            ∀ l, fs'.object? l ≠ fs.object? l → EntryBelow top l)
          ∧ (fs' ≠ fs → ∃ sloc moved, fs.find cwd false q = .ok (sloc, moved)
              ∧ fs'.object? sloc = none
              ∧ ∀ loc t, fs.find cwd false q' = .ok (loc, .link t) →
                fs'.object? loc = some moved) := by
  refine ⟨fun p q hq => ⟨fun hall => ?_, fun hs l hl => delete_below hw hroot htop hq hs hl⟩,
    fun source target q q' fs' hq hq' h => ⟨fun hs ht l hl =>
      rename_below hw hroot htop hq hq' h hs ht hl, rename_link hw hroot hq hq' h⟩⟩
  by_contra hno
  rw [not_or, not_not] at hno
  obtain ⟨hnot, loc, t, hf, hout⟩ := hno
  obtain ⟨hdel, hwas, hgone⟩ := delete_link hw hroot hq (by simpa using hnot) hf
  refine hout (hall loc ?_)
  rw [hdel, hgone, hwas]
  simp

/-- The workspace of `loopDisk`, by its own name. -/
def loopWorkspace : Workspace := ⟨some (.ofString "/r")⟩

/-- A file of the workspace is deleted where it stands, and so is the link `b` outside of it. -/
theorem delete_here_and_outside :
    (∀ l, (loopWorkspace.delete loopDisk [] (.ofString "a")).1.object? l ≠ loopDisk.object? l →
        EntryBelow [[0x72]] l)
      ∧ ¬ ∀ l, (loopWorkspace.delete loopDisk [] (.ofString "up/b")).1.object? l
        ≠ loopDisk.object? l → EntryBelow [[0x72]] l := by
  have htop : loopDisk.walk [] true (.ofString "/r") = .ok (.found [[0x72]] .directory) := by cbv
  have hfile : loopWorkspace.resolve loopDisk [] (.ofString "a") = .ok (.ofString "/r/a") := by cbv
  have hlink : loopWorkspace.resolve loopDisk [] (.ofString "up/b")
      = .ok (.ofString "/r/up/b") := by
    cbv
  have all := (entries_below_up_to_stray rfl ⟨by cbv, by cbv⟩ htop).1
  refine ⟨(all _ _ hfile).mpr (.inr ?_), fun h => ?_⟩
  · rintro ⟨loc, t, hf, -⟩
    have hfound : loopDisk.find [] false (.ofString "/r/a")
        = .ok ([[0x72], [0x61]], .file [0x68, 0x69] false) := by cbv
    rw [hfound] at hf
    simp at hf
  · rcases (all _ _ hlink).mp h with hroot | hstray
    · have hnot : loopWorkspace.isRoot (.ofString "/r/up/b") = false := by cbv
      exact absurd (hnot.symm.trans hroot) (by simp)
    · refine hstray ⟨[[0x62]], .ofString "r/a", by cbv, ?_⟩
      rw [EntryBelow]
      decide

/-- Not every deletion takes away entries at or below the root only. -/
theorem not_delete_below :
    ¬ ∀ (w : Workspace) (fs : FileSystem) (cwd top : Location) (root p : Path) (o : Object),
      w.root = some root → IsRoot root → fs.WellFormed →
      fs.walk cwd true root = .ok (.found top o) →
      ∀ l, (w.delete fs cwd p).1.object? l ≠ fs.object? l → EntryBelow top l := by
  intro h
  have htop : loopDisk.walk [] true (.ofString "/r") = .ok (.found [[0x72]] .directory) := by cbv
  have hgone : (loopWorkspace.delete loopDisk [] (.ofString "up/b")).1.object? [[0x62]] = none := by
    cbv
  have hwas : loopDisk.object? [[0x62]] = some (.link (.ofString "r/a")) := by cbv
  have hbelow := h loopWorkspace loopDisk [] _ _ (.ofString "up/b") _ rfl ⟨by cbv, by cbv⟩
    loopDisk_wellFormed htop [[0x62]] (by rw [hgone, hwas]; simp)
  rw [EntryBelow] at hbelow
  exact absurd hbelow (by decide)

end Scriptorium.Workspace
