import Mathlib.Algebra.GroupWithZero.Nat
import Mathlib.Data.Option.Defs
import Scriptorium.Run.Id

/-!
# The form of an identifier

The text of an identifier is its hyphenated form (`Id.hyphenated_text`): 32 hexadecimal digits in
small letters, the most significant first, in groups of 8, 4, 4, 4 and 12.  All the digits are
there, zeros in front included, so the form says which identifier it is (`Id.Hyphenated.unique`).
-/
namespace Scriptorium.Id

variable {id id' : Id} {s : String}

/-! ## 1. Digits -/

/-- The number that hexadecimal digits write, most significant first. -/
def numberOf (ds : List Nat) : Nat := ds.foldl (fun n d => 16 * n + d) 0

theorem numberOf_concat (ds : List Nat) (d : Nat) :
    numberOf (ds ++ [d]) = 16 * numberOf ds + d := by
  simp [numberOf]

/-- The lowest `n` hexadecimal digits of a number, most significant first. -/
def lowDigits : Nat → Nat → List Nat
  | 0, _ => []
  | n + 1, v => lowDigits n (v / 16) ++ [v % 16]

theorem length_lowDigits (n v : Nat) : (lowDigits n v).length = n := by
  induction n generalizing v with
  | zero => rfl
  | succ n ih => simp [lowDigits, ih]

theorem lt_of_mem_lowDigits {n v d : Nat} (h : d ∈ lowDigits n v) : d < 16 := by
  induction n generalizing v with
  | zero => simp [lowDigits] at h
  | succ n ih =>
    rw [lowDigits, List.mem_append, List.mem_singleton] at h
    rcases h with h | rfl
    · exact ih h
    · exact Nat.mod_lt _ (by decide)

theorem numberOf_lowDigits (n v : Nat) : numberOf (lowDigits n v) = v % 16 ^ n := by
  induction n generalizing v with
  | zero => simp [lowDigits, numberOf, Nat.mod_one]
  | succ n ih =>
    rw [lowDigits, numberOf_concat, ih, Nat.pow_succ', Nat.mod_mul]
    omega

theorem hexDigits_eq (n v : Nat) (behind : List Char) :
    hexDigits n v behind = (lowDigits n v).map Nat.digitChar ++ behind := by
  induction n generalizing v behind with
  | zero => rfl
  | succ n ih => simp [hexDigits, lowDigits, ih]

/-! ## 2. Groups -/

/-- Characters in groups of 8, 4, 4, 4 and the rest, with hyphens between them. -/
def grouped (cs : List Char) : List Char :=
  cs.take 8 ++ '-' :: (cs.drop 8).take 4 ++ '-' :: (cs.drop 12).take 4
    ++ '-' :: (cs.drop 16).take 4 ++ '-' :: cs.drop 20

/-- Without the hyphens the groups are the characters. -/
theorem filter_grouped {cs : List Char} (h : '-' ∉ cs) : (grouped cs).filter (· ≠ '-') = cs := by
  have hkeep {part : List Char} (hpart : part ⊆ cs) : part.filter (· ≠ '-') = part := by
    refine List.filter_eq_self.mpr fun x hx => ?_
    have hne : x ≠ '-' := fun heq => h (heq ▸ hpart hx)
    simpa using hne
  have hdrop (n : Nat) : (cs.drop n).filter (· ≠ '-') = cs.drop n := hkeep (List.drop_subset n cs)
  have htake (n k : Nat) : ((cs.drop n).take k).filter (· ≠ '-') = (cs.drop n).take k :=
    hkeep fun x hx => List.drop_subset n cs (List.take_subset k _ hx)
  have hjoin (n k : Nat) : (cs.drop n).take k ++ cs.drop (n + k) = cs.drop n := by
    rw [← List.drop_drop]
    exact List.take_append_drop k (cs.drop n)
  have hgroups : (grouped cs).filter (· ≠ '-') = cs.take 8 ++ ((cs.drop 8).take 4
      ++ ((cs.drop 12).take 4 ++ ((cs.drop 16).take 4 ++ cs.drop 20))) := by
    have hfirst : (cs.take 8).filter (· ≠ '-') = cs.take 8 := hkeep (List.take_subset 8 cs)
    simp only [grouped, List.filter_append, List.filter_cons, ne_eq, decide_not]
      at hfirst htake hdrop ⊢
    simp [hfirst, htake, hdrop]
  rw [hgroups, hjoin 16 4, hjoin 12 4, hjoin 8 4]
  exact List.take_append_drop 8 cs

theorem digitChar_ne_hyphen : ∀ d < 16, Nat.digitChar d ≠ '-' := by decide

theorem digitChar_inj : ∀ d < 16, ∀ e < 16, Nat.digitChar d = Nat.digitChar e → d = e := by decide

/-- Digits are known by their characters. -/
theorem eq_of_map_digitChar {ds es : List Nat} (hds : ∀ d ∈ ds, d < 16) (hes : ∀ e ∈ es, e < 16)
    (h : ds.map Nat.digitChar = es.map Nat.digitChar) : ds = es := by
  induction ds generalizing es with
  | nil => exact (List.map_eq_nil_iff.mp h.symm).symm
  | cons d ds ih =>
    cases es with
    | nil => simp at h
    | cons e es =>
      obtain ⟨hhead, htail⟩ := List.cons.inj h
      have hd := digitChar_inj d (hds d List.mem_cons_self) e (hes e List.mem_cons_self) hhead
      have hrest := ih (fun x hx => hds x (List.mem_cons_of_mem _ hx))
        (fun x hx => hes x (List.mem_cons_of_mem _ hx)) htail
      rw [hd, hrest]

/-! ## 3. The hyphenated form -/

/-- The text is the hyphenated form of the identifier. -/
def Hyphenated (id : Id) (s : String) : Prop :=
  ∃ ds : List Nat, ds.length = 32 ∧ (∀ d ∈ ds, d < 16) ∧ numberOf ds = id.value
    ∧ s.toList = grouped (ds.map Nat.digitChar)

theorem hyphenated_text (id : Id) : id.Hyphenated id.text := by
  refine ⟨lowDigits 32 id.value, length_lowDigits 32 id.value, fun d hd => lt_of_mem_lowDigits hd,
    ?_, ?_⟩
  · rw [numberOf_lowDigits]
    exact Nat.mod_eq_of_lt id.bounded
  · rw [text, hexDigits_eq, List.append_nil, String.toList_ofList]
    rfl

/-- There is one identifier of a form. -/
theorem Hyphenated.unique (h : id.Hyphenated s) (h' : id'.Hyphenated s) : id = id' := by
  obtain ⟨ds, -, hds, hvalue, htext⟩ := h
  obtain ⟨es, -, hes, hvalue', htext'⟩ := h'
  have hplain {xs : List Nat} (hxs : ∀ x ∈ xs, x < 16) : '-' ∉ xs.map Nat.digitChar := by
    intro hmem
    obtain ⟨x, hx, heq⟩ := List.mem_map.mp hmem
    exact digitChar_ne_hyphen x (hxs x hx) heq
  have hchars : ds.map Nat.digitChar = es.map Nat.digitChar := by
    rw [← filter_grouped (hplain hds), ← filter_grouped (hplain hes), ← htext, htext']
  have hdigits := eq_of_map_digitChar hds hes hchars
  have hval : id.value = id'.value := by rw [← hvalue, ← hvalue', hdigits]
  cases id
  cases id'
  simpa using hval

/-- There is one identifier of a form, and of no form none. -/
theorem eq_of_rel_hyphenated {run run' : Option Id} {form : Option String}
    (h : Option.Rel Hyphenated run form) (h' : Option.Rel Hyphenated run' form) : run = run' := by
  cases h with
  | none => cases h' with | none => rfl
  | some h => cases h' with | some h' => rw [h.unique h']

end Scriptorium.Id
