import Mathlib.Data.List.Sort
import Mathlib.Order.Defs.LinearOrder
import Scriptorium.Workspace.Entry

/-!
# The order of entries

Lists of entries are sorted by `Entry.order`, which compares in one way or the other and never in a
circle.  Entries that it does not tell apart stay as they stood.  So it does not matter whether
entries are taken out before or after a list is sorted (`sort_filter`).
-/
namespace Scriptorium.Workspace.Entry

open Std

variable {α : Type} {le : α → α → Bool} {a : α}

/-! ## 1. The order -/

/-- Directories first, then small-letter names, then names, as one comparison after the other. -/
theorem order_eq : order = compareLex (compareOn fun e => !e.isDirectory)
    (compareLex (compareOn fun e => Text.lowercase e.name.toList)
      (compareOn fun e => e.name.toList)) := by
  have flipped : ∀ x y : Bool, compare y x = compare (!x) (!y) := by decide
  funext a b
  rw [order, flipped]
  rfl

instance : TransCmp order := order_eq ▸ inferInstance

theorem order_trans (a b c : Entry) (hab : (order a b).isLE = true)
    (hbc : (order b c).isLE = true) : (order a c).isLE = true :=
  TransCmp.isLE_trans hab hbc

theorem order_total (a b : Entry) : ((order a b).isLE || (order b a).isLE) = true := by
  have hswap : order b a = (order a b).swap := OrientedCmp.eq_swap
  rw [hswap]
  cases order a b <;> rfl

/-! ## 2. Sorting -/

/-- Where a list changes from what passes a test to what does not, it can be cut in one place
only. -/
theorem append_inj_of_test {p : α → Bool} {xs ys xs' ys' : List α} (h : xs ++ ys = xs' ++ ys')
    (hxs : ∀ x ∈ xs, p x = true) (hys : ∀ y ∈ ys, ¬ p y = true) (hxs' : ∀ x ∈ xs', p x = true)
    (hys' : ∀ y ∈ ys', ¬ p y = true) : xs = xs' ∧ ys = ys' := by
  have cut (us vs : List α) (hu : ∀ u ∈ us, p u = true) (hv : ∀ v ∈ vs, ¬ p v = true) :
      (us ++ vs).filter p = us := by
    rw [List.filter_append, List.filter_eq_self.mpr hu, List.filter_eq_nil_iff.mpr hv,
      List.append_nil]
  obtain rfl : xs = xs' := by rw [← cut xs ys hxs hys, h, cut xs' ys' hxs' hys']
  exact ⟨rfl, List.append_cancel_left h⟩

/-- **A stable sort does not mind what is taken out.** -/
theorem mergeSort_filter (trans : ∀ a b c, le a b = true → le b c = true → le a c = true)
    (total : ∀ a b, (le a b || le b a) = true) (p : α → Bool) (l : List α) :
    (l.filter p).mergeSort le = (l.mergeSort le).filter p := by
  induction l with
  | nil => simp
  | cons a l ih =>
    obtain ⟨l₁, l₂, hal, hl, hbefore⟩ := List.mergeSort_cons trans total a l
    rw [hl, List.filter_append] at ih
    rw [hal, List.filter_append]
    by_cases ha : p a = true
    · obtain ⟨m₁, m₂, ham, hm, hbefore'⟩ := List.mergeSort_cons trans total a (l.filter p)
      -- in both lists `a` stands before the first element that it may stand before
      have behind {us vs : List α} {k : List α} (h : k.mergeSort le = us ++ a :: vs) :
          ∀ v ∈ vs, ¬ (!le a v) = true := by
        have hsorted := List.pairwise_mergeSort trans total k
        rw [h] at hsorted
        have ha := (List.pairwise_cons.mp (List.pairwise_append.mp hsorted).2.1).1
        intro v hv
        simp [ha v hv]
      obtain ⟨rfl, rfl⟩ := append_inj_of_test (hm.symm.trans ih) hbefore' (behind ham)
        (fun x hx => hbefore x (List.mem_filter.mp hx).1)
        (fun y hy => behind hal y (List.mem_filter.mp hy).1)
      rw [List.filter_cons_of_pos ha, List.filter_cons_of_pos ha, ham]
    · rw [List.filter_cons_of_neg ha, List.filter_cons_of_neg ha]
      exact ih

/-- **Hidden entries may be left out before or after a list is sorted.**  The order of those that
are shown is settled by themselves alone. -/
theorem sort_filter (p : Entry → Bool) (es : List Entry) :
    sort (es.filter p) = (sort es).filter p :=
  mergeSort_filter order_trans order_total p es

end Scriptorium.Workspace.Entry
