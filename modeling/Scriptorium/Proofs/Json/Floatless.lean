import Scriptorium.Proofs.Json.Printing

/-!
# Values without floating point numbers

A whole number in range has one text, a floating point number has many.  So a value whose numbers
are all whole and in range (`Value.Floatless`) is read back exactly from its text by every reader
that goes deeper than the value is nested (`Floatless.exact`), and no control character stands in
that text (`Floatless.printable`).

In a result the members of an object stand in the order of their names, and no name is repeated
(`Value.Ordered`).  `Value.sorted` brings every value into this form (`ordered_sorted`), leaves one
that is in it as it is (`Ordered.sorted_eq`), and keeps the last value of each name
(`member?_sorted`).
-/
namespace Scriptorium.Json

open Reader

variable {v w : Value} {vs : List Value} {m : String × Value} {ms : List (String × Value)}
  {name : String} {d : Nat}

namespace Value

/-- A value without floating point numbers, whose whole numbers are in range. -/
inductive Floatless : Value → Prop
  | null : Floatless .null
  | bool (b : Bool) : Floatless (.bool b)
  | whole {i : Int} : IsWhole i → Floatless (.whole i)
  | string (s : String) : Floatless (.string s)
  | array {vs : List Value} : (∀ v ∈ vs, Floatless v) → Floatless (.array vs)
  | object {ms : List (String × Value)} : (∀ m ∈ ms, Floatless m.2) → Floatless (.object ms)

/-! ## 1. Nesting -/

mutual

/-- How many lists and objects stand within each other in a value. -/
def nesting : Value → Nat
  | .array items => nestingOfItems items + 1
  | .object members => nestingOfMembers members + 1
  | _ => 0

/-- `nesting` for the items of an array. -/
def nestingOfItems : List Value → Nat
  | [] => 0
  | v :: rest => max v.nesting (nestingOfItems rest)

/-- `nesting` for the members of an object. -/
def nestingOfMembers : List (String × Value) → Nat
  | [] => 0
  | (_, v) :: rest => max v.nesting (nestingOfMembers rest)

end

theorem nesting_le_items (h : v ∈ vs) : v.nesting ≤ nestingOfItems vs := by
  induction vs with
  | nil => simp at h
  | cons w vs ih =>
    rw [nestingOfItems]
    rcases List.mem_cons.mp h with rfl | h
    · exact Nat.le_max_left _ _
    · exact Nat.le_trans (ih h) (Nat.le_max_right _ _)

theorem nesting_le_members (h : m ∈ ms) : m.2.nesting ≤ nestingOfMembers ms := by
  induction ms with
  | nil => simp at h
  | cons n ms ih =>
    obtain ⟨name, w⟩ := n
    rw [nestingOfMembers]
    rcases List.mem_cons.mp h with rfl | h
    · exact Nat.le_max_left _ _
    · exact Nat.le_trans (ih h) (Nat.le_max_right _ _)

/-- A value can be read as deep as it is nested. -/
theorem Floatless.exact (h : v.Floatless) (hd : v.nesting < d) : Exact d v := by
  induction h generalizing d with
  | null => exact .null
  | bool b => exact .bool b
  | whole hi => exact .whole hi
  | string s => exact .string s
  | @array vs _ ih =>
    rw [nesting] at hd
    obtain ⟨k, rfl⟩ : ∃ k, d = k + 2 := ⟨d - 2, by omega⟩
    refine .array fun v hv => ih v hv ?_
    have hle := nesting_le_items hv
    omega
  | @object ms _ ih =>
    rw [nesting] at hd
    obtain ⟨k, rfl⟩ : ∃ k, d = k + 2 := ⟨d - 2, by omega⟩
    refine .object fun m hm => ih m hm ?_
    have hle := nesting_le_members hm
    omega

/-- **A value is read back from its text** by every reader that goes deep enough. -/
theorem Floatless.parseWithin_render (h : v.Floatless) (hd : v.nesting < d) :
    parseWithin d v.render = .ok v :=
  Reader.parseWithin_render (h.exact hd)

/-- Different values have different texts. -/
theorem Floatless.render_inj (h : v.Floatless) (h' : w.Floatless) (heq : v.render = w.render) :
    v = w := by
  have hv := h.parseWithin_render (d := max v.nesting w.nesting + 1) (by omega)
  have hw := h'.parseWithin_render (d := max v.nesting w.nesting + 1) (by omega)
  rw [heq, hw] at hv
  exact (Except.ok.inj hv).symm

end Value

/-! ## 2. Control characters -/

/-- No control character stands in a text. -/
def Printable (cs : List Char) : Prop := ∀ x ∈ cs, 0x20 ≤ x.toNat

namespace Printable

variable {cs ds : List Char} {x : Char}

theorem nil : Printable [] := by
  intro x hx
  simp at hx

theorem cons (hx : 0x20 ≤ x.toNat) (h : Printable cs) : Printable (x :: cs) := by
  intro y hy
  rcases List.mem_cons.mp hy with rfl | hy
  · exact hx
  · exact h y hy

theorem append (h : Printable cs) (h' : Printable ds) : Printable (cs ++ ds) := by
  intro x hx
  rcases List.mem_append.mp hx with hx | hx
  · exact h x hx
  · exact h' x hx

theorem of_all (h : (cs.all fun x => decide (0x20 ≤ x.toNat)) = true) : Printable cs := by
  intro x hx
  exact of_decide_eq_true (List.all_eq_true.mp h x hx)

theorem hexDigit : ∀ n < 16, 0x20 ≤ (hexDigit n).toNat := by decide

theorem escape (x : Char) : Printable (escape x) := by
  fun_cases Json.escape x
  case case8 hlow =>
    have hhigh := hexDigit (x.toNat / 16) (by omega)
    have hrest := hexDigit (x.toNat % 16) (by omega)
    exact cons (by decide) <| cons (by decide) <| cons (by decide) <| cons (by decide) <|
      cons hhigh <| cons hrest nil
  case case9 hlow => exact cons (by omega) nil
  all_goals exact cons (by decide) (cons (by decide) nil)

theorem quote (s : String) : Printable (quote s) := by
  refine cons (by decide) (append ?_ (cons (by decide) nil))
  intro x hx
  obtain ⟨y, -, hy⟩ := List.mem_flatMap.mp hx
  exact escape y x hy

/-- A whole number is written in digits and at most a sign, all of which can be printed. -/
theorem toString (i : Int) : Printable (toString i).toList := by
  have hdigits (n : Nat) : Printable (Nat.toDigits 10 n) := by
    intro x hx
    have hdigit := isDigit_toDigits hx
    simp only [Char.isDigit, Bool.and_eq_true, decide_eq_true_eq] at hdigit
    exact Nat.le_trans (by decide) (show 48 ≤ x.toNat from hdigit.1)
  cases i with
  | ofNat n =>
    rw [Int.ofNat_eq_natCast, toString_ofNat]
    exact hdigits n
  | negSucc n =>
    rw [toString_negSucc]
    exact cons (by decide) (hdigits (n + 1))

theorem commaSeparated {ts : List (List Char)} (h : ∀ t ∈ ts, Printable t) :
    Printable (commaSeparated ts) := by
  fun_induction Json.commaSeparated ts with
  | case1 => exact nil
  | case2 t => exact h t List.mem_cons_self
  | case3 t ts _ ih =>
    refine append (h t List.mem_cons_self) (cons (by decide) ?_)
    exact ih fun u hu => h u (List.mem_cons_of_mem _ hu)

end Printable

namespace Value

theorem textItems_eq : ∀ vs : List Value, textItems vs = vs.map text
  | [] => rfl
  | v :: vs => by rw [textItems, textItems_eq vs, List.map_cons]

theorem textMembers_eq : ∀ ms : List (String × Value),
    textMembers ms = ms.map fun m => quote m.1 ++ ':' :: m.2.text
  | [] => rfl
  | (name, v) :: ms => by rw [textMembers, textMembers_eq ms, List.map_cons]

/-- **No control character stands in the text of a value.** -/
theorem Floatless.printable (h : v.Floatless) : Printable v.text := by
  induction h with
  | null => exact .of_all (by decide)
  | bool b => cases b <;> exact .of_all (by decide)
  | @whole i _ => exact .toString i
  | string s => exact .quote s
  | @array vs _ ih =>
    rw [text, textItems_eq]
    refine .cons (by decide) (.append (.commaSeparated fun t ht => ?_) (.cons (by decide) .nil))
    obtain ⟨v, hv, rfl⟩ := List.mem_map.mp ht
    exact ih v hv
  | @object ms _ ih =>
    rw [text, textMembers_eq]
    refine .cons (by decide) (.append (.commaSeparated fun t ht => ?_) (.cons (by decide) .nil))
    obtain ⟨m, hm, rfl⟩ := List.mem_map.mp ht
    exact .append (.quote m.1) (.cons (by decide) (ih m hm))

/-! ## 3. The order of members -/

/-- A value in which the members of every object stand in the order of their names, each name
once. -/
inductive Ordered : Value → Prop
  | null : Ordered .null
  | bool (b : Bool) : Ordered (.bool b)
  | number (n : Number) : Ordered (.number n)
  | string (s : String) : Ordered (.string s)
  | array {vs : List Value} : (∀ v ∈ vs, Ordered v) → Ordered (.array vs)
  | object {ms : List (String × Value)} : ms.Pairwise (fun m n => m.1 < n.1) →
      (∀ m ∈ ms, Ordered m.2) → Ordered (.object ms)

theorem sortedItems_eq : ∀ vs : List Value, sortedItems vs = vs.map sorted
  | [] => rfl
  | v :: vs => by rw [sortedItems, sortedItems_eq vs, List.map_cons]

/-- Putting a member in its place among others adds this one and no other. -/
theorem mem_insert (h : m ∈ insert name v ms) : m = (name, v) ∨ m ∈ ms := by
  induction ms with
  | nil => exact .inl (by simpa [insert] using h)
  | cons n ms ih =>
    obtain ⟨n, w⟩ := n
    rw [insert] at h
    split at h
    · exact List.mem_cons.mp h
    · split at h
      · exact .inr h
      · rcases List.mem_cons.mp h with rfl | h
        · exact .inr List.mem_cons_self
        · exact (ih h).imp_right (List.mem_cons_of_mem _)

/-- A member is put in its place. -/
theorem pairwise_insert (h : ms.Pairwise fun m n => m.1 < n.1) :
    (insert name v ms).Pairwise fun m n => m.1 < n.1 := by
  induction ms with
  | nil => exact List.pairwise_singleton _ _
  | cons n ms ih =>
    obtain ⟨n, w⟩ := n
    obtain ⟨hfirst, hrest⟩ := List.pairwise_cons.mp h
    rw [insert]
    split
    · rename_i hlt
      refine List.pairwise_cons.mpr ⟨fun m hm => ?_, h⟩
      rcases List.mem_cons.mp hm with rfl | hm
      · exact hlt
      · exact String.lt_trans hlt (hfirst m hm)
    · split
      · exact h
      · rename_i hlt hne
        refine List.pairwise_cons.mpr ⟨fun m hm => ?_, ih hrest⟩
        rcases mem_insert hm with rfl | hm
        · exact Std.lt_of_le_of_ne (String.not_lt.mp hlt) (Ne.symm hne)
        · exact hfirst m hm

/-- The first of the members keeps its place. -/
theorem insert_eq_cons (h : ∀ m ∈ ms, name < m.1) : insert name v ms = (name, v) :: ms := by
  cases ms with
  | nil => rfl
  | cons n ms =>
    obtain ⟨n, w⟩ := n
    rw [insert, if_pos (h _ List.mem_cons_self)]

/-- Putting members in order makes none up: each has the name and the value, in order itself, of one
that was there. -/
theorem mem_sortedMembers (h : m ∈ sortedMembers ms) : ∃ n ∈ ms, m = (n.1, n.2.sorted) := by
  induction ms with
  | nil => simp [sortedMembers] at h
  | cons n ms ih =>
    obtain ⟨name, w⟩ := n
    rw [sortedMembers] at h
    rcases mem_insert h with rfl | h
    · exact ⟨_, List.mem_cons_self, rfl⟩
    · obtain ⟨n, hn, heq⟩ := ih h
      exact ⟨n, List.mem_cons_of_mem _ hn, heq⟩

/-- Putting members in order brings in no floating point number, and no whole number out of range.
-/
theorem Floatless.sorted (h : v.Floatless) : v.sorted.Floatless := by
  induction h with
  | null => exact .null
  | bool b => exact .bool b
  | whole hi => exact .whole hi
  | string s => exact .string s
  | @array vs _ ih =>
    rw [Value.sorted, sortedItems_eq]
    refine .array fun v hv => ?_
    obtain ⟨w, hw, rfl⟩ := List.mem_map.mp hv
    exact ih w hw
  | @object ms _ ih =>
    rw [Value.sorted]
    refine .object fun m hm => ?_
    obtain ⟨n, hn, rfl⟩ := mem_sortedMembers hm
    exact ih n hn

/-- A value in order is left as it is. -/
theorem Ordered.sorted_eq (h : v.Ordered) : v.sorted = v := by
  induction h with
  | null => rfl
  | bool b => rfl
  | number n => rfl
  | string s => rfl
  | @array vs _ ih =>
    rw [Value.sorted, sortedItems_eq, List.map_congr_left ih, List.map_id']
  | @object ms hms _ ih =>
    have hmembers : sortedMembers ms = ms := by
      clear * - hms ih
      induction ms with
      | nil => rfl
      | cons m ms ih' =>
        obtain ⟨name, w⟩ := m
        obtain ⟨hfirst, hrest⟩ := List.pairwise_cons.mp hms
        rw [sortedMembers, ih' hrest fun n hn => ih n (List.mem_cons_of_mem _ hn),
          ih (name, w) List.mem_cons_self, insert_eq_cons hfirst]
    rw [Value.sorted, hmembers]

/-- A member that is there already is kept. -/
theorem member?_insert (h : ms.Pairwise fun m n => m.1 < n.1) (key : String) :
    (Value.object (insert name v ms)).member? key
      = ((Value.object ms).member? key).or (if name = key then some v else none) := by
  induction ms with
  | nil => by_cases hkey : name = key <;> simp [insert, member?, hkey]
  | cons n ms ih =>
    obtain ⟨n, w⟩ := n
    obtain ⟨hfirst, hrest⟩ := List.pairwise_cons.mp h
    rw [insert]
    split
    · rename_i hlt
      by_cases hkey : name = key
      · subst hkey
        have hnone : ((n, w) :: ms).find? (fun m => m.1 == name) = none := by
          refine List.find?_eq_none.mpr fun m hm => ?_
          have hafter : name < m.1 := by
            rcases List.mem_cons.mp hm with rfl | hm
            · exact hlt
            · exact String.lt_trans hlt (hfirst m hm)
          intro heq
          exact String.lt_irrefl name (eq_of_beq heq ▸ hafter)
        simp [member?, hnone]
      · simp [member?, hkey]
    · split
      · rename_i hsame
        subst hsame
        by_cases hkey : name = key <;> simp [member?, hkey]
      · have hmore := ih hrest
        by_cases hkey : n = key
        · simp [member?, hkey]
        · simpa [member?, hkey] using hmore

theorem pairwise_sortedMembers :
    ∀ ms : List (String × Value), (sortedMembers ms).Pairwise fun m n => m.1 < n.1
  | [] => List.Pairwise.nil
  | (_, _) :: ms => by
    rw [sortedMembers]
    exact pairwise_insert (pairwise_sortedMembers ms)

/-- **An object in order has the members that it had before**, of those with one name the last. -/
theorem member?_sorted (ms : List (String × Value)) (key : String) :
    (sorted (.object ms)).member? key = ((Value.object ms.reverse).member? key).map sorted := by
  rw [Value.sorted]
  induction ms with
  | nil => rfl
  | cons m ms ih =>
    obtain ⟨name, w⟩ := m
    rw [sortedMembers, member?_insert (pairwise_sortedMembers ms), ih, List.reverse_cons]
    by_cases hkey : name = key
    · cases hfind : ms.reverse.find? (fun m => m.1 == key) <;> simp [member?, hkey, hfind]
    · cases hfind : ms.reverse.find? (fun m => m.1 == key) <;> simp [member?, hkey, hfind]

mutual

/-- Every value is brought in order. -/
theorem ordered_sorted : ∀ v : Value, v.sorted.Ordered
  | .null => .null
  | .bool b => .bool b
  | .number n => .number n
  | .string s => .string s
  | .array vs => by
    rw [Value.sorted, sortedItems_eq]
    refine .array fun v hv => ?_
    obtain ⟨w, hw, rfl⟩ := List.mem_map.mp hv
    exact ordered_sorted_of_mem vs w hw
  | .object ms => by
    rw [Value.sorted]
    refine .object (pairwise_sortedMembers ms) fun m hm => ?_
    obtain ⟨n, hn, rfl⟩ := mem_sortedMembers hm
    exact ordered_sorted_of_member ms n hn

/-- `ordered_sorted` for the items of an array. -/
theorem ordered_sorted_of_mem : ∀ vs : List Value, ∀ v ∈ vs, v.sorted.Ordered
  | [], _, h => absurd h List.not_mem_nil
  | w :: vs, v, h => by
    rcases List.mem_cons.mp h with heq | h
    · rw [heq]
      exact ordered_sorted w
    · exact ordered_sorted_of_mem vs v h

/-- `ordered_sorted` for the members of an object. -/
theorem ordered_sorted_of_member : ∀ ms : List (String × Value), ∀ m ∈ ms, m.2.sorted.Ordered
  | [], _, h => absurd h List.not_mem_nil
  | (name, w) :: ms, m, h => by
    rcases List.mem_cons.mp h with heq | h
    · rw [heq]
      exact ordered_sorted w
    · exact ordered_sorted_of_member ms m h

end

end Value
end Scriptorium.Json
