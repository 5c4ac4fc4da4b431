import Mathlib.Data.List.Nodup
import Scriptorium.Json.Tagged
import Scriptorium.Proofs.Json.Printing
import Scriptorium.Proofs.Succeeds

/-!
# What a tagged record is taken from

The members of one name are counted by their values (`valuesOf`), and a row is taken from the
members of an object exactly if they give each field what it holds (`Row.Given`, `rowOf_members`):
a text once, an optional field at most once, whatever else there is.  That the members are gone
through in order, to find the first that is at fault, shows only in the message of a refusal.

The tag is found among the members as they are read.  A string that is read as a value is the
string that would be read as a tag (`Reads.yields_string`), so what becomes of an object whose tag
is looked for can be said of the members that the object has (`yields_membersWithTag`).
-/
namespace Scriptorium.Json

/-! ## 1. Members of one name -/

/-- The values of the members of a name, in their order. -/
def valuesOf (name : String) (ms : List (String × Value)) : List Value :=
  (ms.filter (·.1 == name)).map (·.2)

/-- The members of other names. -/
def othersOf (name : String) (ms : List (String × Value)) : List (String × Value) :=
  ms.filter (·.1 != name)

variable {name other : String} {v : Value} {ms : List (String × Value)}

@[simp] theorem valuesOf_nil (name : String) : valuesOf name [] = [] := rfl

@[simp] theorem valuesOf_cons_self (name : String) (v : Value) (ms : List (String × Value)) :
    valuesOf name ((name, v) :: ms) = v :: valuesOf name ms := by
  simp [valuesOf]

theorem valuesOf_cons_of_ne (h : other ≠ name) (v : Value) (ms : List (String × Value)) :
    valuesOf name ((other, v) :: ms) = valuesOf name ms := by
  simp [valuesOf, h]

theorem valuesOf_othersOf (h : other ≠ name) (ms : List (String × Value)) :
    valuesOf other (othersOf name ms) = valuesOf other ms := by
  rw [valuesOf, valuesOf, othersOf, List.filter_filter]
  refine congrArg (List.map _) (List.filter_congr fun m _ => ?_)
  by_cases hm : m.1 = other <;> simp [hm, h]

theorem valuesOf_eq_nil (h : name ∉ ms.map (·.1)) : valuesOf name ms = [] := by
  rw [valuesOf, List.map_eq_nil_iff, List.filter_eq_nil_iff]
  intro m hm heq
  exact h (List.mem_map.mpr ⟨m, hm, by simpa using heq⟩)

/-- In an object without duplicate names, a name has one value. -/
theorem valuesOf_eq_singleton (hnodup : (ms.map (·.1)).Nodup) (hm : (name, v) ∈ ms) :
    valuesOf name ms = [v] := by
  induction ms with
  | nil => simp at hm
  | cons m ms ih =>
    obtain ⟨hfirst, hnodup⟩ := List.nodup_cons.mp hnodup
    obtain rfl | hm := List.mem_cons.mp hm
    · rw [valuesOf_cons_self, valuesOf_eq_nil hfirst]
    · have hne : m.1 ≠ name := fun h => hfirst (List.mem_map.mpr ⟨_, hm, h.symm⟩)
      rw [valuesOf_cons_of_ne hne, ih hnodup hm]

/-- Where no name comes twice, the order of the members does not matter. -/
theorem valuesOf_perm {ms' : List (String × Value)} (h : ms.Perm ms')
    (hnodup : (ms'.map (·.1)).Nodup) : valuesOf name ms = valuesOf name ms' := by
  by_cases hmem : name ∈ ms'.map (·.1)
  · obtain ⟨m, hm, rfl⟩ := List.mem_map.mp hmem
    rw [valuesOf_eq_singleton hnodup hm]
    exact valuesOf_eq_singleton ((h.map _).nodup_iff.mpr hnodup) (h.mem_iff.mpr hm)
  · rw [valuesOf_eq_nil hmem, valuesOf_eq_nil (fun hm => hmem ((h.map _).mem_iff.mp hm))]

theorem firstOf_eq (name : String) (ms : List (String × Value)) :
    firstOf name ms = (valuesOf name ms).head? := by
  rw [firstOf, valuesOf, List.head?_map, List.head?_filter]

/-! ## 2. Rows -/

/-- What the values of a field's members have to be for the field to hold this. -/
def Kind.Given : (k : Kind) → k.Holds → List Value → Prop
  | .text, s, vs => vs = [.string s]
  | .optionalText, none, vs => vs = [] ∨ vs = [.null]
  | .optionalText, some s, vs => vs = [.string s]
  | .optionalNatural, none, vs => vs = [] ∨ vs = [.null]
  | .optionalNatural, some n, vs => vs = [.whole n] ∧ n ≤ Reader.maxWhole

/-- The members of an object give each field of a row what it holds. -/
def Row.Given : {slots : List Slot} → Row slots → List (String × Value) → Prop
  | [], .nil, _ => True
  | slot :: _, .cons a rest, ms => slot.kind.Given a (valuesOf slot.name ms) ∧ rest.Given ms

/-- Only the members of the names of slots matter. -/
theorem Row.given_congr {ms ms' : List (String × Value)} : ∀ {slots : List Slot} {row : Row slots},
    (∀ slot ∈ slots, valuesOf slot.name ms = valuesOf slot.name ms') →
      (row.Given ms ↔ row.Given ms')
  | [], .nil, _ => Iff.rfl
  | slot :: slots, .cons a rest, h => by
    rw [Given, Given, h slot List.mem_cons_self,
      rest.given_congr fun s hs => h s (List.mem_cons_of_mem _ hs)]

/-- A number is taken as a natural one exactly if it is whole, not negative, and within the bound.
-/
theorem naturalOf_eq_ok {bound n : Nat} {expected : String} {x : Number} :
    naturalOf bound expected x = .ok n ↔ x = .whole n ∧ n ≤ bound := by
  unfold naturalOf
  split
  · rename_i k
    split
    · rename_i hk
      constructor
      · intro h
        obtain rfl := Except.ok.inj h
        exact ⟨rfl, hk⟩
      · rintro ⟨h, -⟩
        obtain rfl : k = n := Int.ofNat.inj (Number.whole.inj h)
        rfl
    · rename_i hk
      simp only [reduceCtorEq, false_iff, not_and]
      intro h
      obtain rfl : k = n := Int.ofNat.inj (Number.whole.inj h)
      exact hk
  · rename_i hno
    simp only [reduceCtorEq, false_iff, not_and]
    rintro ⟨⟩
    exact absurd rfl (hno n)
  · simp

namespace Kind

variable {k : Kind} {a : k.Holds}

/-- A field that is left out holds what it holds then. -/
theorem given_nil : k.Given a [] ↔ k.whenMissing = some a := by
  cases k with
  | text => simp [Given, whenMissing]
  | optionalText => cases a <;> simp [Given, whenMissing]
  | optionalNatural => cases a <;> simp [Given, whenMissing]

/-- A field that is there once holds what its value is read as. -/
theorem given_singleton : k.Given a [v] ↔ k.read v = .ok a := by
  cases k with
  | text => cases v <;> simp [Given, read, eq_comm]
  | optionalText => cases a <;> cases v <;> simp [Given, read, eq_comm]
  | optionalNatural =>
    cases v with
    | number x =>
      rw [read, map_eq_ok]
      simp only [naturalOf_eq_ok]
      cases a <;> simp [Given, Value.whole]
    | _ => cases a <;> simp [Given, read, Value.whole]

theorem given_iff {vs : List Value} :
    k.Given a vs ↔ (vs = [] ∧ k.whenMissing = some a) ∨ ∃ v, vs = [v] ∧ k.read v = .ok a := by
  match vs with
  | [] => simp [given_nil]
  | [v] => simp [given_singleton]
  | v :: w :: vs => cases k <;> cases a <;> simp [Given]

end Kind

/-- The members of the names of slots can be read, and no name comes twice. -/
def Readable (slots : List Slot) (seen : List String) (ms : List (String × Value)) : Prop :=
  ∀ slot ∈ slots, (slot.name ∈ seen → valuesOf slot.name ms = [])
    ∧ (valuesOf slot.name ms = [] ∨ ∃ v a, valuesOf slot.name ms = [v] ∧ slot.kind.read v = .ok a)

theorem readable_congr {slots : List Slot} {seen seen' : List String}
    {ms ms' : List (String × Value)}
    (h : ∀ slot ∈ slots, valuesOf slot.name ms = valuesOf slot.name ms'
      ∧ (slot.name ∈ seen ↔ slot.name ∈ seen')) :
    Readable slots seen ms ↔ Readable slots seen' ms' := by
  refine forall₂_congr fun slot hslot => ?_
  rw [(h slot hslot).1, (h slot hslot).2]

/-- What it takes for one member more to be readable. -/
theorem readable_cons {slots : List Slot} {slot : Slot} {seen : List String}
    (hslots : (slots.map (·.name)).Nodup) (hmem : slot ∈ slots) :
    Readable slots seen ((slot.name, v) :: ms)
      ↔ slot.name ∉ seen ∧ (∃ a, slot.kind.read v = .ok a)
        ∧ Readable slots (slot.name :: seen) ms := by
  constructor
  · intro h
    obtain ⟨hseen, hvalue⟩ := h slot hmem
    simp only [valuesOf_cons_self, reduceCtorEq, imp_false, false_or, List.cons.injEq]
      at hseen hvalue
    obtain ⟨_, a, ⟨rfl, hnone⟩, hread⟩ := hvalue
    refine ⟨hseen, ⟨a, hread⟩, fun s hs => ?_⟩
    by_cases hname : s.name = slot.name
    · rw [hname, hnone]
      exact ⟨fun _ => rfl, .inl rfl⟩
    · have hs := h s hs
      rw [valuesOf_cons_of_ne (Ne.symm hname)] at hs
      simpa [hname] using hs
  · rintro ⟨hseen, ⟨a, hread⟩, h⟩ s hs
    by_cases hname : s.name = slot.name
    · obtain rfl := List.inj_on_of_nodup_map hslots hs hmem hname
      have hnone := (h s hs).1 List.mem_cons_self
      simp only [valuesOf_cons_self, hnone, reduceCtorEq, imp_false, false_or]
      exact ⟨hseen, v, a, rfl, hread⟩
    · have hs := h s hs
      rw [valuesOf_cons_of_ne (Ne.symm hname)]
      simpa [hname] using hs

/-- The members pass the first check, in the order of the text, exactly if no slot is named twice
and each can be read by its slot. -/
theorem checkMembers_eq_ok {slots : List Slot} (hslots : (slots.map (·.name)).Nodup)
    (seen : List String) (ms : List (String × Value)) :
    checkMembers slots seen ms = .ok () ↔ Readable slots seen ms := by
  induction ms generalizing seen with
  | nil => simp [checkMembers, Readable]
  | cons m ms ih =>
    obtain ⟨name, v⟩ := m
    rw [checkMembers]
    split
    · rename_i hnone
      rw [ih]
      refine readable_congr fun slot hslot => ⟨?_, Iff.rfl⟩
      have hne : slot.name ≠ name := by simpa using List.find?_eq_none.mp hnone slot hslot
      exact (valuesOf_cons_of_ne hne.symm v ms).symm
    · rename_i slot hfound
      have hmem := List.mem_of_find?_eq_some hfound
      obtain rfl : slot.name = name := by simpa using List.find?_some hfound
      rw [readable_cons hslots hmem, ← ih]
      by_cases hseen : slot.name ∈ seen
      · simp [hseen]
      · simp only [List.contains_eq_mem, hseen, decide_false, Bool.false_eq_true, if_false,
          not_false_iff, true_and]
        cases slot.kind.read v <;> simp

/-- What is gathered from members that have passed the check is the row that they give, slot by
slot; a slot that was left out has its default. -/
theorem gather_eq_ok {ms : List (String × Value)} : ∀ {slots : List Slot},
    Readable slots [] ms → ∀ row : Row slots, gather ms slots = .ok row ↔ row.Given ms
  | [], _, .nil => by simp [gather, Row.Given]
  | slot :: slots, h, .cons a rest => by
    have hrest : Readable slots [] ms := fun s hs => h s (List.mem_cons_of_mem _ hs)
    rw [gather, Row.Given, ← gather_eq_ok hrest rest, Kind.given_iff, firstOf_eq]
    rcases (h slot List.mem_cons_self).2 with hnone | ⟨v, a', hv, hread⟩
    · simp only [hnone, List.head?_nil, true_and]
      cases hm : slot.kind.whenMissing with
      | none => simp
      | some b => simp [map_eq_ok, and_comm]
    · simp [hv, hread, map_eq_ok, and_comm]

theorem Row.Given.readable : ∀ {slots : List Slot} {row : Row slots}, row.Given ms →
    Readable slots [] ms
  | [], .nil, _ => fun slot hslot => absurd hslot (by simp)
  | slot :: slots, .cons a rest, ⟨hfirst, hrest⟩ => by
    intro s hs
    refine ⟨fun hno => absurd hno (by simp), ?_⟩
    rcases List.mem_cons.mp hs with rfl | hs
    · exact (Kind.given_iff.mp hfirst).imp And.left fun ⟨v, hv, hread⟩ => ⟨v, a, hv, hread⟩
    · exact (hrest.readable s hs).2

/-- **A row is taken from the members of an object exactly if they give it.** -/
theorem rowOf_members {title : String} {slots : List Slot} (hslots : (slots.map (·.name)).Nodup)
    {row : Row slots} : rowOf title slots (.members ms) = .ok row ↔ row.Given ms := by
  by_cases hread : Readable slots [] ms
  · rw [rowOf, (checkMembers_eq_ok hslots [] ms).mpr hread]
    exact gather_eq_ok hread row
  · refine iff_of_false (fun h => ?_) fun h => hread h.readable
    cases hcheck : checkMembers slots [] ms with
    | error e => simp [rowOf, hcheck] at h
    | ok u => exact hread ((checkMembers_eq_ok hslots [] ms).mp hcheck)

/-! ## 3. Rows as they are written -/

/-- What a field holds is in range. -/
def Kind.Fits : (k : Kind) → k.Holds → Prop
  | .optionalNatural, some n => n ≤ Reader.maxWhole
  | _, _ => True

/-- What each field of a row holds is in range. -/
def Row.Fits : {slots : List Slot} → Row slots → Prop
  | [], .nil => True
  | slot :: _, .cons a rest => slot.kind.Fits a ∧ rest.Fits

theorem Kind.Fits.given_write : ∀ {k : Kind} {a : k.Holds}, k.Fits a → k.Given a [k.write a]
  | .text, _, _ => rfl
  | .optionalText, none, _ => .inr rfl
  | .optionalText, some _, _ => rfl
  | .optionalNatural, none, _ => .inr rfl
  | .optionalNatural, some _, h => ⟨rfl, h⟩

theorem Row.names_members : ∀ {slots : List Slot} (row : Row slots),
    row.members.map (·.1) = slots.map (·.name)
  | [], .nil => rfl
  | slot :: _, .cons _ rest => congrArg (slot.name :: ·) rest.names_members

/-- The members that a row is written as give it. -/
theorem Row.Fits.given_members : ∀ {slots : List Slot} {row : Row slots}, row.Fits →
    (slots.map (·.name)).Nodup → row.Given row.members
  | [], .nil, _, _ => trivial
  | slot :: slots, .cons a rest, ⟨hfirst, hrest⟩, hnodup => by
    obtain ⟨hnot, hnodup⟩ := List.nodup_cons.mp hnodup
    rw [members, Given, valuesOf_cons_self, valuesOf_eq_nil (by rwa [rest.names_members])]
    refine ⟨hfirst.given_write, (given_congr fun s hs => ?_).mpr (hrest.given_members hnodup)⟩
    exact valuesOf_cons_of_ne (fun h => hnot (List.mem_map.mpr ⟨s, hs, h.symm⟩)) _ _

theorem Kind.Fits.exact_write {d : Nat} : ∀ {k : Kind} {a : k.Holds}, k.Fits a →
    Reader.Exact d (k.write a)
  | .text, s, _ => .string s
  | .optionalText, none, _ => .null
  | .optionalText, some s, _ => .string s
  | .optionalNatural, none, _ => .null
  | .optionalNatural, some n, h => .whole ⟨by omega, Int.ofNat_le.mpr h⟩

theorem Row.Fits.exact_members {d : Nat} : ∀ {slots : List Slot} {row : Row slots}, row.Fits →
    ∀ m ∈ row.members, Reader.Exact d m.2
  | [], .nil, _ => fun m hm => absurd hm (by simp [members])
  | _ :: _, .cons _ rest, h => by
    intro m hm
    obtain rfl | hm := List.mem_cons.mp hm
    · exact h.1.exact_write
    · exact exact_members (show rest.Fits from h.2) m hm

/-! ## 4. The tag -/

namespace Reader

variable {α β : Type} {r : Reader α} {c c' c'' : Cursor} {a : α} {d : Nat} {expected : String}

/-- What is not as expected is never taken. -/
theorem not_yields_unexpected : ¬ Yields (unexpected expected : Reader α) c a c' := by
  unfold unexpected
  rw [yields_placed, yields_bind]
  rintro ⟨x, c₁, -, h⟩
  -- a number is read before it is refused
  split at h
  case h_8 => split at h <;> simp at h
  all_goals simp at h

/-- A string is read where a value could be. -/
theorem yields_string {s : String} :
    Yields (string expected) c s c' ↔ Reads d c (.value (.string s)) c' := by
  rw [string, reads_string]
  constructor
  · intro h
    obtain ⟨x, c₁, hpeek, h⟩ := yields_bind.mp h
    obtain ⟨hx, rfl⟩ := yields_peekValue.mp hpeek
    split at h
    · obtain ⟨_, c₁, hskip, htail⟩ := yields_bind.mp h
      exact ⟨hx, c₁, hskip, htail⟩
    · exact absurd h not_yields_unexpected
  · rintro ⟨hx, c₁, hskip, htail⟩
    exact (peekValue_bind hx).mpr (yields_bind.mpr ⟨(), c₁, hskip, htail⟩)

/-- Where a value is read, a string is read exactly if the value is that string. -/
theorem Reads.yields_string {v : Value} {s : String} (h : Reads d c (.value v) c') :
    Yields (string expected) c s c'' ↔ v = .string s ∧ c'' = c' := by
  rw [Reader.yields_string (d := d)]
  constructor
  · exact fun h' => (h.unique h').imp_right Eq.symm
  · rintro ⟨rfl, rfl⟩
    exact h

/-- One of some words is read exactly if the value is a text that is among them. -/
theorem Reads.yields_choice {v : Value} {names : List String} {choose : String → Option α}
    (h : Reads d c (.value v) c') :
    Yields (choice expected names choose) c a c''
      ↔ (∃ s, v = .string s ∧ choose s = some a) ∧ c'' = c' := by
  rw [choice, yields_placed, yields_bind]
  constructor
  · rintro ⟨s, c₁, hs, hchoose⟩
    obtain ⟨rfl, rfl⟩ := h.yields_string.mp hs
    cases hc : choose s with
    | none => simp [hc] at hchoose
    | some b =>
      rw [hc] at hchoose
      obtain ⟨rfl, rfl⟩ := yields_pure.mp hchoose
      exact ⟨⟨s, rfl, hc⟩, rfl⟩
  · rintro ⟨⟨s, rfl, hc⟩, rfl⟩
    exact ⟨s, _, h.yields_string.mpr ⟨rfl, rfl⟩, by simp [hc]⟩

/-- The word that a value is, if it is one that is known. -/
def chosen (choose : String → Option α) : Value → Option α
  | .string s => choose s
  | _ => none

theorem chosen_eq_some {choose : String → Option α} {v : Value} :
    chosen choose v = some a ↔ ∃ s, v = .string s ∧ choose s = some a := by
  cases v <;> simp [chosen]

/-- **The member with the tag is found wherever it stands** among the others, and these are kept in
their order until it is known what they are to be read as. -/
theorem yields_membersWithTag {name : String} {choose : String → Option α} {names : List String}
    {first : Bool} {ms : List (String × Value)} (h : Reads d c (.members first ms) c')
    {fuel : Nat} (hfuel : 2 * c.rest.length + first.toNat < fuel) (found : Option α)
    (done : List (String × Value)) {x : α × Body} :
    Yields (membersWithTag name (choice expected names choose) d fuel first found done) c x c''
      ↔ (∃ a, found.toList.map some ++ (valuesOf name ms).map (chosen choose) = [some a]
          ∧ x = (a, .members (done.reverse ++ othersOf name ms))) ∧ c'' = c' := by
  induction ms generalizing first c fuel found done with
  | nil =>
    obtain _ | fuel := fuel
    · omega
    cases h with
    | noMember hnext =>
      refine hnext.bind_iff.trans ?_
      cases found with
      | none => simp
      | some a => simp [othersOf, eq_comm]
  | cons m ms ih =>
    obtain _ | fuel := fuel
    · omega
    cases h with
    | @member _ _ c₁ c₂ c₃ _ _ key v _ hnext hcolon hv hms =>
      have hfuel' : 2 * c₃.rest.length + false.toNat < fuel := by
        have := Shrinks.nextKey _ hnext
        have := Shrinks.colon hcolon
        have := hv.length_le
        cases first with
        | true =>
          simp at hfuel ⊢
          omega
        | false =>
          have := nextKey_shortens hnext
          simp at hfuel ⊢
          omega
      refine hnext.bind_iff.trans ?_
      dsimp only
      split
      · rename_i hkey
        subst hkey
        rw [valuesOf_cons_self]
        cases found with
        | some b => simp
        | none =>
          rw [Option.isSome_none, if_neg Bool.false_ne_true, hcolon.bind_iff, yields_bind]
          simp only [hv.yields_choice, ← chosen_eq_some]
          cases hc : chosen choose v with
          | none => simp [hc]
          | some b =>
            have hothers : othersOf key ((key, v) :: ms) = othersOf key ms := by simp [othersOf]
            have hih := ih hms hfuel' (some b) done
            rw [hothers, List.map_cons, hc, Option.toList_none, List.map_nil, List.nil_append]
            rw [Option.toList_some, List.map_singleton, List.singleton_append] at hih
            rw [← hih]
            simp
      · rename_i hkey
        rw [hcolon.bind_iff, (yields_value.mpr hv).bind_iff, ih hms hfuel',
          valuesOf_cons_of_ne hkey]
        simp [othersOf, hkey]

theorem Scalar.not_object {x : Char} {r : Reader Value} {ms : List (String × Value)}
    (hr : Scalar x r) : ¬ Yields r c (.object ms) c' := by
  cases hr <;> simp

/-- **What is taken of a tagged object** is the word that its only tag says, and the other
members. -/
theorem Reads.yields_taggedBy {title name : String} {choose : String → Option α}
    {names : List String} {ms : List (String × Value)} (h : Reads d c (.value (.object ms)) c')
    {x : α × Body} : Yields (taggedBy title name (choice expected names choose) d) c x c''
      ↔ ((valuesOf name ms).map (chosen choose) = [some x.1] ∧ x.2 = .members (othersOf name ms))
        ∧ c'' = c' := by
  cases h with
  | @scalar _ _ _ y r _ hx hr hv => exact absurd hv hr.not_object
  | @object d _ c₁ c₂ _ _ hx hskip hin hend =>
    have hinside : Yields (taggedBy title name (choice expected names choose) (d + 2)) c x c''
        ↔ Yields (do
            let depth ← enter (d + 2)
            skip
            closedBy (do
                membersWithTag name (choice expected names choose) depth (← enough) true none [])
              endObject) c.token x c'' := by
      rw [taggedBy, yields_placed]
      exact peekValue_bind hx
    have hmembers {c₃ : Cursor} : Yields (do
          membersWithTag name (choice expected names choose) (d + 1) (← enough) true none [])
          c₁ x c₃
        ↔ ((valuesOf name ms).map (chosen choose) = [some x.1]
          ∧ x.2 = .members (othersOf name ms)) ∧ c₃ = c₂ := by
      rw [(yields_enough.mpr ⟨rfl, rfl⟩ : Yields enough c₁ _ _).bind_iff,
        yields_membersWithTag hin (by simp) none []]
      obtain ⟨a, body⟩ := x
      simp
    have henter : Yields (enter (d + 2)) c.token (d + 1) c.token :=
      yields_enter.mpr ⟨⟨d, rfl, rfl⟩, rfl⟩
    rw [hinside, henter.bind_iff, hskip.bind_iff, yields_closedBy]
    simp only [hmembers]
    constructor
    · rintro ⟨_, ⟨hx, rfl⟩, hclose⟩
      exact ⟨hx, (hend.unique hclose).2.symm⟩
    · rintro ⟨hx, rfl⟩
      exact ⟨c₂, ⟨hx, rfl⟩, hend⟩

end Reader
end Scriptorium.Json
