import Mathlib.Data.List.Induction
import Mathlib.Data.List.TakeWhile
import Scriptorium.Proofs.Json.Reading

/-!
# Whole numbers in a JSON text

A number is read digit by digit, and in the end it is a whole number or one that is rounded.  It is
whole exactly if its text is the decimal text of a number in range and nothing continues it
(`reads_whole`): a fraction or an exponent makes a number that is not whole whatever its value
(`yields_finish`), digits are absorbed to the last one only if their value is not too large
(`absorb_eq_nil`), and digits without a zero in front are those of their value
(`toDigits_ofDigitChars`).  So the text that a whole number is written as is the only one for it,
but for blanks around it (`parse_eq_whole`).
-/
namespace Scriptorium.Json.Reader

variable {c c' : Cursor} {x : Char} {rest : List Char}

/-! ## 1. Digits and their value -/

theorem le_ofDigitChars (n : Nat) (ds : List Char) : n ≤ Nat.ofDigitChars 10 ds n := by
  rw [Nat.ofDigitChars_eq_ofDigitChars_zero]
  have := Nat.le_mul_of_pos_left n (Nat.pow_pos (n := ds.length) (show 0 < 10 by decide))
  omega

/-- Digits are absorbed to the last one exactly if their value is not too large. -/
theorem absorb_eq_nil {n m : Nat} (hn : n ≤ maxWhole) {ds : List Char} :
    absorb n ds = (m, []) ↔ m = Nat.ofDigitChars 10 ds n ∧ m ≤ maxWhole := by
  induction ds generalizing n with
  | nil =>
    simp only [absorb, Prod.mk.injEq, and_true, Nat.ofDigitChars_nil]
    exact ⟨fun h => ⟨h.symm, h ▸ hn⟩, fun h => h.1.symm⟩
  | cons d ds ih =>
    have hcons : Nat.ofDigitChars 10 (d :: ds) n
        = Nat.ofDigitChars 10 ds (n * 10 + (d.toNat - 48)) := by
      rw [Nat.ofDigitChars_cons, Nat.mul_comm]
      rfl
    rw [absorb, hcons]
    split
    · rename_i hle
      exact ih hle
    · rename_i hgt
      have := le_ofDigitChars (n * 10 + (d.toNat - 48)) ds
      refine iff_of_false (by simp) ?_
      rintro ⟨rfl, hle⟩
      omega

theorem head?_append_of_ne_nil {ds : List Char} (h : ds ≠ []) :
    (ds ++ rest).head? = ds.head? := by
  cases ds with
  | nil => exact absurd rfl h
  | cons d ds => rfl

/-- No number begins with a zero but zero itself; so what is written is what a reader takes for a
number. -/
theorem head?_toDigits {n : Nat} : (Nat.toDigits 10 n).head? = some '0' ↔ n = 0 := by
  induction n using Nat.strongRecOn with
  | ind n ih =>
    rw [Nat.toDigits_eq_if (by decide)]
    split
    · rename_i hlt
      have hall : ∀ k < 10, Nat.digitChar k = '0' ↔ k = 0 := by decide
      simp [hall n hlt]
    · rename_i hge
      rw [head?_append_of_ne_nil Nat.toDigits_ne_nil, ih _ (by omega)]
      omega

theorem isDigit_toDigits {n : Nat} {d : Char} (hd : d ∈ Nat.toDigits 10 n) : d.isDigit = true :=
  Nat.isDigit_of_mem_toDigits (by decide) (by decide) hd

theorem exists_toDigits (n : Nat) :
    ∃ d ds, Nat.toDigits 10 n = d :: ds ∧ d.isDigit = true := by
  obtain ⟨d, ds, hds⟩ := List.exists_cons_of_ne_nil (Nat.toDigits_ne_nil (n := n) (b := 10))
  exact ⟨d, ds, hds, isDigit_toDigits (hds ▸ List.mem_cons_self)⟩

theorem digitChar_of_isDigit {d : Char} (hd : d.isDigit = true) :
    d.toNat - '0'.toNat < 10 ∧ Nat.digitChar (d.toNat - '0'.toNat) = d := by
  obtain ⟨hlow, hhigh⟩ := Char.isDigit_iff_toNat.mp hd
  have hlt : d.toNat - '0'.toNat < 10 := Nat.sub_lt_left_of_lt_add hlow (Nat.lt_succ_of_le hhigh)
  refine ⟨hlt, Char.toNat_inj.mp ?_⟩
  rw [Nat.toNat_digitChar_of_lt_ten hlt]
  exact Nat.add_sub_cancel' hlow

/-- Digits without a zero in front are the digits of their value. -/
theorem toDigits_ofDigitChars {ds : List Char} (hds : ∀ d ∈ ds, d.isDigit = true) (hne : ds ≠ [])
    (hhead : ds.head? ≠ some '0') : Nat.toDigits 10 (Nat.ofDigitChars 10 ds 0) = ds := by
  induction ds using List.reverseRecOn with
  | nil => exact absurd rfl hne
  | append_singleton ds d ih =>
    obtain ⟨hlt, hchar⟩ := digitChar_of_isDigit (hds d (by simp))
    rw [Nat.ofDigitChars_append, Nat.ofDigitChars_cons, Nat.ofDigitChars_nil]
    have hd : Nat.toDigits 10 (d.toNat - '0'.toNat) = [d] := by
      rw [Nat.toDigits_of_lt_base hlt]
      exact congrArg (fun x => [x]) hchar
    by_cases hnil : ds = []
    · subst hnil
      simpa using hd
    · have hih := ih (fun x hx => hds x (by simp [hx])) hnil
        (by rwa [head?_append_of_ne_nil hnil] at hhead)
      have hpos : 0 < Nat.ofDigitChars 10 ds 0 := by
        rw [Nat.pos_iff_ne_zero, ne_eq, ← head?_toDigits, hih]
        rwa [head?_append_of_ne_nil hnil] at hhead
      rw [← Nat.toDigits_append_toDigits (by decide) hpos hlt, hih, hd]

theorem absorb_le {m : Nat} (hm : m ≤ maxWhole) (ds : List Char) : (absorb m ds).1 ≤ maxWhole := by
  induction ds generalizing m with
  | nil => exact hm
  | cons d ds ih =>
    rw [absorb]
    split
    · rename_i hle
      exact ih hle
    · exact hm

/-! ## 2. The end of a number -/

/-- What may stand behind a whole number. -/
def EndsWhole (rest : List Char) : Prop :=
  ∀ x ∈ rest.head?, x.isDigit = false ∧ x ≠ '.' ∧ x ≠ 'e' ∧ x ≠ 'E'

/-- The whole number that digits behind a sign stand for. -/
def wholeOf? (positive : Bool) (n : Nat) : Option Int :=
  if positive then if n ≤ maxWhole then some n else none
  else if 0 < n ∧ n ≤ 0x8000000000000000 then some (-n) else none

variable {positive : Bool} {n : Nat} {e i : Int}

theorem wholeOf?_true : wholeOf? true n = some i ↔ i = n ∧ n ≤ maxWhole := by
  simp [wholeOf?, and_comm, eq_comm]

theorem wholeOf?_false :
    wholeOf? false n = some i ↔ i = -n ∧ 0 < n ∧ n ≤ 0x8000000000000000 := by
  simp [wholeOf?, and_comm, eq_comm]

/-- A whole number is only read as one if it is in range, with the sign or without it. -/
theorem wholeOf?_le (h : wholeOf? positive n = some i) : n ≤ maxWhole := by
  unfold wholeOf? at h
  split at h
  · split at h
    · assumption
    · exact absurd h (by simp)
  · split at h
    · rename_i hin
      exact Nat.le_trans hin.2 (by decide)
    · exact absurd h (by simp)

theorem finishFloat_not_whole : ¬ Yields (finishFloat positive n e) c (.whole i) c' := by
  unfold finishFloat
  split <;> simp [signed]

/-- A number with an exponent is never read as a whole number, even if it stands for one. -/
theorem exponentPart_not_whole : ¬ Yields (exponentPart positive n e) c (.whole i) c' := by
  intro h
  obtain ⟨_, c₁, -, h⟩ := yields_bind.mp h
  obtain ⟨x, c₂, -, h⟩ := yields_bind.mp h
  extract_lets digitsBehind at h
  have hdigits {up : Bool} {c₃ : Cursor} : ¬ Yields (digitsBehind up) c₃ (.whole i) c' := by
    intro h
    obtain ⟨y, c₄, -, h⟩ := yields_bind.mp h
    split at h
    · simp at h
    · split at h
      · obtain ⟨_, c₅, -, h⟩ := yields_bind.mp h
        obtain ⟨_, c₆, -, h⟩ := yields_bind.mp h
        obtain ⟨_, c₇, -, h⟩ := yields_bind.mp h
        split at h
        · exact finishFloat_not_whole h
        · split at h
          · simp at h
          · obtain ⟨_, c₈, -, h⟩ := yields_bind.mp h
            simp [signed] at h
      · simp at h
  split at h
  · obtain ⟨_, c₃, -, h⟩ := yields_bind.mp h
    obtain ⟨_, c₄, -, h⟩ := yields_bind.mp h
    exact hdigits h
  · obtain ⟨_, c₃, -, h⟩ := yields_bind.mp h
    obtain ⟨_, c₄, -, h⟩ := yields_bind.mp h
    exact hdigits h
  · obtain ⟨_, c₃, -, h⟩ := yields_bind.mp h
    exact hdigits h

theorem exponentOrEnd_not_whole : ¬ Yields (exponentOrEnd positive n e) c (.whole i) c' := by
  unfold exponentOrEnd
  rw [yields_bind]
  rintro ⟨y, c₁, -, h⟩
  split at h
  · exact exponentPart_not_whole h
  · exact exponentPart_not_whole h
  · exact finishFloat_not_whole h

theorem fractionPart_not_whole : ¬ Yields (fractionPart positive n e) c (.whole i) c' := by
  unfold fractionPart
  simp only [yields_bind, not_exists, not_and]
  intro _ c₁ _ ds c₂ _ h
  split at h
  · obtain ⟨y, c₃, -, h⟩ := yields_bind.mp h
    split at h <;> simp at h
  · exact exponentOrEnd_not_whole h

/-- Behind its digits a number is whole if neither a point nor an exponent follows, no digit was too
many, and it is in range; then nothing more is taken. -/
theorem yields_finish {spare : List Char} (hmax : n ≤ maxWhole) :
    Yields (number.finish positive n spare) c (.whole i) c'
      ↔ spare = [] ∧ wholeOf? positive n = some i ∧ c' = c
        ∧ ∀ x ∈ c.rest.head?, x ≠ '.' ∧ x ≠ 'e' ∧ x ≠ 'E' := by
  rw [number.finish, peek_bind]
  split
  · rename_i h
    simp [h, fractionPart_not_whole]
  · rename_i h
    simp [h, exponentPart_not_whole]
  · rename_i h
    simp [h, exponentPart_not_whole]
  · rename_i hdot he hE
    have hends : ∀ x ∈ c.rest.head?, x ≠ '.' ∧ x ≠ 'e' ∧ x ≠ 'E' := by
      rintro x hx
      exact ⟨fun h => hdot (h ▸ hx), fun h => he (h ▸ hx), fun h => hE (h ▸ hx)⟩
    by_cases hspare : spare = []
    · rw [if_neg (not_not.mpr hspare)]
      cases positive with
      | true =>
        rw [if_pos rfl, yields_pure, wholeOf?, if_pos rfl, if_pos hmax]
        simpa [hspare, @eq_comm _ c] using fun _ _ => hends
      | false =>
        rw [if_neg Bool.false_ne_true, wholeOf?, if_neg Bool.false_ne_true]
        by_cases hin : 0 < n ∧ n ≤ 0x8000000000000000
        · rw [if_neg (by omega), if_pos hin, yields_pure]
          simpa [hspare, @eq_comm _ c] using fun _ _ => hends
        · rw [if_pos (by omega), if_neg hin]
          simp
    · simp [hspare, finishFloat_not_whole]

/-! ## 3. The digits of a number -/

theorem digitsOf_append {ds : List Char} (hds : ∀ d ∈ ds, d.isDigit = true)
    (hrest : ∀ x ∈ rest.head?, x.isDigit = false) : digitsOf (ds ++ rest) = ds := by
  rw [digitsOf, List.takeWhile_append_of_pos hds]
  cases rest with
  | nil => simp
  | cons x rest => simp [hrest x rfl]

/-- All digits that come next are taken, and nothing else. -/
theorem yields_digits {ds : List Char} : Yields digits c ds c' ↔ c.rest = ds ++ c'.rest
    ∧ c'.place = c.place.along ds.length ∧ (∀ d ∈ ds, d.isDigit = true)
    ∧ ∀ x ∈ c'.rest.head?, x.isDigit = false := by
  rw [digits, yields_modifyGet]
  constructor
  · intro h
    obtain ⟨rfl, rfl⟩ := Prod.mk.inj h
    have hsplit : c.rest = digitsOf c.rest ++ c.rest.dropWhile Char.isDigit :=
      List.takeWhile_append_dropWhile.symm
    have hdrop : c.rest.drop (digitsOf c.rest).length = c.rest.dropWhile Char.isDigit := by
      conv_lhs => rw [hsplit]
      exact List.drop_left' (by rw [← hsplit])
    refine ⟨hdrop ▸ hsplit, rfl, fun d hd => List.mem_takeWhile_imp hd, fun x hx => ?_⟩
    have := List.head?_dropWhile_not Char.isDigit c.rest
    rw [← hdrop, Option.mem_def.mp hx] at this
    simpa using this
  · rintro ⟨hrest, hp, hds, hends⟩
    rw [hrest, digitsOf_append hds hends, Prod.mk.injEq, Cursor.eq_iff]
    simp [hp]

/-- A zero is a whole number by itself. -/
theorem yields_zero (hx : c.rest.head? = some '0') : Yields (number positive) c (.whole i) c'
    ↔ wholeOf? positive 0 = some i ∧ c.rest = '0' :: c'.rest
      ∧ c'.place = c.place.along 1 ∧ EndsWhole c'.rest := by
  have hzero {c₁ : Cursor} := @yields_finish c₁ c' positive 0 i [] (Nat.zero_le _)
  rw [number, peek_bind, hx]
  simp only [if_pos]
  constructor
  · intro h
    obtain ⟨_, c₁, hskip, h⟩ := yields_bind.mp h
    obtain ⟨hrest, hp⟩ := (yields_skip hx).mp hskip
    rw [peek_bind] at h
    cases hy : c₁.rest.head? with
    | none =>
      simp only [hy] at h
      obtain ⟨-, hi, rfl, -⟩ := hzero.mp h
      exact ⟨hi, hrest, hp, by simp [EndsWhole, hy]⟩
    | some y =>
      simp only [hy] at h
      split at h
      · simp at h
      · rename_i hd
        obtain ⟨-, hi, rfl, hends⟩ := hzero.mp h
        refine ⟨hi, hrest, hp, fun x hx => ⟨?_, hends x hx⟩⟩
        obtain rfl : y = x := Option.some.inj (hy.symm.trans hx)
        simpa using hd
  · rintro ⟨hi, hrest, hp, hends⟩
    have hfinish := hzero.mpr ⟨rfl, hi, rfl, fun x hx => (hends x hx).2⟩
    refine yields_bind.mpr ⟨(), c', (yields_skip hx).mpr ⟨hrest, hp⟩, peek_bind.mpr ?_⟩
    cases hy : c'.rest.head? with
    | none => exact hfinish
    | some y => simpa [(hends y hy).1] using hfinish

/-- Digits that start with another one are a whole number together. -/
theorem yields_nonzero {d : Char} (hx : c.rest.head? = some d) (hd : d.isDigit = true)
    (hnonzero : d ≠ '0') : Yields (number positive) c (.whole i) c'
      ↔ ∃ ds, wholeOf? positive (Nat.ofDigitChars 10 ds 0) = some i ∧ Yields digits c ds c'
        ∧ EndsWhole c'.rest := by
  rw [number, peek_bind, hx]
  simp only [if_neg hnonzero, if_pos hd]
  rw [yields_bind]
  constructor
  · rintro ⟨ds, c₁, hds, h⟩
    have hmax := absorb_le (Nat.zero_le maxWhole) ds
    obtain ⟨hspare, hi, rfl, hends⟩ := (yields_finish hmax).mp h
    obtain ⟨hvalue, -⟩ := (absorb_eq_nil (Nat.zero_le _)).mp (Prod.ext rfl hspare)
    exact ⟨ds, hvalue ▸ hi, hds, fun x hx => ⟨(yields_digits.mp hds).2.2.2 x hx, hends x hx⟩⟩
  · rintro ⟨ds, hi, hds, hends⟩
    have hmax := wholeOf?_le hi
    refine ⟨ds, c', hds, ?_⟩
    rw [(absorb_eq_nil (Nat.zero_le _)).mpr ⟨rfl, hmax⟩]
    exact (yields_finish hmax).mpr ⟨rfl, hi, rfl, fun x hx => (hends x hx).2⟩

/-- **A whole number is read from its digits**, and from nothing else. -/
theorem yields_number_whole : Yields (number positive) c (.whole i) c'
    ↔ ∃ n, wholeOf? positive n = some i ∧ c.rest = Nat.toDigits 10 n ++ c'.rest
      ∧ c'.place = c.place.along (Nat.toDigits 10 n).length ∧ EndsWhole c'.rest := by
  constructor
  · intro h
    obtain ⟨d, hx, hd⟩ : ∃ d, c.rest.head? = some d ∧ d.isDigit = true := by
      obtain ⟨x, c₁, hpeek, h⟩ := yields_bind.mp h
      obtain ⟨rfl, rfl⟩ := yields_peek.mp hpeek
      split at h
      · simp at h
      · rename_i d hd
        refine ⟨d, hd, ?_⟩
        split at h
        · simp_all
        · split at h
          · assumption
          · simp at h
    by_cases hzero : d = '0'
    · subst hzero
      obtain ⟨hi, hrest, hp, hends⟩ := (yields_zero hx).mp h
      exact ⟨0, hi, hrest, hp, hends⟩
    · obtain ⟨ds, hi, hds, hends⟩ := (yields_nonzero hx hd hzero).mp h
      obtain ⟨hrest, hp, hall, hbehind⟩ := yields_digits.mp hds
      have hne : ds ≠ [] := by
        rintro rfl
        have := hbehind d (by rw [← List.nil_append c'.rest, ← hrest, hx]; rfl)
        simp [hd] at this
      have hhead : ds.head? = some d := by rw [← hx, hrest, head?_append_of_ne_nil hne]
      have hnum := toDigits_ofDigitChars hall hne (by simp [hhead, hzero])
      exact ⟨_, hi, by rwa [hnum], by rwa [hnum], hends⟩
  · rintro ⟨n, hi, hrest, hp, hends⟩
    obtain ⟨d, ds, hds, hd⟩ := exists_toDigits n
    have hhead : c.rest.head? = some d := by rw [hrest, hds]; rfl
    by_cases hzero : d = '0'
    · subst hzero
      obtain rfl : n = 0 := head?_toDigits.mp (by rw [hds]; rfl)
      rw [Nat.toDigits_zero] at hrest hp
      exact (yields_zero hhead).mpr ⟨hi, hrest, hp, hends⟩
    · refine (yields_nonzero hhead hd hzero).mpr ⟨Nat.toDigits 10 n, ?_, ?_, hends⟩
      · rwa [Nat.ofDigitChars_ten_toDigits]
      · exact yields_digits.mpr
          ⟨hrest, hp, fun _ => isDigit_toDigits, fun x hx => (hends x hx).1⟩

/-! ## 4. Values -/

/-- The whole numbers that are read and written as such. -/
def IsWhole (i : Int) : Prop := -0x8000000000000000 ≤ i ∧ i ≤ maxWhole

theorem toString_ofNat (n : Nat) : (toString (n : Int)).toList = Nat.toDigits 10 n := by
  rw [show toString (n : Int) = toString n from rfl, Nat.toString_eq_ofList_toDigits]
  simp

theorem toString_negSucc (n : Nat) :
    (toString (Int.negSucc n)).toList = '-' :: Nat.toDigits 10 (n + 1) := by
  rw [show toString (Int.negSucc n) = "-" ++ toString (n + 1) from rfl,
    Nat.toString_eq_ofList_toDigits]
  simp

theorem along_along (p : Position) (n : Nat) : (p.along 1).along n = p.along (n + 1) := by
  simp [Position.along, Nat.add_comm, Nat.add_left_comm]

theorem yields_numeral :
    Yields (do return Value.number (← number positive)) c (.whole i) c'
      ↔ Yields (number positive) c (.whole i) c' := by
  rw [yields_bind]
  simp only [yields_pure, Value.whole, Value.number.injEq]
  constructor
  · rintro ⟨_, _, h, rfl, rfl⟩
    exact h
  · exact fun h => ⟨_, _, h, rfl, rfl⟩

/-- A value is read as a whole number if digits come, or a sign and digits. -/
theorem reads_whole_iff {d : Nat} : Reads d c (.value (.whole i)) c'
    ↔ Yields (number true) c.token (.whole i) c'
      ∨ c.token.rest.head? = some '-'
        ∧ ∃ c₁, Yields skip c.token () c₁ ∧ Yields (number false) c₁ (.whole i) c' := by
  constructor
  · intro h
    cases h with
    | scalar hx hr hv =>
      cases hr with
      | null => simp [Value.whole] at hv
      | true => simp [Value.whole] at hv
      | false => simp [Value.whole] at hv
      | negative =>
        obtain ⟨_, c₁, hskip, hv⟩ := yields_bind.mp hv
        exact .inr ⟨hx, c₁, hskip, yields_numeral.mp hv⟩
      | string => simp [Value.whole] at hv
      | positive hd => exact .inl (yields_numeral.mp hv)
  · rintro (h | ⟨hx, c₁, hskip, h⟩)
    · obtain ⟨n, -, hrest, -⟩ := yields_number_whole.mp h
      obtain ⟨d, ds, hds, hd⟩ := exists_toDigits n
      exact .scalar (by rw [hrest, hds]; rfl) (.positive hd) (yields_numeral.mpr h)
    · exact .scalar hx .negative (yields_bind.mpr ⟨(), c₁, hskip, yields_numeral.mpr h⟩)

/-- **There is one text for a whole number**, the one that it is written as. -/
theorem reads_whole {d : Nat} : Reads d c (.value (.whole i)) c'
    ↔ IsWhole i ∧ c.token.rest = (toString i).toList ++ c'.rest ∧ EndsWhole c'.rest
      ∧ c'.place = c.token.place.along (toString i).toList.length := by
  rw [reads_whole_iff]
  simp only [yields_number_whole, wholeOf?_true, wholeOf?_false]
  cases i with
  | ofNat n =>
    rw [Int.ofNat_eq_natCast, toString_ofNat]
    constructor
    · rintro (⟨m, ⟨hm, hle⟩, hrest, hp, hends⟩ | ⟨-, c₁, -, m, ⟨hm, hpos, -⟩, -⟩)
      · obtain rfl : n = m := by omega
        exact ⟨⟨by omega, by omega⟩, hrest, hends, hp⟩
      · omega
    · rintro ⟨⟨-, hle⟩, hrest, hends, hp⟩
      exact .inl ⟨n, ⟨rfl, by omega⟩, hrest, hp, hends⟩
  | negSucc n =>
    rw [toString_negSucc]
    constructor
    · rintro (⟨m, ⟨hm, -⟩, -⟩ | ⟨hx, c₁, hskip, m, ⟨hm, hpos, hle⟩, hrest, hp, hends⟩)
      · omega
      · obtain rfl : m = n + 1 := by omega
        obtain ⟨hsign, hplace⟩ := (yields_skip hx).mp hskip
        refine ⟨⟨by omega, by omega⟩, by rw [hsign, hrest]; rfl, hends, ?_⟩
        rw [hp, hplace]
        exact along_along ..
    · rintro ⟨⟨hlow, -⟩, hrest, hends, hp⟩
      have hx : c.token.rest.head? = some '-' := by rw [hrest]; rfl
      refine .inr ⟨hx, ⟨Nat.toDigits 10 (n + 1) ++ c'.rest, c.token.place.along 1⟩, ?_, n + 1, ?_⟩
      · exact (yields_skip hx).mpr ⟨hrest, rfl⟩
      · refine ⟨⟨rfl, by omega, by omega⟩, rfl, ?_, hends⟩
        exact hp.trans (along_along ..).symm

/-! ## 5. Texts of one number -/

theorem token_rest (c : Cursor) : c.token.rest = c.rest.dropWhile isBlank := by
  unfold Cursor.token
  fun_induction skipBlanksFrom c.place c.rest <;> simp_all

theorem isBlank_iff : isBlank x = true ↔ x = ' ' ∨ x = '\n' ∨ x = '\t' ∨ x = '\r' := by
  simp [isBlank, or_assoc]

theorem isBlank_of_isDigit (hx : x.isDigit = true) : isBlank x = false := by
  rw [← Bool.not_eq_true, isBlank_iff]
  rintro (rfl | rfl | rfl | rfl) <;> simp at hx

/-- The text of a whole number starts with a digit or a sign. -/
theorem exists_toString (i : Int) :
    ∃ x rest, (toString i).toList = x :: rest ∧ isBlank x = false ∧ x ≠ ']' := by
  cases i with
  | ofNat n =>
    obtain ⟨x, rest, htext, hx⟩ := exists_toDigits n
    exact ⟨x, rest, (toString_ofNat n).trans htext, isBlank_of_isDigit hx,
      by rintro rfl; simp at hx⟩
  | negSucc n => exact ⟨'-', _, toString_negSucc n, rfl, by decide⟩

/-- **A text is a whole number exactly if it is its decimal text**, but for blanks around it. -/
theorem parse_eq_whole {text : String} : parse text = .ok (.whole i)
    ↔ IsWhole i ∧ ∃ before behind, text.toList = before ++ ((toString i).toList ++ behind)
      ∧ (∀ x ∈ before, isBlank x = true) ∧ ∀ x ∈ behind, isBlank x = true := by
  simp only [parse_eq_ok, reads_whole, token_rest, List.dropWhile_eq_nil_iff]
  constructor
  · rintro ⟨c, ⟨hi, htext, -, -⟩, hbehind⟩
    refine ⟨hi, text.toList.takeWhile isBlank, c.rest, ?_, fun x => List.mem_takeWhile_imp, hbehind⟩
    rw [← htext]
    exact List.takeWhile_append_dropWhile.symm
  · rintro ⟨hi, before, behind, htext, hbefore, hbehind⟩
    obtain ⟨x, rest, hstart, hblank, -⟩ := exists_toString i
    refine ⟨⟨behind, _⟩, ⟨hi, ?_, fun y hy => ?_, rfl⟩, hbehind⟩
    · rw [Cursor.ofString, htext, List.dropWhile_append_of_pos hbefore, hstart]
      simp [hblank]
    · have hblank := isBlank_iff.mp (hbehind y (List.mem_of_mem_head? hy))
      rcases hblank with rfl | rfl | rfl | rfl <;> decide

end Scriptorium.Json.Reader
