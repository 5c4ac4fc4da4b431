import Mathlib.Order.Basic
import Scriptorium.Json.Document

/-!
# What is read of a JSON text

A reader at a cursor comes to a result or to a fault; `Yields` is the first of the two, and passes
through the steps of a reader (`yields_bind`).

Reading a value takes it apart into values, items and members, in the way that `Reads` describes.
The readers of the program work with fuel, which is no part of that description: a value that is
read with any fuel is read with all that exceeds twice the length of the text (`Reads.within`),
since no step lengthens the text (`Shrinks`) and each level of nesting and each item takes a
character of it.  So there is one result, whatever fuel a reader happens to start from
(`yields_value`).
-/
namespace Scriptorium.Json

/-- The cursor behind the blanks that come next. -/
def Cursor.token (c : Cursor) : Cursor := Reader.skipBlanksFrom c.place c.rest

theorem Cursor.eq_iff {c c' : Cursor} : c = c' ↔ c.rest = c'.rest ∧ c.place = c'.place := by
  cases c
  cases c'
  simp

namespace Reader

/-! ## 1. What a reader comes to -/

variable {α β : Type} {r : Reader α} {c c' c'' : Cursor} {a b : α} {reason : Reason}

/-- What a reader comes to at a cursor, and where the cursor is then. -/
def outcome (r : Reader α) (c : Cursor) : Except Fault α × Cursor := ExceptT.run r c

/-- Reading with `r` at `c` comes to `a`, with the cursor at `c'`. -/
def Yields (r : Reader α) (c : Cursor) (a : α) (c' : Cursor) : Prop := outcome r c = (.ok a, c')

theorem outcome_bind (r : Reader α) (f : α → Reader β) (c : Cursor) :
    outcome (r >>= f) c = match outcome r c with
      | (.ok a, c') => outcome (f a) c'
      | (.error e, c') => (.error e, c') := by
  have hrun : outcome (r >>= f) c = ExceptT.bindCont f (outcome r c).1 (outcome r c).2 := rfl
  rw [hrun]
  rcases outcome r c with ⟨e | a, c'⟩ <;> rfl

theorem outcome_tryCatch (r : Reader α) (f : Fault → Reader α) (c : Cursor) :
    outcome (tryCatch r f) c = match outcome r c with
      | (.ok a, c') => (.ok a, c')
      | (.error e, c') => outcome (f e) c' := by
  simp only [outcome, tryCatch, tryCatchThe, MonadExceptOf.tryCatch, ExceptT.tryCatch, ExceptT.run,
    ExceptT.mk, bind, StateT.bind]
  rcases r c with ⟨e | a, c'⟩ <;> rfl

@[simp] theorem yields_pure : Yields (pure a) c b c' ↔ a = b ∧ c = c' := by
  show ((Except.ok a, c) : Except Fault α × Cursor) = (.ok b, c') ↔ _
  simp

@[simp] theorem not_yields_throw {f : Fault} : ¬ Yields (throw f : Reader α) c a c' := by
  intro h
  exact absurd (Prod.mk.inj h).1 (by simp)

/-- One reader behind another yields what the second one does from the place that the first one has
come to. -/
@[simp] theorem yields_bind {f : α → Reader β} {b : β} :
    Yields (r >>= f) c b c'' ↔ ∃ a c', Yields r c a c' ∧ Yields (f a) c' b c'' := by
  rw [Yields, outcome_bind]
  rcases hr : outcome r c with ⟨e | a, c₁⟩
  · simp [Yields, hr]
  · constructor
    · exact fun h => ⟨a, c₁, hr, h⟩
    · rintro ⟨a', c', hr', h⟩
      obtain ⟨ha, rfl⟩ := Prod.mk.inj (hr.symm.trans hr')
      rwa [← Except.ok.inj ha] at h

theorem Yields.unique {a' : α} (h : Yields r c a c') (h' : Yields r c a' c'') :
    a = a' ∧ c' = c'' := by
  simpa using h.symm.trans h'

/-- What comes after a step whose result is known. -/
theorem Yields.bind_iff {f : α → Reader β} {b : β} (h : Yields r c a c') :
    Yields (r >>= f) c b c'' ↔ Yields (f a) c' b c'' := by
  rw [yields_bind]
  constructor
  · rintro ⟨a', c₁, h', hf⟩
    obtain ⟨rfl, rfl⟩ := h.unique h'
    exact hf
  · exact fun hf => ⟨a, c', h, hf⟩

@[simp] theorem yields_map {f : α → β} {b : β} :
    Yields (f <$> r) c b c' ↔ ∃ a, f a = b ∧ Yields r c a c' := by
  rw [map_eq_pure_bind, yields_bind]
  simp only [yields_pure]
  constructor
  · rintro ⟨a, _, ha, hb, rfl⟩
    exact ⟨a, hb, ha⟩
  · rintro ⟨a, hb, ha⟩
    exact ⟨a, c', ha, hb, rfl⟩

@[simp] theorem yields_get : Yields (get : Reader Cursor) c c'' c' ↔ c'' = c ∧ c' = c := by
  show ((Except.ok c, c) : Except Fault Cursor × Cursor) = (.ok c'', c') ↔ _
  simp [eq_comm]

@[simp] theorem yields_set {u : Unit} : Yields (set c'' : Reader Unit) c u c' ↔ c' = c'' := by
  show ((Except.ok (), c'') : Except Fault Unit × Cursor) = (.ok u, c') ↔ _
  simp [eq_comm]

@[simp] theorem yields_modify {u : Unit} {f : Cursor → Cursor} :
    Yields (modify f : Reader Unit) c u c' ↔ c' = f c := by
  show ((Except.ok (), f c) : Except Fault Unit × Cursor) = (.ok u, c') ↔ _
  simp [eq_comm]

@[simp] theorem yields_modifyGet {f : Cursor → α × Cursor} :
    Yields (modifyGet f : Reader α) c a c' ↔ f c = (a, c') := by
  show ((Except.ok (f c).1, (f c).2) : Except Fault α × Cursor) = (.ok a, c') ↔ _
  simp [Prod.ext_iff]

theorem yields_skip {x : Char} (hx : c.rest.head? = some x) {u : Unit} :
    Yields skip c u c' ↔ c.rest = x :: c'.rest ∧ c'.place = c.place.after x := by
  rw [skip, yields_modify, Cursor.eq_iff]
  obtain ⟨_ | ⟨y, rest⟩, p⟩ := c
  · simp at hx
  · obtain rfl : y = x := by simpa using hx
    simp [eq_comm]

@[simp] theorem not_yields_failHere : ¬ Yields (failHere reason : Reader α) c a c' := by
  simp [failHere]

@[simp] theorem not_yields_failAhead : ¬ Yields (failAhead reason : Reader α) c a c' := by
  simp [failAhead]

@[simp] theorem not_yields_failMeaning {message : String} :
    ¬ Yields (failMeaning message : Reader α) c a c' :=
  not_yields_throw

@[simp] theorem yields_ofFunction {f : Cursor → Except Fault α × Cursor} :
    Yields (ofFunction f) c a c' ↔ f c = (.ok a, c') := by
  unfold ofFunction
  simp only [yields_bind, yields_get, yields_set]
  rcases hf : f c with ⟨e | b, c₁⟩ <;> simp [ofFunction.liftExcept, hf, eq_comm]

/-- Telling the place of a fault does not change what is read. -/
@[simp] theorem yields_placed : Yields (placed r) c a c' ↔ Yields r c a c' := by
  rw [Yields, placed, outcome_tryCatch]
  rcases hr : outcome r c with ⟨e | b, c₁⟩
  · refine iff_of_false (fun h => ?_) (by simp [Yields, hr])
    -- a fault is passed on, with a place if it had none
    dsimp only at h
    split at h
    · exact not_yields_throw h
    · exact not_yields_failHere h
  · rw [Yields, hr]

@[simp] theorem yields_observing {x : Except Fault α} :
    Yields (closedBy.observing r) c x c' ↔ outcome r c = (x, c') := by
  show ((Except.ok (outcome r c).1, (outcome r c).2) : Except Fault (Except Fault α) × Cursor)
    = (.ok x, c') ↔ _
  simp [Prod.ext_iff]

/-- What stands between brackets is read by the inner reader up to the place where the closing
bracket is taken. -/
@[simp] theorem yields_closedBy {close : Reader Unit} :
    Yields (closedBy r close) c a c'' ↔ ∃ c', Yields r c a c' ∧ Yields close c' () c'' := by
  unfold closedBy
  simp only [yields_bind, yields_observing]
  constructor
  · rintro ⟨e | b, c₁, hr, h⟩
    · simp at h
    · obtain ⟨u, c₂, hclose, h⟩ := yields_bind.mp h
      obtain ⟨rfl, rfl⟩ := yields_pure.mp h
      exact ⟨c₁, hr, hclose⟩
  · rintro ⟨c₁, hr, hclose⟩
    exact ⟨.ok a, c₁, hr, yields_bind.mpr ⟨(), c'', hclose, yields_pure.mpr ⟨rfl, rfl⟩⟩⟩

@[simp] theorem yields_peek {x : Option Char} :
    Yields peek c x c' ↔ x = c.rest.head? ∧ c' = c := by
  simp only [peek, yields_bind, yields_get, yields_pure]
  constructor
  · rintro ⟨_, _, ⟨rfl, rfl⟩, rfl, rfl⟩
    exact ⟨rfl, rfl⟩
  · rintro ⟨rfl, rfl⟩
    exact ⟨_, _, ⟨rfl, rfl⟩, rfl, rfl⟩

/-- What comes after a look at the next character. -/
theorem peek_bind {f : Option Char → Reader β} {b : β} :
    Yields (peek >>= f) c b c' ↔ Yields (f c.rest.head?) c b c' :=
  (yields_peek.mpr ⟨rfl, rfl⟩).bind_iff

@[simp] theorem yields_peekToken {x : Option Char} :
    Yields peekToken c x c' ↔ x = c.token.rest.head? ∧ c' = c.token := by
  simp [peekToken, Cursor.token]

/-- Looking at the character that a value begins with passes over blanks, and takes nothing else. -/
@[simp] theorem yields_peekValue {x : Char} :
    Yields peekValue c x c' ↔ c.token.rest.head? = some x ∧ c' = c.token := by
  simp only [peekValue, yields_bind, yields_peekToken]
  constructor
  · rintro ⟨y, c₁, ⟨rfl, rfl⟩, h⟩
    cases hy : c.token.rest.head? with
    | none => simp [hy] at h
    | some y =>
      rw [hy] at h
      obtain ⟨rfl, rfl⟩ := yields_pure.mp h
      exact ⟨rfl, rfl⟩
  · rintro ⟨hx, rfl⟩
    exact ⟨_, _, ⟨rfl, rfl⟩, by simp [hx]⟩

/-- What comes after a look at the character that a value starts with. -/
theorem peekValue_bind {f : Char → Reader β} {b : β} {x : Char}
    (hx : c.token.rest.head? = some x) :
    Yields (peekValue >>= f) c b c' ↔ Yields (f x) c.token b c' :=
  (yields_peekValue.mpr ⟨hx, rfl⟩).bind_iff

/-! ## 2. Readers do not lengthen the text -/

/-- After a reader no more text is left than before. -/
def Shrinks (r : Reader α) : Prop :=
  ∀ ⦃c a c'⦄, Yields r c a c' → c'.rest.length ≤ c.rest.length

namespace Shrinks

theorem pure (a : α) : Shrinks (Pure.pure a) := by
  intro c b c' h
  obtain ⟨-, rfl⟩ := yields_pure.mp h
  exact Nat.le_refl _

theorem failHere : Shrinks (Reader.failHere reason : Reader α) := by
  intro c a c' h
  exact absurd h not_yields_failHere

theorem failAhead : Shrinks (Reader.failAhead reason : Reader α) := by
  intro c a c' h
  exact absurd h not_yields_failAhead

theorem bind {f : α → Reader β} (hr : Shrinks r) (hf : ∀ a, Shrinks (f a)) : Shrinks (r >>= f) := by
  intro c b c'' h
  obtain ⟨a, c', ha, hb⟩ := yields_bind.mp h
  exact Nat.le_trans (hf a hb) (hr ha)

theorem get : Shrinks (MonadState.get : Reader Cursor) := by
  intro c a c' h
  obtain ⟨-, rfl⟩ := yields_get.mp h
  exact Nat.le_refl _

theorem peek : Shrinks Reader.peek := by
  intro c a c' h
  obtain ⟨-, rfl⟩ := yields_peek.mp h
  exact Nat.le_refl _

theorem skip : Shrinks Reader.skip := by
  intro c a c' h
  rw [yields_modify.mp h]
  split <;> simp_all

theorem token_length (c : Cursor) : c.token.rest.length ≤ c.rest.length := by
  unfold Cursor.token
  fun_induction skipBlanksFrom c.place c.rest <;> simp_all
  omega

theorem peekToken : Shrinks Reader.peekToken := by
  intro c a c' h
  rw [(yields_peekToken.mp h).2]
  exact token_length c

theorem word : ∀ cs : List Char, Shrinks (Reader.word cs)
  | [] => .pure ()
  | x :: cs => by
    refine .bind .peek fun y => ?_
    split
    · exact .failHere
    · split
      · exact .bind .skip fun _ => word cs
      · exact .failAhead

theorem stringTail : Shrinks Reader.stringTail := by
  intro c a c' h
  have hlen (done : List Char) (p : Position) (cs : List Char) :
      (stringFrom done p cs).2.rest.length ≤ cs.length := by
    fun_induction stringFrom done p cs <;> simp_all <;> omega
  have hc := hlen [] c.place c.rest
  rwa [yields_ofFunction.mp h] at hc

theorem digits : Shrinks Reader.digits := by
  intro c ds c' h
  obtain ⟨-, rfl⟩ := Prod.mk.inj (yields_modifyGet.mp h)
  simp

theorem finishFloat (positive : Bool) (n : Nat) (e : Int) :
    Shrinks (Reader.finishFloat positive n e) := by
  unfold Reader.finishFloat
  split
  · exact .pure _
  · exact .failHere

theorem drop (n : Nat) :
    Shrinks (modify fun c => ⟨c.rest.drop n, c.place.along n⟩ : Reader Unit) := by
  intro c u c' h
  rw [yields_modify.mp h]
  simp

/-- Reading an exponent goes forward. -/
theorem exponentPart (positive : Bool) (n : Nat) (e : Int) :
    Shrinks (Reader.exponentPart positive n e) := by
  refine .bind .skip fun _ => .bind .peek fun x => ?_
  extract_lets digitsBehind
  have hdigits (up : Bool) : Shrinks (digitsBehind up) := by
    refine .bind .peek fun y => ?_
    split
    · exact .failHere
    · split
      · refine .bind .skip fun _ => .bind .get fun c => .bind (.drop _) fun _ => ?_
        split
        · exact finishFloat positive n _
        · split
          · exact .failHere
          · exact .bind (.bind .digits fun _ => .pure _) fun _ => .pure _
      · exact .failAhead
  split
  · exact .bind .skip fun _ => .bind (.pure _) hdigits
  · exact .bind .skip fun _ => .bind (.pure _) hdigits
  · exact .bind (.pure _) hdigits

theorem exponentOrEnd (positive : Bool) (n : Nat) (e : Int) :
    Shrinks (Reader.exponentOrEnd positive n e) := by
  refine .bind .peek fun x => ?_
  split
  · exact exponentPart positive n e
  · exact exponentPart positive n e
  · exact finishFloat positive n e

theorem fractionPart (positive : Bool) (n : Nat) (e : Int) :
    Shrinks (Reader.fractionPart positive n e) := by
  refine .bind .skip fun _ => .bind .digits fun ds => ?_
  split
  · refine .bind .peek fun x => ?_
    split
    · exact .failAhead
    · exact .failAhead
  · exact exponentOrEnd positive _ _

/-- Reading what follows the digits of a number goes forward, or stays. -/
theorem finish (positive : Bool) (n : Nat) (spare : List Char) :
    Shrinks (number.finish positive n spare) := by
  refine .bind .peek fun x => ?_
  split
  · exact fractionPart positive n _
  · exact exponentPart positive n _
  · exact exponentPart positive n _
  · split
    · exact finishFloat positive n _
    · split
      · exact .pure _
      · split
        · exact .pure _
        · exact .pure _

/-- Reading a number goes forward. -/
theorem number (positive : Bool) : Shrinks (Reader.number positive) := by
  refine .bind .peek fun x => ?_
  split
  · exact .failHere
  · split
    · refine .bind .skip fun _ => .bind .peek fun y => ?_
      split
      · split
        · exact .failAhead
        · exact finish positive 0 []
      · exact finish positive 0 []
    · split
      · exact .bind .digits fun ds => finish positive _ _
      · exact .failAhead

/-- Going on to the next item of a list goes forward, or stays at its end. -/
theorem nextItem (first : Bool) : Shrinks (Reader.nextItem first) := by
  refine .bind .peekToken fun x => ?_
  split
  · exact .failAhead
  · exact .pure _
  · split
    · exact .pure _
    · split
      · refine .bind .skip fun _ => .bind .peekToken fun y => ?_
        split
        · exact .failAhead
        · exact .pure _
        · exact .failAhead
      · exact .failAhead

theorem key (x : Char) : Shrinks (nextKey.key x) := by
  unfold nextKey.key
  split
  · exact .bind .skip fun _ => .bind .stringTail fun _ => .pure _
  · exact .failAhead

/-- Going on to the next key of an object goes forward, or stays at its end. -/
theorem nextKey (first : Bool) : Shrinks (Reader.nextKey first) := by
  refine .bind .peekToken fun x => ?_
  split
  · exact .failAhead
  · exact .pure _
  · split
    · exact .key _
    · split
      · refine .bind .skip fun _ => .bind .peekToken fun y => ?_
        split
        · exact .failAhead
        · exact .key _
        · exact .failAhead
      · exact .failAhead

theorem colon : Shrinks Reader.colon := by
  refine .bind .peekToken fun x => ?_
  split
  · exact .skip
  · exact .failAhead
  · exact .failAhead

theorem endObject : Shrinks Reader.endObject := by
  refine .bind .peekToken fun x => ?_
  split
  · exact .skip
  · exact .failAhead
  · exact .failAhead
  · exact .failAhead

/-- Leaving a list takes its bracket. -/
theorem endList : Shrinks Reader.endList := by
  refine .bind .peekToken fun x => ?_
  split
  · exact .skip
  · refine .bind .skip fun _ => .bind .peekToken fun y => ?_
    split
    · exact .failAhead
    · exact .failAhead
  · exact .failAhead
  · exact .failAhead

end Shrinks

/-- Taking a character leaves less. -/
theorem skip_shortens {u : Unit} {x : Char} (hx : c.rest.head? = some x) (h : Yields skip c u c') :
    c'.rest.length < c.rest.length := by
  simp [((yields_skip hx).mp h).1]

/-- An item that is not the first one comes behind a comma. -/
theorem nextItem_shortens (h : Yields (nextItem false) c true c') :
    c'.rest.length < c.rest.length := by
  obtain ⟨_, _, hpeek, h⟩ := yields_bind.mp h
  obtain ⟨rfl, rfl⟩ := yields_peekToken.mp hpeek
  have hblanks := Shrinks.token_length c
  split at h
  · exact absurd h not_yields_failAhead
  · simp at h
  · rename_i x hx
    simp only [Bool.false_eq_true, if_false] at h
    split at h
    · obtain ⟨_, c₁, hskip, h⟩ := yields_bind.mp h
      obtain ⟨_, _, hpeek, h⟩ := yields_bind.mp h
      obtain ⟨rfl, rfl⟩ := yields_peekToken.mp hpeek
      have hcomma := skip_shortens hx hskip
      have hblanks' := Shrinks.token_length c₁
      split at h
      · exact absurd h not_yields_failAhead
      · rw [← (yields_pure.mp h).2]
        omega
      · exact absurd h not_yields_failAhead
    · exact absurd h not_yields_failAhead

/-- A member that is not the first one comes behind a comma. -/
theorem nextKey_shortens {name : String} (h : Yields (nextKey false) c (some name) c') :
    c'.rest.length < c.rest.length := by
  obtain ⟨_, _, hpeek, h⟩ := yields_bind.mp h
  obtain ⟨rfl, rfl⟩ := yields_peekToken.mp hpeek
  have hblanks := Shrinks.token_length c
  split at h
  · exact absurd h not_yields_failAhead
  · simp at h
  · rename_i x hx
    simp only [Bool.false_eq_true, if_false] at h
    split at h
    · obtain ⟨_, c₁, hskip, h⟩ := yields_bind.mp h
      obtain ⟨_, _, hpeek, h⟩ := yields_bind.mp h
      obtain ⟨rfl, rfl⟩ := yields_peekToken.mp hpeek
      have hcomma := skip_shortens hx hskip
      have hblanks' := Shrinks.token_length c₁
      split at h
      · exact absurd h not_yields_failAhead
      · have hkey := Shrinks.key _ h
        omega
      · exact absurd h not_yields_failAhead
    · exact absurd h not_yields_failAhead

/-! ## 3. What is read -/

/-- How a value that starts with a character is read, unless it is a list or an object. -/
inductive Scalar : Char → Reader Value → Prop
  | null : Scalar 'n' (do skip; word "ull".toList; return .null)
  | true : Scalar 't' (do skip; word "rue".toList; return .bool true)
  | false : Scalar 'f' (do skip; word "alse".toList; return .bool false)
  | negative : Scalar '-' (do skip; return .number (← number false))
  | string : Scalar '"' (do skip; return .string (← stringTail))
  | positive {x : Char} : x.isDigit = true → Scalar x (do return .number (← number true))

/-- A piece of a text: a value, the items of a list or the members of an object, `first` if nothing
of them came before. -/
inductive Piece where
  | value (v : Value)
  | items (first : Bool) (vs : List Value)
  | members (first : Bool) (ms : List (String × Value))

/-- A piece is read, at most so many levels deep, from one cursor to another. -/
inductive Reads : Nat → Cursor → Piece → Cursor → Prop
  | scalar {d : Nat} {c c' : Cursor} {x : Char} {r : Reader Value} {v : Value} :
      c.token.rest.head? = some x → Scalar x r → Yields r c.token v c' →
      Reads d c (.value v) c'
  | list {d : Nat} {c c₁ c₂ c' : Cursor} {vs : List Value} :
      c.token.rest.head? = some '[' → Yields skip c.token () c₁ →
      Reads (d + 1) c₁ (.items true vs) c₂ → Yields endList c₂ () c' →
      Reads (d + 2) c (.value (.array vs)) c'
  | object {d : Nat} {c c₁ c₂ c' : Cursor} {ms : List (String × Value)} :
      c.token.rest.head? = some '\x7b' → Yields skip c.token () c₁ →
      Reads (d + 1) c₁ (.members true ms) c₂ → Yields endObject c₂ () c' →
      Reads (d + 2) c (.value (.object ms)) c'
  | noItem {d : Nat} {c c' : Cursor} {first : Bool} :
      Yields (nextItem first) c false c' → Reads d c (.items first []) c'
  | item {d : Nat} {c c₁ c₂ c' : Cursor} {first : Bool} {v : Value} {vs : List Value} :
      Yields (nextItem first) c true c₁ → Reads d c₁ (.value v) c₂ →
      Reads d c₂ (.items false vs) c' → Reads d c (.items first (v :: vs)) c'
  | noMember {d : Nat} {c c' : Cursor} {first : Bool} :
      Yields (nextKey first) c none c' → Reads d c (.members first []) c'
  | member {d : Nat} {c c₁ c₂ c₃ c' : Cursor} {first : Bool} {name : String} {v : Value}
      {ms : List (String × Value)} :
      Yields (nextKey first) c (some name) c₁ → Yields colon c₁ () c₂ →
      Reads d c₂ (.value v) c₃ → Reads d c₃ (.members false ms) c' →
      Reads d c (.members first ((name, v) :: ms)) c'

theorem yields_enter {d d' : Nat} :
    Yields (enter d) c d' c' ↔ (∃ k, d = k + 2 ∧ d' = k + 1) ∧ c' = c := by
  unfold enter
  split
  · simp
  · simp
  · simp [eq_comm]

/-- **What a reader with fuel yields is read in the sense of `Reads`**, by induction on the fuel for
values, items and members together, as each calls the others. -/
theorem reads_of_yields (fuel : Nat) :
    (∀ d c v c', Yields (valueWithin fuel d) c v c' → Reads d c (.value v) c')
      ∧ (∀ d first done c vs c', Yields (itemsWithin fuel d first done) c vs c' →
          ∃ more, vs = done.reverse ++ more ∧ Reads d c (.items first more) c')
      ∧ ∀ d first done c ms c', Yields (membersWithin fuel d first done) c ms c' →
          ∃ more, ms = done.reverse ++ more ∧ Reads d c (.members first more) c' := by
  induction fuel with
  | zero =>
    refine ⟨fun d c v c' h => ?_, fun d first done c vs c' h => ?_,
      fun d first done c ms c' h => ?_⟩
    · exact absurd h not_yields_failHere
    · exact absurd h not_yields_failHere
    · exact absurd h not_yields_failHere
  | succ fuel ih =>
    obtain ⟨hvalue, hitems, hmembers⟩ := ih
    refine ⟨fun d c v c' h => ?_, fun d first done c vs c' h => ?_,
      fun d first done c ms c' h => ?_⟩
    · obtain ⟨x, c₁, hpeek, h⟩ := yields_bind.mp h
      obtain ⟨hx, rfl⟩ := yields_peekValue.mp hpeek
      split at h
      · exact .scalar hx .null h
      · exact .scalar hx .true h
      · exact .scalar hx .false h
      · exact .scalar hx .negative h
      · exact .scalar hx .string h
      · simp only [yields_bind, yields_enter, yields_pure] at h
        obtain ⟨_, _, ⟨⟨k, rfl, rfl⟩, rfl⟩, _, c₁, hskip, vs, c₂, hin, _, c₃, hend, rfl, rfl⟩ := h
        obtain ⟨vs, rfl, hin⟩ := hitems _ _ _ _ _ _ hin
        exact .list hx hskip hin hend
      · simp only [yields_bind, yields_enter, yields_pure] at h
        obtain ⟨_, _, ⟨⟨k, rfl, rfl⟩, rfl⟩, _, c₁, hskip, ms, c₂, hin, _, c₃, hend, rfl, rfl⟩ := h
        obtain ⟨ms, rfl, hin⟩ := hmembers _ _ _ _ _ _ hin
        exact .object hx hskip hin hend
      · split at h
        · rename_i hd
          exact .scalar hx (.positive hd) h
        · exact absurd h not_yields_failAhead
    · obtain ⟨more, c₁, hnext, h⟩ := yields_bind.mp h
      split at h
      · obtain ⟨v, c₂, hv, h⟩ := yields_bind.mp h
        obtain ⟨vs, rfl, hvs⟩ := hitems _ _ _ _ _ _ h
        refine ⟨v :: vs, by simp, .item ?_ (hvalue _ _ _ _ hv) hvs⟩
        simp_all
      · obtain ⟨rfl, rfl⟩ := yields_pure.mp h
        refine ⟨[], by simp, .noItem ?_⟩
        simp_all
    · obtain ⟨key, c₁, hnext, h⟩ := yields_bind.mp h
      split at h
      · obtain ⟨rfl, rfl⟩ := yields_pure.mp h
        exact ⟨[], by simp, .noMember hnext⟩
      · obtain ⟨_, c₂, hcolon, h⟩ := yields_bind.mp h
        obtain ⟨v, c₃, hv, h⟩ := yields_bind.mp h
        obtain ⟨ms, rfl, hms⟩ := hmembers _ _ _ _ _ _ h
        exact ⟨_ :: ms, by simp, .member hnext hcolon (hvalue _ _ _ _ hv) hms⟩

theorem Scalar.shrinks {x : Char} {r : Reader Value} (h : Scalar x r) : Shrinks r := by
  cases h with
  | null => exact .bind .skip fun _ => .bind (.word _) fun _ => .pure _
  | true => exact .bind .skip fun _ => .bind (.word _) fun _ => .pure _
  | false => exact .bind .skip fun _ => .bind (.word _) fun _ => .pure _
  | negative => exact .bind .skip fun _ => .bind (.number _) fun _ => .pure _
  | string => exact .bind .skip fun _ => .bind .stringTail fun _ => .pure _
  | positive hd => exact .bind (.number _) fun _ => .pure _

/-- What is left of a text when a piece was read is no longer than before. -/
theorem Reads.length_le {d : Nat} {p : Piece} (h : Reads d c p c') :
    c'.rest.length ≤ c.rest.length := by
  induction h with
  | @scalar d c c' x r v hx hr hv =>
    exact Nat.le_trans (hr.shrinks hv) (Shrinks.token_length c)
  | @list d c c₁ c₂ c' vs hx hskip _ hend ih =>
    have := Shrinks.token_length c
    have := skip_shortens hx hskip
    have := Shrinks.endList hend
    omega
  | @object d c c₁ c₂ c' ms hx hskip _ hend ih =>
    have := Shrinks.token_length c
    have := skip_shortens hx hskip
    have := Shrinks.endObject hend
    omega
  | noItem hnext => exact Shrinks.nextItem _ hnext
  | item hnext _ _ ihv ihs =>
    have := Shrinks.nextItem _ hnext
    omega
  | noMember hnext => exact Shrinks.nextKey _ hnext
  | member hnext hcolon _ _ ihv ihs =>
    have := Shrinks.nextKey _ hnext
    have := Shrinks.colon hcolon
    omega

/-- The piece is read with any fuel that exceeds twice the length of the text. -/
def Piece.Within (d : Nat) (c c' : Cursor) : Piece → Prop
  | .value v => ∀ fuel, 2 * c.rest.length < fuel → Yields (valueWithin fuel d) c v c'
  | .items first vs => ∀ fuel done, 2 * c.rest.length + first.toNat < fuel →
    Yields (itemsWithin fuel d first done) c (done.reverse ++ vs) c'
  | .members first ms => ∀ fuel done, 2 * c.rest.length + first.toNat < fuel →
    Yields (membersWithin fuel d first done) c (done.reverse ++ ms) c'

/-- Whatever is read lies between the places before and behind it and is no deeper than the depth
that was left; so enough fuel can be told from the length of the text. -/
theorem Reads.within {d : Nat} {p : Piece} (h : Reads d c p c') : p.Within d c c' := by
  induction h with
  | @scalar d c c' x r v hx hr hv =>
    rintro (_ | fuel) hfuel
    · omega
    refine (peekValue_bind hx).mpr ?_
    cases hr with
    | null => exact hv
    | true => exact hv
    | false => exact hv
    | negative => exact hv
    | string => exact hv
    | positive hd => split <;> simp_all
  | @list d c c₁ c₂ c' vs hx hskip hin hend ih =>
    rintro (_ | fuel) hfuel
    · omega
    have := Shrinks.token_length c
    have := skip_shortens hx hskip
    refine (peekValue_bind hx).mpr ?_
    simp only [yields_bind, yields_enter, yields_pure]
    have hin := ih fuel [] (by simp; omega)
    exact ⟨_, _, ⟨⟨d, rfl, rfl⟩, rfl⟩, _, _, hskip, _, _, hin, _, _, hend, rfl, rfl⟩
  | @object d c c₁ c₂ c' vs hx hskip hin hend ih =>
    rintro (_ | fuel) hfuel
    · omega
    have := Shrinks.token_length c
    have := skip_shortens hx hskip
    refine (peekValue_bind hx).mpr ?_
    simp only [yields_bind, yields_enter, yields_pure]
    have hin := ih fuel [] (by simp; omega)
    exact ⟨_, _, ⟨⟨d, rfl, rfl⟩, rfl⟩, _, _, hskip, _, _, hin, _, _, hend, rfl, rfl⟩
  | noItem hnext =>
    rintro (_ | fuel) done hfuel
    · omega
    exact yields_bind.mpr ⟨false, _, hnext, by simp⟩
  | @item d c c₁ c₂ c' first v vs hnext hv hvs ihv ihs =>
    rintro (_ | fuel) done hfuel
    · omega
    have hlen : 2 * c₁.rest.length < fuel := by
      cases first with
      | true =>
        have := Shrinks.nextItem _ hnext
        simp at hfuel
        omega
      | false =>
        have := nextItem_shortens hnext
        simp at hfuel
        omega
    have hv' := ihv fuel hlen
    have hvs' := ihs fuel (v :: done) (by have := hv.length_le; simp; omega)
    simp only [List.reverse_cons, List.append_assoc, List.singleton_append] at hvs'
    exact yields_bind.mpr ⟨true, _, hnext, yields_bind.mpr ⟨v, _, hv', hvs'⟩⟩
  | noMember hnext =>
    rintro (_ | fuel) done hfuel
    · omega
    exact yields_bind.mpr ⟨none, _, hnext, by simp⟩
  | @member d c c₁ c₂ c₃ c' first name v ms hnext hcolon hv hms ihv ihs =>
    rintro (_ | fuel) done hfuel
    · omega
    have hcolon' := Shrinks.colon hcolon
    have hlen : 2 * c₂.rest.length < fuel := by
      cases first with
      | true =>
        have := Shrinks.nextKey _ hnext
        simp at hfuel
        omega
      | false =>
        have := nextKey_shortens hnext
        simp at hfuel
        omega
    have hv' := ihv fuel hlen
    have hms' := ihs fuel ((name, v) :: done) (by have := hv.length_le; simp; omega)
    simp only [List.reverse_cons, List.append_assoc, List.singleton_append] at hms'
    exact yields_bind.mpr ⟨some name, _, hnext,
      yields_bind.mpr ⟨(), _, hcolon, yields_bind.mpr ⟨v, _, hv', hms'⟩⟩⟩

@[simp] theorem yields_enough {n : Nat} :
    Yields enough c n c' ↔ n = 2 * c.rest.length + 2 ∧ c' = c := by
  simp only [enough, yields_bind, yields_get, yields_pure]
  constructor
  · rintro ⟨_, _, ⟨rfl, rfl⟩, rfl, rfl⟩
    exact ⟨rfl, rfl⟩
  · rintro ⟨rfl, rfl⟩
    exact ⟨_, _, ⟨rfl, rfl⟩, rfl, rfl⟩

/-- **A value is read if its pieces are.** -/
theorem yields_value {d : Nat} {v : Value} :
    Yields (value d) c v c' ↔ Reads d c (.value v) c' := by
  rw [value, yields_bind]
  constructor
  · rintro ⟨fuel, c₁, henough, h⟩
    obtain ⟨-, rfl⟩ := yields_enough.mp henough
    exact (reads_of_yields fuel).1 _ _ _ _ h
  · intro h
    exact ⟨_, c, yields_enough.mpr ⟨rfl, rfl⟩, h.within _ (by omega)⟩

/-- There is one way to read a value. -/
theorem Reads.unique {d : Nat} {v v' : Value} (h : Reads d c (.value v) c')
    (h' : Reads d c (.value v') c'') : v = v' ∧ c' = c'' :=
  (yields_value.mpr h).unique (yields_value.mpr h')

/-- A string is read behind its opening quote. -/
theorem reads_string {d : Nat} {s : String} : Reads d c (.value (.string s)) c'
    ↔ c.token.rest.head? = some '"'
      ∧ ∃ c₁, Yields skip c.token () c₁ ∧ Yields stringTail c₁ s c' := by
  constructor
  · intro h
    cases h with
    | scalar hx hr hv =>
      cases hr with
      | null => simp at hv
      | true => simp at hv
      | false => simp at hv
      | negative => simp at hv
      | string =>
        simp only [yields_bind, yields_pure, Value.string.injEq] at hv
        obtain ⟨_, c₁, hskip, _, _, htail, rfl, rfl⟩ := hv
        exact ⟨hx, c₁, hskip, htail⟩
      | positive hd => simp at hv
  · rintro ⟨hx, c₁, hskip, htail⟩
    refine .scalar hx .string (yields_bind.mpr ⟨(), c₁, hskip, yields_bind.mpr ⟨s, c', htail, ?_⟩⟩)
    exact yields_pure.mpr ⟨rfl, rfl⟩

/-! ## 4. Whole texts -/

theorem readAll_eq_ok {text : String} :
    readAll r text = .ok a ↔ ∃ c', Yields r (.ofString text) a c' := by
  have hrun : readAll r text = (outcome r (.ofString text)).1 := rfl
  rw [hrun]
  constructor
  · exact fun h => ⟨_, Prod.ext h rfl⟩
  · rintro ⟨c', h⟩
    rw [show outcome r (.ofString text) = _ from h]

/-- The end of a text is reached when only blanks are left. -/
@[simp] theorem yields_endOfText {u : Unit} :
    Yields endOfText c u c' ↔ c.token.rest = [] ∧ c' = c.token := by
  simp only [endOfText, yields_bind, yields_peekToken]
  constructor
  · rintro ⟨x, c₁, ⟨rfl, rfl⟩, h⟩
    cases hx : c.token.rest with
    | nil =>
      simp only [hx, List.head?_nil, yields_pure] at h
      exact ⟨rfl, h.2.symm⟩
    | cons x rest => simp [hx] at h
  · rintro ⟨hx, rfl⟩
    exact ⟨_, _, ⟨rfl, rfl⟩, by simp [hx]⟩

/-- Reads a whole text as one value, at most `depth` levels deep. -/
def parseWithin (depth : Nat) (text : String) : Except Fault Value :=
  readAll (do
    let v ← value depth
    endOfText
    return v) text

/-- **A text is parsed as a value if the value is read and only blanks are left.** -/
theorem parseWithin_eq_ok {depth : Nat} {text : String} {v : Value} : parseWithin depth text = .ok v
    ↔ ∃ c, Reads depth (.ofString text) (.value v) c ∧ c.token.rest = [] := by
  rw [parseWithin, readAll_eq_ok]
  simp only [yields_bind, yields_value, yields_endOfText, yields_pure]
  constructor
  · rintro ⟨_, v', c, hv, _, _, ⟨hend, rfl⟩, rfl, rfl⟩
    exact ⟨c, hv, hend⟩
  · rintro ⟨c, hv, hend⟩
    exact ⟨_, v, c, hv, (), _, ⟨hend, rfl⟩, rfl, rfl⟩

theorem parse_eq_ok {text : String} {v : Value} :
    parse text = .ok v ↔ ∃ c, Reads maxDepth (.ofString text) (.value v) c ∧ c.token.rest = [] :=
  parseWithin_eq_ok

end Reader
end Scriptorium.Json
