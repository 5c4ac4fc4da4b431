import Scriptorium.Json.Expect
import Scriptorium.Proofs.Json.Tagged

/-!
# What is read of an expected value

A reader that expects something takes a value that is as expected, wherever it stands in a text
(`ReadAs`): a number in range, a word that is known, a value that may be `null`, a list, and a
record that is written as an object.

Of a record each member puts one thing into it (`Entry`), and what is not among the members keeps
the value it starts with.  So what a part of the record is in the end depends on whether its own
member is there (`Puts`), and on nothing else.
-/
namespace Scriptorium.Json.Reader

variable {α β : Type} {r : Reader α} {d : Nat} {v : Value} {a : α} {c c' : Cursor}
  {expected : String}

/-! ## 1. Single values -/

/-- Wherever the value `v` is read, at most `d` levels deep, the reader comes to `a`. -/
def ReadAs (r : Reader α) (d : Nat) (v : Value) (a : α) : Prop :=
  ∀ ⦃c c'⦄, Reads d c (.value v) c' → Yields r c a c'

theorem token_token (c : Cursor) : c.token.token = c.token := by
  unfold Cursor.token
  fun_induction skipBlanksFrom c.place c.rest with
  | case1 p => rfl
  | case2 p x rest hx ih => exact ih
  | case3 p x rest hx => rw [skipBlanksFrom, if_neg hx]

/-- The blanks before a value do not matter. -/
theorem Reads.token (h : Reads d c (.value v) c') : Reads d c.token (.value v) c' := by
  cases h with
  | scalar hx hr hv => exact .scalar (by rwa [token_token]) hr (by rwa [token_token])
  | list hx hskip hin hend =>
    exact .list (by rwa [token_token]) (by rwa [token_token]) hin hend
  | object hx hskip hin hend =>
    exact .object (by rwa [token_token]) (by rwa [token_token]) hin hend

namespace ReadAs

theorem map {f : α → β} (h : ReadAs r d v a) : ReadAs (do return f (← r)) d v (f a) :=
  fun _ c' hv => yields_bind.mpr ⟨a, c', h hv, yields_pure.mpr ⟨rfl, rfl⟩⟩

theorem string (expected s : String) (d : Nat) : ReadAs (string expected) d (.string s) s :=
  fun _ _ hv => hv.yields_string.mpr ⟨rfl, rfl⟩

/-- A whole number in range. -/
theorem natural {bound n : Nat} (h : n ≤ bound) (expected : String) (d : Nat) :
    ReadAs (natural bound expected) d (.whole n) n := by
  intro c c' hv
  have hof : naturalOf bound expected (Number.whole n) = .ok n := naturalOf_eq_ok.mpr ⟨rfl, h⟩
  cases hv with
  | @scalar _ _ _ x r _ hx hr hv =>
    rw [Reader.natural, yields_placed]
    refine (peekValue_bind hx).mpr ?_
    cases hr with
    | null => simp [Value.whole] at hv
    | true => simp [Value.whole] at hv
    | false => simp [Value.whole] at hv
    | string => simp [Value.whole] at hv
    | negative =>
      simp only [yields_bind, yields_pure, Value.whole, Value.number.injEq] at hv
      obtain ⟨_, c₁, hskip, m, _, hnumber, rfl, rfl⟩ := hv
      refine hskip.bind_iff.mpr (hnumber.bind_iff.mpr ?_)
      simp only [hof, yields_pure, and_self]
    | positive hd =>
      have hminus : x ≠ '-' := by rintro rfl; exact absurd hd (by decide)
      simp only [yields_bind, yields_pure, Value.whole, Value.number.injEq] at hv
      obtain ⟨m, _, hnumber, rfl, rfl⟩ := hv
      simp only [if_neg hminus, if_pos hd]
      refine hnumber.bind_iff.mpr ?_
      simp only [hof, yields_pure, and_self]

/-- Nothing, where a value may be missing. -/
theorem optional_null (r : Reader α) (d : Nat) : ReadAs (optional r) d .null none := by
  intro c c' hv
  cases hv with
  | @scalar _ _ _ x r' _ hx hr hv =>
    refine (yields_peekToken.mpr ⟨hx.symm, rfl⟩ : Yields peekToken c _ _).bind_iff.mpr ?_
    cases hr with
    | null => simpa using hv
    | _ => simp at hv

/-- A value other than `null` is read by an optional reader as by the reader itself. -/
theorem optional (h : ReadAs r d v a) (hv : v ≠ .null) : ReadAs (optional r) d v (some a) := by
  intro c c' hread
  have htoken : Yields peekToken c c.token.rest.head? c.token := yields_peekToken.mpr ⟨rfl, rfl⟩
  refine htoken.bind_iff.mpr ?_
  have hn : c.token.rest.head? ≠ some 'n' := by
    intro hn
    cases hread with
    | scalar hx hr hv' =>
      obtain rfl := Option.some.inj (hx.symm.trans hn)
      cases hr with
      | null =>
        simp only [yields_bind, yields_pure] at hv'
        obtain ⟨_, _, _, _, _, _, hnull, -⟩ := hv'
        exact hv hnull.symm
      | positive hd => exact absurd hd (by decide)
    | list hx _ _ _ => exact absurd (hx.symm.trans hn) (by decide)
    | object hx _ _ _ => exact absurd (hx.symm.trans hn) (by decide)
  split
  · rename_i heq
    exact absurd heq hn
  · exact h.map hread.token

/-- A word that stands by itself. -/
theorem tagged {names : List String} {choose : String → Option α} {s : String}
    (h : choose s = some a) (expected : String) (depth d : Nat) :
    ReadAs (tagged expected names choose depth) d (.string s) a := by
  intro c c' hv
  have hx := (reads_string.mp hv).1
  refine (yields_peekToken.mpr ⟨hx.symm, rfl⟩ : Yields peekToken c _ _).bind_iff.mpr ?_
  exact hv.token.yields_choice.mpr ⟨⟨s, rfl, h⟩, rfl⟩

/-! ## 2. Lists -/

/-- If each value can be read as an item, the list is read as the items, in order, whatever has been
gathered before. -/
theorem itemsOf {item : Reader α} {vs : List Value} {as : List α} {first : Bool}
    (h : List.Forall₂ (ReadAs item d) vs as) (hv : Reads d c (.items first vs) c') {fuel : Nat}
    (hfuel : c.rest.length + first.toNat < fuel) (done : List α) :
    Yields (itemsOf item fuel first done) c (done.reverse ++ as) c' := by
  induction h generalizing first c fuel done with
  | nil =>
    obtain _ | fuel := fuel
    · omega
    cases hv with
    | noItem hnext => exact hnext.bind_iff.mpr (by simp)
  | @cons v a vs as hitem _ ih =>
    obtain _ | fuel := fuel
    · omega
    cases hv with
    | @item _ _ c₁ c₂ _ _ _ _ hnext hv hvs =>
      have hlen : c₂.rest.length + false.toNat < fuel := by
        have hle := hv.length_le
        cases first with
        | true =>
          have := Shrinks.nextItem _ hnext
          simp at hfuel ⊢
          omega
        | false =>
          have := nextItem_shortens hnext
          simp at hfuel ⊢
          omega
      refine hnext.bind_iff.mpr ((hitem hv).bind_iff.mpr ?_)
      simpa using ih hvs hlen (a :: done)

/-- A list whose items are as expected. -/
theorem list {item : Reader α} {vs : List Value} {as : List α}
    (h : ∀ d, List.Forall₂ (ReadAs item d) vs as) (d : Nat) :
    ReadAs (list item d) d (.array vs) as := by
  intro c c' hv
  cases hv with
  | scalar hx hr hv => cases hr <;> simp at hv
  | @list d _ c₁ c₂ _ _ hx hskip hin hend =>
    rw [Reader.list, yields_placed]
    refine (peekValue_bind hx).mpr ?_
    have henter : Yields (enter (d + 2)) c.token (d + 1) c.token :=
      yields_enter.mpr ⟨⟨d, rfl, rfl⟩, rfl⟩
    refine henter.bind_iff.mpr (hskip.bind_iff.mpr (yields_closedBy.mpr ⟨c₂, ?_, hend⟩))
    refine (yields_enough.mpr ⟨rfl, rfl⟩ : Yields enough c₁ _ _).bind_iff.mpr ?_
    exact itemsOf (h (d + 1)) hin (by simp; omega) []

end ReadAs

/-! ## 3. Records -/

/-- A member of an object, and what it puts into the record that it is a part of. -/
structure Entry (σ : Type) where
  name : String
  value : Value
  put : σ → σ

variable {σ : Type} {fields : List (RecordField σ)} {es : List (Entry σ)} {init : σ}

/-- The object that entries make up. -/
def objectOf (es : List (Entry σ)) : Value := .object (es.map fun e => (e.name, e.value))

/-- The record with all that entries put into it. -/
def fill (init : σ) (es : List (Entry σ)) : σ := es.foldl (fun s e => e.put s) init

/-- The entries are read by fields of their names, each name once. -/
structure Fits (fields : List (RecordField σ)) (es : List (Entry σ)) : Prop where
  nodup : (es.map (·.name)).Nodup
  reads : ∀ e ∈ es, ∃ f, fields.find? (·.name == e.name) = some f
    ∧ ∀ d s, ReadAs (f.read d s) d e.value (e.put s)

/-- **A record is filled in by the members of an object**, whatever their order, if each fits a
field that no other one is named like. -/
theorem yields_fieldsByName {first : Bool} {seen : List String} (hfits : Fits fields es)
    (hseen : ∀ e ∈ es, e.name ∉ seen)
    (hv : Reads d c (.members first (es.map fun e => (e.name, e.value))) c') {fuel : Nat}
    (hfuel : c.rest.length + first.toNat < fuel) (s : σ) :
    Yields (fieldsByName fields d fuel first seen s) c (fill s es) c' := by
  induction es generalizing first c fuel seen s with
  | nil =>
    obtain _ | fuel := fuel
    · omega
    cases hv with
    | noMember hnext => exact hnext.bind_iff.mpr (by simp [fill])
  | cons e es ih =>
    obtain _ | fuel := fuel
    · omega
    obtain ⟨hfirst, hnodup⟩ := List.nodup_cons.mp hfits.nodup
    obtain ⟨f, hfind, hreads⟩ := hfits.reads e List.mem_cons_self
    have hrest : Fits fields es := ⟨hnodup, fun e' he => hfits.reads e' (List.mem_cons_of_mem e he)⟩
    have hseen' : ∀ e' ∈ es, e'.name ∉ e.name :: seen := by
      intro e' he' hmem
      rcases List.mem_cons.mp hmem with heq | hmem
      · exact hfirst (List.mem_map.mpr ⟨e', he', heq⟩)
      · exact hseen e' (List.mem_cons_of_mem e he') hmem
    cases hv with
    | @member _ _ c₁ c₂ c₃ _ _ _ _ _ hnext hcolon hv hms =>
      have hlen : c₃.rest.length + false.toNat < fuel := by
        have := Shrinks.colon hcolon
        have := hv.length_le
        cases first with
        | true =>
          have := Shrinks.nextKey _ hnext
          simp at hfuel ⊢
          omega
        | false =>
          have := nextKey_shortens hnext
          simp at hfuel ⊢
          omega
      refine hnext.bind_iff.mpr ?_
      have hnew : seen.contains e.name = false := by
        simpa using hseen e List.mem_cons_self
      simp only [hfind, hnew, Bool.false_eq_true, if_false]
      refine hcolon.bind_iff.mpr ((hreads d s hv).bind_iff.mpr ?_)
      exact ih hrest hseen' hms hlen (e.put s)

/-- **A record is read from an object of its entries.** -/
theorem ReadAs.record (hfits : Fits fields es) (title : String) (init : σ) (d : Nat) :
    ReadAs (record title fields init d) d (objectOf es) (fill init es) := by
  intro c c' hv
  unfold objectOf at hv
  cases hv with
  | scalar hx hr hv => exact absurd hv hr.not_object
  | @object d _ c₁ c₂ _ _ hx hskip hin hend =>
    rw [Reader.record, yields_placed]
    refine (peekValue_bind hx).mpr ?_
    have henter : Yields (enter (d + 2)) c.token (d + 1) c.token :=
      yields_enter.mpr ⟨⟨d, rfl, rfl⟩, rfl⟩
    refine henter.bind_iff.mpr (hskip.bind_iff.mpr (yields_closedBy.mpr ⟨c₂, ?_, hend⟩))
    refine (yields_enough.mpr ⟨rfl, rfl⟩ : Yields enough c₁ _ _).bind_iff.mpr ?_
    exact yields_fieldsByName hfits (by simp) hin (by simp; omega) init

/-- A whole text that says a value is read as it. -/
theorem ReadAs.readAll {text : String} (h : ReadAs r maxDepth v a) (hv : parse text = .ok v) :
    readAll (do
      let a ← r
      endOfText
      return a) text = .ok a := by
  obtain ⟨c, hreads, hend⟩ := parse_eq_ok.mp hv
  refine readAll_eq_ok.mpr ⟨c.token, (h hreads).bind_iff.mpr ?_⟩
  refine (yields_endOfText.mpr ⟨hend, rfl⟩ : Yields endOfText c () c.token).bind_iff.mpr ?_
  exact yields_pure.mpr ⟨rfl, rfl⟩

/-! ## 4. Leaving members out -/

/-- The object with only the members whose names are kept. -/
def keeping (keep : String → Bool) : Value → Value
  | .object ms => .object (ms.filter fun m => keep m.1)
  | v => v

/-- The object with members of members left out. -/
def keepingBelow (keep : String → String → Bool) : Value → Value
  | .object ms => .object (ms.map fun m => (m.1, keeping (keep m.1) m.2))
  | v => v

theorem keeping_objectOf (keep : String → Bool) (es : List (Entry σ)) :
    keeping keep (objectOf es) = objectOf (es.filter fun e => keep e.name) := by
  rw [objectOf, keeping, objectOf, List.filter_map]
  rfl

theorem Fits.filter (h : Fits fields es) (keep : Entry σ → Bool) :
    Fits fields (es.filter keep) where
  nodup := h.nodup.sublist (List.filter_sublist.map _)
  reads e he := h.reads e (List.mem_of_mem_filter he)

/-- Among entries, the one with this name puts `b` into this part of a record, and the others leave
the part as it is.  So it is `b` if that entry is kept, and what it starts with if not. -/
def Puts (es : List (Entry σ)) (name : String) (get : σ → β) (b : β) : Prop :=
  ∀ (keep : String → Bool) (init : σ),
    get (fill init (es.filter fun e => keep e.name)) = if keep name then b else get init

theorem get_fill {get : σ → β} (h : ∀ e ∈ es, ∀ s, get (e.put s) = get s) (init : σ) :
    get (fill init es) = get init := by
  induction es generalizing init with
  | nil => rfl
  | cons e es ih =>
    exact (ih (fun e' he => h e' (List.mem_cons_of_mem e he)) _).trans (h e List.mem_cons_self init)

/-- The entry at a place puts something into a part of a record if the others leave it as it is. -/
theorem puts_at {name : String} {get : σ → β} {e : Entry σ} {b : β} (i : Nat)
    (hi : es[i]? = some e) (hn : e.name = name) (hput : ∀ s, get (e.put s) = b)
    (hothers : ∀ e' ∈ es.eraseIdx i, ∀ s, get (e'.put s) = get s) : Puts es name get b := by
  subst hn
  intro keep init
  induction es generalizing i init with
  | nil => exact absurd hi (by simp)
  | cons e' es ih =>
    cases i with
    | zero =>
      obtain rfl := Option.some.inj hi
      have hrest : ∀ e ∈ es.filter (fun e => keep e.name), ∀ s, get (e.put s) = get s :=
        fun e he => hothers e (List.mem_of_mem_filter he)
      rw [List.filter_cons]
      split
      · exact (get_fill hrest _).trans (hput init)
      · exact get_fill hrest init
    | succ i =>
      have hlater := ih i hi fun e he => hothers e (List.mem_cons_of_mem e' he)
      rw [List.filter_cons]
      split
      · refine (hlater (e'.put init)).trans ?_
        rw [hothers e' List.mem_cons_self]
      · exact hlater init

end Scriptorium.Json.Reader
