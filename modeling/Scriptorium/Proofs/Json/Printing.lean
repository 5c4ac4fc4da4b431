import Scriptorium.Json.Printer
import Scriptorium.Proofs.Json.Numerals

/-!
# What is written in JSON is read back

The text of a value is read as that value (`parseWithin_render`), if its numbers are whole and in
range and it is not nested deeper than can be read (`Exact`).

The places in a text play no part in this, so a step is described by the text before it and the
text behind it (`Takes`), and such descriptions are put together with `Takes.bind`.  The induction
is on the value.  What comes behind it is arbitrary, except that it must not continue a number
(`EndsWhole`), which a comma, a bracket and the end of the text do not.
-/
namespace Scriptorium.Json.Reader

variable {d : Nat} {p : Position} {x : Char} {rest : List Char} {v : Value}

/-! ## 1. Strings -/

theorem hexValue?_hexDigit {n : Nat} (h : n < 16) : hexValue? (hexDigit n) = some n := by
  have hall : ∀ n < 16, hexValue? (hexDigit n) = some n := by decide
  exact hall n h

theorem hexValue4?_hexDigit {n : Nat} (h : n < 256) :
    hexValue4? '0' '0' (hexDigit (n / 16)) (hexDigit (n % 16)) = some n := by
  simp only [hexValue4?, hexValue?_hexDigit (show n / 16 < 16 by omega),
    hexValue?_hexDigit (show n % 16 < 16 by omega), show hexValue? '0' = some 0 from rfl]
  show some _ = some _
  congr 1
  omega

/-- What is done with a character that is neither a quote nor a backslash. -/
theorem stringFrom_cons (hquote : x ≠ '"') (hslash : x ≠ '\\') {done : List Char} :
    stringFrom done p (x :: rest) = if x.toNat < 0x20
      then (.error ⟨.controlCharacter, some (p.after x)⟩, ⟨rest, p.after x⟩)
      else stringFrom (x :: done) (p.after x) rest := by
  rw [stringFrom.eq_def]
  split <;> simp_all

/-- A character that is written is read back. -/
theorem stringFrom_escape (x : Char) (done : List Char) (p : Position) (rest : List Char) :
    ∃ p', stringFrom done p (escape x ++ rest) = stringFrom (x :: done) p' rest := by
  -- the characters with an escape of their own come last
  fun_cases escape x
  case case8 hlow =>
    refine ⟨p.along 6, ?_⟩
    simp only [List.cons_append, List.nil_append]
    rw [stringFrom]
    simp only [hexValue4?_hexDigit (show x.toNat < 256 by omega)]
    rw [if_neg (by omega), if_pos (by omega), Char.ofNat_toNat]
  case case9 hquote hslash _ _ _ _ _ hlow =>
    refine ⟨p.after x, ?_⟩
    rw [List.singleton_append, stringFrom_cons hquote hslash, if_neg hlow]
  all_goals
    rename_i h
    subst h
    exact ⟨p.along 2, rfl⟩

theorem stringFrom_quote (cs done : List Char) (p : Position) (rest : List Char) :
    ∃ p', stringFrom done p (cs.flatMap escape ++ '"' :: rest)
      = (.ok (String.ofList (done.reverse ++ cs)), ⟨rest, p'⟩) := by
  induction cs generalizing done p with
  | nil => exact ⟨p.along 1, by simp [stringFrom]⟩
  | cons x cs ih =>
    obtain ⟨p₁, hx⟩ := stringFrom_escape x done p (cs.flatMap escape ++ '"' :: rest)
    obtain ⟨p', hcs⟩ := ih (x :: done) p₁
    exact ⟨p', by simpa [hx] using hcs⟩

/-! ## 2. Steps over a text -/

/-- Where no blank comes next, the next token is there. -/
theorem token_eq (hx : isBlank x = false) :
    (⟨x :: rest, p⟩ : Cursor).token = ⟨x :: rest, p⟩ := by
  simp [Cursor.token, skipBlanksFrom, hx]

/-- From the text `cs`, wherever it stands, a reader comes to `a` and leaves `rest`. -/
def Takes {α : Type} (r : Reader α) (cs : List Char) (a : α) (rest : List Char) : Prop :=
  ∀ p, ∃ p', Yields r ⟨cs, p⟩ a ⟨rest, p'⟩

/-- What stands before an item or a member. -/
def comma (first : Bool) : List Char := if first then [] else [',']

namespace Takes

variable {α β : Type} {r : Reader α} {f : α → Reader β} {a : α} {b : β} {cs mid : List Char}

theorem pure : Takes (Pure.pure a) rest a rest :=
  fun p => ⟨p, yields_pure.mpr ⟨rfl, rfl⟩⟩

theorem bind (hr : Takes r cs a mid) (hf : Takes (f a) mid b rest) :
    Takes (r >>= f) cs b rest := by
  intro p
  obtain ⟨p₁, hr⟩ := hr p
  obtain ⟨p₂, hf⟩ := hf p₁
  exact ⟨p₂, yields_bind.mpr ⟨a, _, hr, hf⟩⟩

theorem peek (cs : List Char) : Takes Reader.peek cs cs.head? cs :=
  fun p => ⟨p, yields_peek.mpr ⟨rfl, rfl⟩⟩

theorem skip : Takes Reader.skip (x :: rest) () rest :=
  fun p => ⟨p.after x, (yields_skip rfl).mpr ⟨rfl, rfl⟩⟩

theorem word : ∀ cs rest : List Char, Takes (Reader.word cs) (cs ++ rest) () rest
  | [], rest => .pure
  | x :: cs, rest => by
    refine .bind (.peek _) ?_
    simp only [List.cons_append, List.head?_cons, if_pos]
    exact .bind .skip (word cs rest)

theorem stringTail (s : String) (rest : List Char) :
    Takes Reader.stringTail (s.toList.flatMap escape ++ '"' :: rest) s rest := by
  intro p
  obtain ⟨p', h⟩ := stringFrom_quote s.toList [] p rest
  exact ⟨p', yields_ofFunction.mpr (by simpa using h)⟩

theorem peekToken (hx : isBlank x = false) :
    Takes Reader.peekToken (x :: rest) (some x) (x :: rest) :=
  fun p => ⟨p, yields_peekToken.mpr (by rw [token_eq hx]; exact ⟨rfl, rfl⟩)⟩

/-- What stands before an item is taken by the reader as just that: a comma, unless the item is the
first. -/
theorem nextItem (first : Bool) (hx : isBlank x = false) (hend : x ≠ ']') :
    Takes (Reader.nextItem first) (comma first ++ x :: rest) true (x :: rest) := by
  cases first with
  | true =>
    refine .bind (.peekToken hx) ?_
    split
    · simp_all
    · simp_all
    · exact .pure
  | false =>
    refine .bind (.peekToken rfl) (.bind .skip (.bind (.peekToken hx) ?_))
    split
    · simp_all
    · exact .pure
    · simp_all

theorem noItem (first : Bool) (rest : List Char) :
    Takes (Reader.nextItem first) (']' :: rest) false (']' :: rest) :=
  .bind (.peekToken rfl) .pure

/-- A name in quotes with its comma is read back as the key of a member. -/
theorem nextKey (first : Bool) (name : String) (rest : List Char) :
    Takes (Reader.nextKey first) (comma first ++ (quote name ++ rest)) (some name) rest := by
  have hkey : Takes (nextKey.key '"') (quote name ++ rest) (some name) rest := by
    rw [quote, List.cons_append, List.append_assoc]
    exact .bind .skip (.bind (stringTail name rest) .pure)
  cases first with
  | true => exact .bind (.peekToken rfl) hkey
  | false =>
    have hquote : Takes Reader.peekToken (quote name ++ rest) (some '"') (quote name ++ rest) :=
      .peekToken rfl
    exact .bind (.peekToken rfl) (.bind .skip (.bind hquote hkey))

theorem noKey (first : Bool) (rest : List Char) :
    Takes (Reader.nextKey first) ('\x7d' :: rest) none ('\x7d' :: rest) :=
  .bind (.peekToken rfl) .pure

theorem colon (rest : List Char) : Takes Reader.colon (':' :: rest) () rest :=
  .bind (.peekToken rfl) .skip

theorem endList (rest : List Char) : Takes Reader.endList (']' :: rest) () rest :=
  .bind (.peekToken rfl) .skip

theorem endObject (rest : List Char) : Takes Reader.endObject ('\x7d' :: rest) () rest :=
  .bind (.peekToken rfl) .skip

end Takes

/-! ## 3. Values -/

/-- From the text `cs`, wherever it stands, a piece is read that leaves `rest`. -/
def Gives (d : Nat) (cs : List Char) (piece : Piece) (rest : List Char) : Prop :=
  ∀ p, ∃ p', Reads d ⟨cs, p⟩ piece ⟨rest, p'⟩

/-- A value with whole numbers only, none of them out of range, and nested less than `d` levels
deep. -/
inductive Exact : Nat → Value → Prop
  | null {d : Nat} : Exact d .null
  | bool {d : Nat} (b : Bool) : Exact d (.bool b)
  | whole {d : Nat} {i : Int} : IsWhole i → Exact d (.whole i)
  | string {d : Nat} (s : String) : Exact d (.string s)
  | array {d : Nat} {vs : List Value} : (∀ v ∈ vs, Exact (d + 1) v) → Exact (d + 2) (.array vs)
  | object {d : Nat} {ms : List (String × Value)} :
      (∀ m ∈ ms, Exact (d + 1) m.2) → Exact (d + 2) (.object ms)

/-- Texts with a comma before each, but for the first. -/
def listed : Bool → List (List Char) → List Char
  | _, [] => []
  | first, t :: ts => comma first ++ (t ++ listed false ts)

theorem commaSeparated_eq : ∀ ts : List (List Char), commaSeparated ts = listed true ts
  | [] => rfl
  | [t] => by simp [commaSeparated, listed, comma]
  | t :: t' :: ts => by
    rw [commaSeparated, commaSeparated_eq (t' :: ts)]
    · rfl
    · simp

/-- The text of a value starts with a character of its own. -/
theorem Exact.text_eq (h : Exact d v) :
    ∃ x rest, v.text = x :: rest ∧ isBlank x = false ∧ x ≠ ']' := by
  cases h with
  | null => exact ⟨'n', _, rfl, rfl, by decide⟩
  | bool b =>
    cases b with
    | true => exact ⟨'t', _, rfl, rfl, by decide⟩
    | false => exact ⟨'f', _, rfl, rfl, by decide⟩
  | @whole _ i hi => exact exists_toString i
  | string s => exact ⟨'"', _, rfl, rfl, by decide⟩
  | array hvs => exact ⟨'[', _, rfl, rfl, by decide⟩
  | object hms => exact ⟨'\x7b', _, rfl, rfl, by decide⟩

/-- What comes behind a value in a list or an object. -/
theorem endsWhole_listed (ts : List (List Char)) (hx : x = ']' ∨ x = '\x7d') :
    EndsWhole (listed false ts ++ x :: rest) := by
  cases ts with
  | nil => rcases hx with rfl | rfl <;> simp [EndsWhole, listed]
  | cons t ts => simp [EndsWhole, listed, comma]

/-- If each item can be read back from what is written for it, the list can be read back from the
items with commas between them and a bracket behind them. -/
theorem gives_items {vs : List Value} (hvs : ∀ v ∈ vs, Exact d v
      ∧ ∀ rest, EndsWhole rest → Gives d (v.text ++ rest) (.value v) rest)
    (first : Bool) (rest : List Char) :
    Gives d (listed first (Value.textItems vs) ++ ']' :: rest) (.items first vs) (']' :: rest) := by
  induction vs generalizing first with
  | nil =>
    intro p
    obtain ⟨p', h⟩ := Takes.noItem first rest p
    exact ⟨p', .noItem h⟩
  | cons v vs ih =>
    intro p
    obtain ⟨hv, hgives⟩ := hvs v List.mem_cons_self
    obtain ⟨x, xs, htext, hblank, hend⟩ := hv.text_eq
    have hnext (behind : List Char) :
        Takes (nextItem first) (comma first ++ (v.text ++ behind)) true (v.text ++ behind) := by
      rw [htext]
      exact .nextItem first hblank hend
    rw [Value.textItems, listed, List.append_assoc, List.append_assoc]
    obtain ⟨p₁, hnext⟩ := hnext _ p
    obtain ⟨p₂, hread⟩ := hgives _ (endsWhole_listed _ (.inl rfl)) p₁
    obtain ⟨p', hmore⟩ := ih (fun w hw => hvs w (List.mem_cons_of_mem _ hw)) false p₂
    exact ⟨p', .item hnext hread hmore⟩

/-- If each value can be read back, the object can be read back from its members with commas between
them and a brace behind them. -/
theorem gives_members {ms : List (String × Value)}
    (hms : ∀ m ∈ ms, ∀ rest, EndsWhole rest → Gives d (m.2.text ++ rest) (.value m.2) rest)
    (first : Bool) (rest : List Char) :
    Gives d (listed first (Value.textMembers ms) ++ '\x7d' :: rest) (.members first ms)
      ('\x7d' :: rest) := by
  induction ms generalizing first with
  | nil =>
    intro p
    obtain ⟨p', h⟩ := Takes.noKey first rest p
    exact ⟨p', .noMember h⟩
  | cons m ms ih =>
    intro p
    obtain ⟨name, v⟩ := m
    rw [Value.textMembers, listed, List.append_assoc, List.append_assoc, List.append_assoc]
    obtain ⟨p₁, hnext⟩ := Takes.nextKey first name _ p
    obtain ⟨p₂, hcolon⟩ := Takes.colon _ p₁
    obtain ⟨p₃, hread⟩ := hms _ List.mem_cons_self _ (endsWhole_listed _ (.inr rfl)) p₂
    obtain ⟨p', hmore⟩ := ih (fun w hw => hms w (List.mem_cons_of_mem _ hw)) false p₃
    exact ⟨p', .member hnext hcolon hread hmore⟩

theorem gives_scalar {r : Reader Value} {cs : List Char} (hx : isBlank x = false)
    (hr : Scalar x r) (h : Takes r (x :: cs) v rest) :
    Gives d (x :: cs) (.value v) rest := by
  intro p
  obtain ⟨p', h⟩ := h p
  exact ⟨p', .scalar (by rw [token_eq hx]; rfl) hr (by rwa [token_eq hx])⟩

/-- **A value is read from its text.** -/
theorem Exact.gives (h : Exact d v) :
    ∀ rest, EndsWhole rest → Gives d (v.text ++ rest) (.value v) rest := by
  induction h with
  | null =>
    intro rest _
    exact gives_scalar rfl .null (.bind .skip (.bind (.word _ rest) .pure))
  | bool b =>
    intro rest _
    cases b with
    | true => exact gives_scalar rfl .true (.bind .skip (.bind (.word _ rest) .pure))
    | false => exact gives_scalar rfl .false (.bind .skip (.bind (.word _ rest) .pure))
  | @whole d i hi =>
    intro rest hrest p
    obtain ⟨x, xs, htext, hblank, -⟩ := exists_toString i
    have htoken : (⟨(toString i).toList ++ rest, p⟩ : Cursor).token
        = ⟨(toString i).toList ++ rest, p⟩ := by
      rw [htext]
      exact token_eq hblank
    refine ⟨p.along (toString i).toList.length, reads_whole.mpr ⟨hi, ?_, hrest, ?_⟩⟩
    · exact congrArg Cursor.rest htoken
    · exact congrArg (fun c : Cursor => c.place.along (toString i).toList.length) htoken.symm
  | string s =>
    intro rest _
    rw [Value.text, quote, List.cons_append, List.append_assoc]
    exact gives_scalar rfl .string (.bind .skip (.bind (.stringTail s rest) .pure))
  | @array d vs hvs ih =>
    intro rest _ p
    rw [Value.text, commaSeparated_eq, List.cons_append, List.append_assoc]
    obtain ⟨p₁, hskip⟩ := Takes.skip p
    obtain ⟨p₂, hin⟩ := gives_items (fun v hv => ⟨hvs v hv, ih v hv⟩) true rest p₁
    obtain ⟨p', hend⟩ := Takes.endList rest p₂
    exact ⟨p', .list (by rw [token_eq rfl]; rfl) (by rwa [token_eq rfl]) hin hend⟩
  | @object d ms hms ih =>
    intro rest _ p
    rw [Value.text, commaSeparated_eq, List.cons_append, List.append_assoc]
    obtain ⟨p₁, hskip⟩ := Takes.skip p
    obtain ⟨p₂, hin⟩ := gives_members ih true rest p₁
    obtain ⟨p', hend⟩ := Takes.endObject rest p₂
    exact ⟨p', .object (by rw [token_eq rfl]; rfl) (by rwa [token_eq rfl]) hin hend⟩

/-- **What is written is read back.** -/
theorem parseWithin_render (h : Exact d v) : parseWithin d v.render = .ok v := by
  obtain ⟨p', hread⟩ := h.gives [] (by simp [EndsWhole]) .start
  refine parseWithin_eq_ok.mpr ⟨⟨[], p'⟩, ?_, rfl⟩
  rwa [List.append_nil, ← String.toList_ofList (l := v.text)] at hread

theorem parse_render (h : Exact maxDepth v) : parse v.render = .ok v := parseWithin_render h

end Scriptorium.Json.Reader
