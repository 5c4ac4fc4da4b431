import Scriptorium.Text.Utf8

/-!
# Byte strings that go on

What a byte string begins with does not change when more bytes come, unless it is cut off
(`lead_append`).  So a byte string can be read as far as it is settled (`settle`): the characters
that no further byte can change, and the bytes of the character that may be cut off at its end.
Reading without failing can stop there and go on with more (`lossy_append`), and so can reading up
to a fault (`complete_append`).

Two more facts are needed of readers that meet a byte string in pieces:

* the bytes of a text read back as that text (`complete_encode`), so that every byte string which
  begins one is free of faults;
* a cut-off character that is given up too early costs characters.  If the next byte goes on with
  it (`goesOn`), the bytes that belonged to it are read one by one (`length_lossy_of_goesOn`), and
  otherwise nothing is lost (`lossy_of_not_goesOn`).
-/
namespace Scriptorium.Text.Utf8

/-! ## 1. How a byte string begins when more bytes come -/

/-- The same beginning, with more bytes behind it. -/
def Lead.before (more : Bytes) : Lead → Lead
  | .char c rest => .char c (rest ++ more)
  | .broken rest => .broken (rest ++ more)
  | l => l

/-- Unless a character is cut off at the end of the bytes, what follows them has no influence on how
it is read. -/
theorem follow_append {n : Nat} {low high : UInt8} {code : Nat} {bs : Bytes} (more : Bytes)
    (h : follow n low high code bs ≠ .cut) :
    follow n low high code (bs ++ more) = (follow n low high code bs).before more := by
  induction n generalizing low high code bs with
  | zero => rfl
  | succ n ih =>
    cases bs with
    | nil => exact absurd rfl h
    | cons b bs =>
      simp only [follow, List.cons_append] at h ⊢
      split
      · rename_i hb
        rw [if_pos hb] at h
        exact ih h
      · rfl

/-- **More bytes do not change how a byte string begins**, unless they come to an end or go on with
a character that is cut off. -/
theorem lead_append {bs : Bytes} {l : Lead} (h : lead bs = l) (hd : l ≠ .done) (hc : l ≠ .cut)
    (more : Bytes) : lead (bs ++ more) = l.before more := by
  subst h
  cases bs with
  | nil => exact absurd rfl hd
  | cons b bs =>
    simp only [lead, List.cons_append] at hc ⊢
    split
    · rfl
    · rename_i a ha
      rw [ha] at hc
      exact follow_append more hc

theorem lead_append_char {bs rest : Bytes} {c : Char} (h : lead bs = .char c rest) (more : Bytes) :
    lead (bs ++ more) = .char c (rest ++ more) :=
  lead_append h (by simp) (by simp) more

theorem lead_append_broken {bs rest : Bytes} (h : lead bs = .broken rest) (more : Bytes) :
    lead (bs ++ more) = .broken (rest ++ more) :=
  lead_append h (by simp) (by simp) more

/-- Behind the first byte of a character the text is never just at its end: the character is there,
broken, or cut off. -/
theorem follow_ne_done (n : Nat) (low high : UInt8) (code : Nat) (bs : Bytes) :
    follow n low high code bs ≠ .done := by
  induction n generalizing low high code bs with
  | zero => simp [follow]
  | succ n ih =>
    cases bs with
    | nil => simp [follow]
    | cons b bs =>
      simp only [follow]
      split
      · exact ih _ _ _ _
      · simp

theorem eq_nil_of_lead_done {bs : Bytes} (h : lead bs = .done) : bs = [] := by
  cases bs with
  | nil => rfl
  | cons b bs =>
    simp only [lead] at h
    split at h
    · exact absurd h (by simp)
    · exact absurd h (follow_ne_done _ _ _ _ _)

/-! ## 2. Reading as far as it is settled -/

/-- The characters of a byte string that no further byte can change, with a replacement character
for each piece that is no text, and the bytes of the character that may be cut off at its end. -/
def settle (bs : Bytes) : List Char × Bytes :=
  match _h : lead bs with
  | .done => ([], [])
  | .char c rest => (c :: (settle rest).1, (settle rest).2)
  | .broken rest => (replacement :: (settle rest).1, (settle rest).2)
  | .cut => ([], bs)
termination_by bs.length
decreasing_by
  all_goals first
    | exact lead_char_length _h
    | exact lead_broken_length _h

theorem settle_eq (bs : Bytes) :
    settle bs = match lead bs with
      | .done => ([], [])
      | .char c rest => (c :: (settle rest).1, (settle rest).2)
      | .broken rest => (replacement :: (settle rest).1, (settle rest).2)
      | .cut => ([], bs) := by
  rw [settle]
  cases lead bs <;> rfl

theorem settle_of_char {bs rest : Bytes} {c : Char} (h : lead bs = .char c rest) :
    settle bs = (c :: (settle rest).1, (settle rest).2) := by rw [settle_eq, h]

theorem settle_of_broken {bs rest : Bytes} (h : lead bs = .broken rest) :
    settle bs = (replacement :: (settle rest).1, (settle rest).2) := by rw [settle_eq, h]

theorem settle_of_cut {bs : Bytes} (h : lead bs = .cut) : settle bs = ([], bs) := by
  rw [settle_eq, h]

/-- What a property of all byte strings comes down to, read from the front. -/
theorem lead_induction {P : Bytes → Prop} (done : P [])
    (char : ∀ bs c rest, lead bs = .char c rest → P rest → P bs)
    (broken : ∀ bs rest, lead bs = .broken rest → P rest → P bs)
    (cut : ∀ bs, lead bs = .cut → P bs) (bs : Bytes) : P bs := by
  induction hn : bs.length using Nat.strongRecOn generalizing bs with
  | _ n ih =>
    cases h : lead bs with
    | done => exact eq_nil_of_lead_done h ▸ done
    | char c rest => exact char bs c rest h (ih _ (hn ▸ lead_char_length h) rest rfl)
    | broken rest => exact broken bs rest h (ih _ (hn ▸ lead_broken_length h) rest rfl)
    | cut => exact cut bs h

theorem lossy_of_char {bs rest : Bytes} {c : Char} (h : lead bs = .char c rest) :
    lossy bs = c :: lossy rest := by rw [lossy_eq, h]

theorem lossy_of_broken {bs rest : Bytes} (h : lead bs = .broken rest) :
    lossy bs = replacement :: lossy rest := by rw [lossy_eq, h]

theorem lossy_of_cut {bs : Bytes} (h : lead bs = .cut) : lossy bs = [replacement] := by
  rw [lossy_eq, h]

@[simp] theorem lossy_nil : lossy [] = [] := by rw [lossy_eq]; rfl

/-- **Reading can stop where it is settled and go on from there.**  What is not settled is a
character that is cut off at the end; it is read together with what comes next. -/
theorem lossy_append (bs more : Bytes) :
    lossy (bs ++ more) = (settle bs).1 ++ lossy ((settle bs).2 ++ more) := by
  induction bs using lead_induction with
  | done => simp [settle_eq, lead]
  | char bs c rest h ih =>
    rw [lossy_of_char (lead_append_char h more), ih, settle_of_char h]
    rfl
  | broken bs rest h ih =>
    rw [lossy_of_broken (lead_append_broken h more), ih, settle_of_broken h]
    rfl
  | cut bs h =>
    rw [settle_of_cut h]
    rfl

theorem lossy_eq_settle (bs : Bytes) : lossy bs = (settle bs).1 ++ lossy (settle bs).2 := by
  simpa using lossy_append bs []

/-- What is not settled is nothing, or a character that is cut off. -/
theorem settle_snd (bs : Bytes) : (settle bs).2 = [] ∨ lead (settle bs).2 = .cut := by
  induction bs using lead_induction with
  | done => exact .inl (by simp [settle_eq, lead])
  | char bs c rest h ih => rw [settle_of_char h]; exact ih
  | broken bs rest h ih => rw [settle_of_broken h]; exact ih
  | cut bs h => rw [settle_of_cut h]; exact .inr h

/-- A byte string without a fault is settled up to where its whole characters end. -/
theorem settle_of_complete {bs : Bytes} {p : List Char × Bytes} (h : complete bs = some p) :
    settle bs = p := by
  induction bs using lead_induction generalizing p with
  | done => simpa [settle_eq, complete_eq, lead] using h
  | char bs c rest hl ih =>
    rw [complete_eq, hl] at h
    obtain ⟨q, hq, rfl⟩ := Option.map_eq_some_iff.mp h
    rw [settle_of_char hl]
    simp only [ih hq]
  | broken bs rest hl _ => rw [complete_eq, hl] at h; exact absurd h (by simp)
  | cut bs hl =>
    rw [complete_eq, hl] at h
    rw [settle_of_cut hl]
    exact Option.some.inj h

/-- **Reading up to a fault goes on from where whole characters end.** -/
theorem complete_append {bs held : Bytes} {cs : List Char} (h : complete bs = some (cs, held))
    (more : Bytes) :
    complete (bs ++ more)
      = (complete (held ++ more)).map fun (ds, rest) => (cs ++ ds, rest) := by
  induction bs using lead_induction generalizing cs with
  | done =>
    obtain ⟨rfl, rfl⟩ : [] = cs ∧ [] = held := by simpa [complete_eq, lead] using h
    simp
  | char bs c rest hl ih =>
    rw [complete_eq, hl] at h
    obtain ⟨⟨ds, held'⟩, hq, he⟩ := Option.map_eq_some_iff.mp h
    obtain ⟨rfl, rfl⟩ := Prod.mk.inj he
    rw [complete_eq, lead_append_char hl more]
    simp only [ih hq]
    cases complete (held' ++ more) <;> rfl
  | broken bs rest hl _ => rw [complete_eq, hl] at h; exact absurd h (by simp)
  | cut bs hl =>
    rw [complete_eq, hl] at h
    obtain ⟨rfl, rfl⟩ := Prod.mk.inj (Option.some.inj h)
    simp

/-- A fault stays one, whatever comes after it. -/
theorem complete_append_none {bs : Bytes} (h : complete bs = none) (more : Bytes) :
    complete (bs ++ more) = none := by
  induction bs using lead_induction with
  | done => exact absurd h (by simp [complete_eq, lead])
  | char bs c rest hl ih =>
    rw [complete_eq, hl] at h
    rw [complete_eq, lead_append_char hl more]
    simp only [ih (Option.map_eq_none_iff.mp h), Option.map_none]
  | broken bs rest hl _ =>
    rw [complete_eq, lead_append_broken hl more]
  | cut bs hl => rw [complete_eq, hl] at h; exact absurd h (by simp)

/-! ## 3. The bytes of a text -/

/-- The loop behind the list of a byte array, with what it has gathered so far. -/
theorem toList_loop (bs : ByteArray) (i : Nat) (acc : Bytes) :
    ByteArray.toList.loop bs i acc = acc.reverse ++ bs.data.toList.drop i := by
  fun_induction ByteArray.toList.loop bs i acc with
  | case1 i acc h ih =>
    have hi : i < bs.data.toList.length := by simpa using h
    have hget : bs.get! i = bs.data.toList[i] := by
      simp [ByteArray.get!, getElem!_pos bs.data i (by simpa using h)]
    rw [ih, List.drop_eq_getElem_cons hi, hget]
    simp
  | case2 i acc h =>
    have hi : bs.data.toList.length ≤ i := by simpa using h
    simp [List.drop_eq_nil_of_le hi]

/-- The bytes of a text are those of its characters. -/
theorem encode_ofList (cs : List Char) :
    encode (String.ofList cs) = cs.flatMap String.utf8EncodeChar := by
  have h := toList_loop (String.ofList cs).toUTF8 0 []
  simpa [encode, ByteArray.toList, String.toUTF8, List.utf8Encode] using h

theorem announce_one : ∀ n < 256, n < 0x80 →
    announce (UInt8.ofNat n) = some ⟨0, 0x80, 0xBF, n⟩ := by decide +kernel

theorem announce_two : ∀ n < 256, 0xC2 ≤ n → n < 0xE0 →
    announce (UInt8.ofNat n) = some ⟨1, 0x80, 0xBF, n - 0xC0⟩ := by decide +kernel

theorem announce_three : ∀ n < 256, 0xE0 ≤ n → n < 0xF0 →
    announce (UInt8.ofNat n) = some ⟨2, if n = 0xE0 then 0xA0 else 0x80,
      if n = 0xED then 0x9F else 0xBF, n - 0xE0⟩ := by decide +kernel

theorem announce_four : ∀ n < 256, 0xF0 ≤ n → n < 0xF5 →
    announce (UInt8.ofNat n) = some ⟨3, if n = 0xF0 then 0x90 else 0x80,
      if n = 0xF4 then 0x8F else 0xBF, n - 0xF0⟩ := by decide +kernel

theorem toNat_tail (m : Nat) : (UInt8.ofNat (m % 64 + 128)).toNat = m % 64 + 128 := by
  rw [UInt8.toNat_ofNat']
  omega

/-- A byte that goes on with a character adds six bits. -/
theorem follow_tail {n code m : Nat} {low high : UInt8} (rest : Bytes)
    (hlow : low.toNat ≤ m % 64 + 128) (hhigh : m % 64 + 128 ≤ high.toNat) :
    follow (n + 1) low high code (UInt8.ofNat (m % 64 + 128) :: rest)
      = follow n 0x80 0xBF (code * 64 + m % 64) rest := by
  have hr : low ≤ UInt8.ofNat (m % 64 + 128) ∧ UInt8.ofNat (m % 64 + 128) ≤ high := by
    simp only [UInt8.le_iff_toNat_le, toNat_tail]
    exact ⟨hlow, hhigh⟩
  rw [follow, if_pos hr, toNat_tail, Nat.add_sub_cancel]

/-- As many further bytes as it takes, none of them in a narrowed range. -/
theorem follow_tail' {n code m : Nat} (rest : Bytes) :
    follow (n + 1) 0x80 0xBF code (UInt8.ofNat (m % 64 + 128) :: rest)
      = follow n 0x80 0xBF (code * 64 + m % 64) rest :=
  follow_tail rest (by simp) (by simp; omega)

section Char

variable {v : Nat} (rest : Bytes)

theorem lead_one (h : v < 0x80) : lead (UInt8.ofNat v :: rest) = .char (Char.ofNat v) rest := by
  simp only [lead, announce_one v (by omega) h]
  rfl

theorem lead_two (h : 0x80 ≤ v) (h' : v < 0x800) :
    lead (UInt8.ofNat (v / 64 % 32 + 192) :: UInt8.ofNat (v % 64 + 128) :: rest)
      = .char (Char.ofNat v) rest := by
  simp only [lead, announce_two _ (by omega : v / 64 % 32 + 192 < 256) (by omega) (by omega)]
  rw [follow_tail', follow]
  congr 2
  omega

/-- The surrogates are what the narrowed range after `ED` keeps out. -/
theorem lead_three (h : 0x800 ≤ v) (h' : v < 0xD800 ∨ 0xDFFF < v ∧ v < 0x10000) :
    lead (UInt8.ofNat (v / 4096 % 16 + 224) :: UInt8.ofNat (v / 64 % 64 + 128)
        :: UInt8.ofNat (v % 64 + 128) :: rest) = .char (Char.ofNat v) rest := by
  have hlow : (if v / 4096 % 16 + 224 = 0xE0 then 0xA0 else 0x80 : UInt8).toNat
      ≤ v / 64 % 64 + 128 := by
    split
    · simp; omega
    · simp
  have hhigh : v / 64 % 64 + 128
      ≤ (if v / 4096 % 16 + 224 = 0xED then 0x9F else 0xBF : UInt8).toNat := by
    split
    · simp; omega
    · simp; omega
  simp only [lead, announce_three _ (by omega : v / 4096 % 16 + 224 < 256) (by omega) (by omega)]
  rw [follow_tail _ hlow hhigh, follow_tail', follow]
  congr 2
  omega

/-- A character of four bytes is read from the bytes that it is written as. -/
theorem lead_four (h : 0x10000 ≤ v) (h' : v < 0x110000) :
    lead (UInt8.ofNat (v / 262144 % 8 + 240) :: UInt8.ofNat (v / 4096 % 64 + 128)
        :: UInt8.ofNat (v / 64 % 64 + 128) :: UInt8.ofNat (v % 64 + 128) :: rest)
      = .char (Char.ofNat v) rest := by
  have hlow : (if v / 262144 % 8 + 240 = 0xF0 then 0x90 else 0x80 : UInt8).toNat
      ≤ v / 4096 % 64 + 128 := by
    split
    · simp; omega
    · simp
  have hhigh : v / 4096 % 64 + 128
      ≤ (if v / 262144 % 8 + 240 = 0xF4 then 0x8F else 0xBF : UInt8).toNat := by
    split
    · simp; omega
    · simp; omega
  simp only [lead, announce_four _ (by omega : v / 262144 % 8 + 240 < 256) (by omega) (by omega)]
  rw [follow_tail _ hlow hhigh, follow_tail', follow_tail', follow]
  congr 2
  omega

end Char

/-- The bytes of a character begin with that character. -/
theorem lead_encodeChar (c : Char) (rest : Bytes) :
    lead (String.utf8EncodeChar c ++ rest) = .char c rest := by
  have hv : c.val.toNat < 0xD800 ∨ 0xDFFF < c.val.toNat ∧ c.val.toNat < 0x110000 := c.valid
  have hc : Char.ofNat c.val.toNat = c := Char.ofNat_toNat c
  unfold String.utf8EncodeChar
  dsimp only
  generalize c.val.toNat = v at hv hc ⊢
  subst hc
  split
  · exact lead_one rest (by omega)
  · split
    · exact lead_two rest (by omega) (by omega)
    · split
      · exact lead_three rest (by omega) (by omega)
      · exact lead_four rest (by omega) (by omega)

/-- **A text reads back from its bytes.**  Every character is read from the bytes that it is written
as, and its successor from those behind them. -/
theorem complete_encode (s : String) : complete (encode s) = some (s.toList, []) := by
  suffices h : ∀ cs : List Char, complete (cs.flatMap String.utf8EncodeChar) = some (cs, []) by
    simpa [← encode_ofList] using h s.toList
  intro cs
  induction cs with
  | nil => simp [complete_eq, lead]
  | cons c cs ih =>
    rw [List.flatMap_cons, complete_eq, lead_encodeChar]
    simp only [ih]
    rfl

/-! ## 4. Giving up a character that is cut off -/

/-- How many characters reading without failing makes of a byte string that begins like this. -/
def Lead.count : Lead → Nat
  | .done => 0
  | .char _ rest | .broken rest => (lossy rest).length + 1
  | .cut => 1

theorem length_lossy (bs : Bytes) : (lossy bs).length = (lead bs).count := by
  rw [lossy_eq]
  cases lead bs <;> rfl

theorem announce_tail : ∀ n < 256, 0x80 ≤ n → n ≤ 0xBF → announce (UInt8.ofNat n) = none := by
  decide +kernel

/-- A byte that goes on with characters begins none. -/
theorem lossy_of_tail {b : UInt8} (hlow : 0x80 ≤ b) (hhigh : b ≤ 0xBF) (bs : Bytes) :
    lossy (b :: bs) = replacement :: lossy bs := by
  have hb : announce b = none := by
    have h := announce_tail b.toNat b.toNat_lt (UInt8.le_iff_toNat_le.mp hlow)
      (UInt8.le_iff_toNat_le.mp hhigh)
    rwa [UInt8.ofNat_toNat] at h
  exact lossy_of_broken (by simp only [lead, hb])

/-- Bytes that are used up by a character give no more characters than they would by themselves,
the character itself not counted. -/
theorem count_follow_le (n : Nat) {low high : UInt8} (hlow : 0x80 ≤ low) (hhigh : high ≤ 0xBF)
    (code : Nat) (bs : Bytes) : (follow n low high code bs).count ≤ (lossy bs).length + 1 := by
  induction n generalizing low high code bs with
  | zero => exact Nat.le_refl _
  | succ n ih =>
    cases bs with
    | nil => simp [follow, Lead.count]
    | cons b bs =>
      simp only [follow]
      split
      · rename_i hb
        have hrest := ih (UInt8.le_refl 0x80) (UInt8.le_refl 0xBF) (code * 64 + (b.toNat - 0x80)) bs
        rw [lossy_of_tail (UInt8.le_trans hlow hb.1) (UInt8.le_trans hb.2 hhigh)]
        simp only [List.length_cons]
        omega
      · exact Nat.le_refl _

/-- A cut-off character waits for a byte in a range. -/
theorem follow_cut {n : Nat} {low high : UInt8} {code : Nat} {bs : Bytes} (hlow : 0x80 ≤ low)
    (hhigh : high ≤ 0xBF) (h : follow n low high code bs = .cut) :
    ∃ n' low' high' code', 0x80 ≤ low' ∧ high' ≤ (0xBF : UInt8) ∧ ∀ more,
      follow n low high code (bs ++ more) = follow (n' + 1) low' high' code' more := by
  induction n generalizing low high code bs with
  | zero => exact absurd h (by simp [follow])
  | succ n ih =>
    cases bs with
    | nil => exact ⟨n, low, high, code, hlow, hhigh, fun more => rfl⟩
    | cons b bs =>
      simp only [follow] at h
      split at h
      · rename_i hb
        obtain ⟨n', low', high', code', hl, hh, hmore⟩ := ih (by decide) (by decide) h
        refine ⟨n', low', high', code', hl, hh, fun more => ?_⟩
        rw [List.cons_append, follow, if_pos hb, hmore]
      · exact absurd h (by simp)

theorem announce_range : ∀ n < 256, ∀ a, announce (UInt8.ofNat n) = some a →
    0x80 ≤ a.low ∧ a.high ≤ 0xBF := by
  intro n hn a h
  have all : ∀ n < 256, (announce (UInt8.ofNat n)).all fun a =>
      decide (0x80 ≤ a.low ∧ a.high ≤ 0xBF) := by decide +kernel
  have := all n hn
  rw [h] at this
  simpa using this

/-- Behind a character that is cut off, what comes next is read as what is still missing of it, one
byte at least, within the bounds that its first bytes have set. -/
theorem lead_cut {bs : Bytes} (h : lead bs = .cut) :
    ∃ n low high code, 0x80 ≤ low ∧ high ≤ (0xBF : UInt8) ∧ ∀ more,
      lead (bs ++ more) = follow (n + 1) low high code more := by
  cases bs with
  | nil => exact absurd h (by simp [lead])
  | cons b bs =>
    simp only [lead] at h
    split at h
    · exact absurd h (by simp)
    · rename_i a ha
      obtain ⟨hlow, hhigh⟩ := announce_range b.toNat b.toNat_lt a (by rwa [UInt8.ofNat_toNat])
      obtain ⟨n, low, high, code, hl, hh, hmore⟩ := follow_cut hlow hhigh h
      refine ⟨n, low, high, code, hl, hh, fun more => ?_⟩
      simp only [List.cons_append, lead, ha]
      exact hmore more

/-- Whether the bytes `more` go on with the character that `held` is cut off from. -/
def goesOn (held : Bytes) : Bytes → Bool
  | [] => false
  | b :: _ => decide (held ≠ [] ∧ lead (held ++ [b]) ≠ .broken [b])

/-- **Nothing is lost** if a cut-off character is given up that is not gone on with. -/
theorem lossy_of_not_goesOn {held more : Bytes} (hc : lead held = .cut)
    (h : goesOn held more = false) : lossy (held ++ more) = replacement :: lossy more := by
  obtain ⟨n, low, high, code, -, -, hmore⟩ := lead_cut hc
  cases more with
  | nil => simp [lossy_of_cut hc]
  | cons b more =>
    have hne : held ≠ [] := by rintro rfl; exact absurd hc (by simp [lead])
    have hb : lead (held ++ [b]) = .broken [b] := by simpa [goesOn, hne] using h
    refine lossy_of_broken ?_
    rw [hmore, follow] at hb ⊢
    split at hb
    · rename_i hr
      -- in the range, the byte is used up
      have hlen : ([b] : Bytes).length ≤ ([] : Bytes).length := follow_broken_length hb
      exact absurd hlen (by simp)
    · rename_i hr
      rw [if_neg hr]

/-- **A character that is given up too early costs characters.** -/
theorem length_lossy_of_goesOn {held more : Bytes} (hc : lead held = .cut)
    (h : goesOn held more = true) :
    (lossy (held ++ more)).length < (replacement :: lossy more).length := by
  obtain ⟨n, low, high, code, hlow, hhigh, hmore⟩ := lead_cut hc
  cases more with
  | nil => exact absurd h (by simp [goesOn])
  | cons b more =>
    have hb : lead (held ++ [b]) ≠ .broken [b] := by
      simp only [goesOn, decide_eq_true_eq] at h
      exact h.2
    rw [hmore, follow] at hb
    split at hb
    · rename_i hr
      have hle := count_follow_le n (UInt8.le_refl 0x80) (UInt8.le_refl 0xBF)
        (code * 64 + (b.toNat - 0x80)) more
      rw [length_lossy, hmore, follow, if_pos hr,
        lossy_of_tail (UInt8.le_trans hlow hr.1) (UInt8.le_trans hr.2 hhigh)]
      simp only [List.length_cons]
      omega
    · exact absurd rfl hb

end Scriptorium.Text.Utf8
