import Scriptorium.Proofs.Text.Utf8

/-!
# The bytes that a character is read from

`lead_encodeChar` says that the bytes of a character read as that character.  Here is the other
direction: a byte string that begins with a character begins with its bytes (`eq_of_lead_char`).
So what reading up to a fault parts a byte string into is all of it (`encode_of_complete`), and the
proper beginnings of a character's bytes are what counts as cut off (`lead_cut_of_beginning`).

It also tells how much room a text takes.  Its characters take as many bytes as they are read from,
and each replacement takes three bytes and stands for one or more, so that a text that is read
without failing is at most three times as long as its bytes (`size_lossy_le`).
-/
namespace Scriptorium.Text.Utf8

/-! ## 1. A character and its bytes -/

/-- A byte string from which a character still takes bytes begins with one in the range. -/
theorem follow_char {n : Nat} {low high : UInt8} {code : Nat} {bs rest : Bytes} {c : Char}
    (h : follow (n + 1) low high code bs = .char c rest) :
    ∃ m bs', bs = UInt8.ofNat m :: bs' ∧ low.toNat ≤ m ∧ m ≤ high.toNat
      ∧ follow n 0x80 0xBF (code * 64 + (m - 0x80)) bs' = .char c rest := by
  cases bs with
  | nil => exact absurd h (by simp [follow])
  | cons b bs' =>
    simp only [follow] at h
    split at h
    · rename_i hb
      exact ⟨b.toNat, bs', by rw [UInt8.ofNat_toNat], UInt8.le_iff_toNat_le.mp hb.1,
        UInt8.le_iff_toNat_le.mp hb.2, h⟩
    · exact absurd h (by simp)

theorem announce_gap : ∀ n < 256, (0x80 ≤ n ∧ n < 0xC2) ∨ 0xF5 ≤ n →
    announce (UInt8.ofNat n) = none := by decide +kernel

/-- The bytes of the character with the code point `v`. -/
theorem encodeChar_ofNat {v : Nat} (hv : v.isValidChar) :
    String.utf8EncodeChar (Char.ofNat v) =
      if v ≤ 0x7F then [UInt8.ofNat v]
      else if v ≤ 0x7FF then [UInt8.ofNat (v / 64 % 32 + 192), UInt8.ofNat (v % 64 + 128)]
      else if v ≤ 0xFFFF then
        [UInt8.ofNat (v / 4096 % 16 + 224), UInt8.ofNat (v / 64 % 64 + 128),
          UInt8.ofNat (v % 64 + 128)]
      else
        [UInt8.ofNat (v / 262144 % 8 + 240), UInt8.ofNat (v / 4096 % 64 + 128),
          UInt8.ofNat (v / 64 % 64 + 128), UInt8.ofNat (v % 64 + 128)] := by
  have hval : (Char.ofNat v).val.toNat = v := by
    rw [Char.ofNat, dif_pos hv]
    rfl
  unfold String.utf8EncodeChar
  dsimp only
  rw [hval]

section Char

variable {n : Nat} {bs rest : Bytes} {c : Char}

theorem eq_of_lead_two (hn : 0xC2 ≤ n) (hn' : n < 0xE0)
    (h : follow 1 0x80 0xBF (n - 0xC0) bs = .char c rest) :
    UInt8.ofNat n :: bs = String.utf8EncodeChar c ++ rest := by
  obtain ⟨m, bs, rfl, hlow, hhigh, h⟩ := follow_char h
  simp only [UInt8.reduceToNat, follow, Lead.char.injEq] at hlow hhigh h
  obtain ⟨rfl, rfl⟩ := h
  rw [encodeChar_ofNat (.inl (by omega)), if_neg (by omega), if_pos (by omega)]
  simp only [List.cons_append, List.nil_append]
  congr 3 <;> omega

/-- The narrowed ranges after `E0` and `ED` keep out overlong forms and surrogates. -/
theorem eq_of_lead_three (hn : 0xE0 ≤ n) (hn' : n < 0xF0)
    (h : follow 2 (if n = 0xE0 then 0xA0 else 0x80) (if n = 0xED then 0x9F else 0xBF) (n - 0xE0) bs
      = .char c rest) : UInt8.ofNat n :: bs = String.utf8EncodeChar c ++ rest := by
  obtain ⟨m, bs, rfl, hlow, hhigh, h⟩ := follow_char h
  obtain ⟨k, bs, rfl, hlow', hhigh', h⟩ := follow_char h
  simp only [UInt8.reduceToNat, follow, Lead.char.injEq] at hlow' hhigh' h
  obtain ⟨rfl, rfl⟩ := h
  have hnarrow : (n = 0xE0 → 0xA0 ≤ m) ∧ 0x80 ≤ m ∧ (n = 0xED → m ≤ 0x9F) ∧ m ≤ 0xBF := by
    split at hlow <;> split at hhigh <;> simp at hlow hhigh <;> omega
  rw [encodeChar_ofNat (by unfold Nat.isValidChar; omega), if_neg (by omega), if_neg (by omega),
    if_pos (by omega)]
  simp only [List.cons_append, List.nil_append]
  congr 4 <;> omega

/-- The narrowed ranges after `F0` and `F4` keep out overlong forms and what is too large. -/
theorem eq_of_lead_four (hn : 0xF0 ≤ n) (hn' : n < 0xF5)
    (h : follow 3 (if n = 0xF0 then 0x90 else 0x80) (if n = 0xF4 then 0x8F else 0xBF) (n - 0xF0) bs
      = .char c rest) : UInt8.ofNat n :: bs = String.utf8EncodeChar c ++ rest := by
  obtain ⟨m, bs, rfl, hlow, hhigh, h⟩ := follow_char h
  obtain ⟨k, bs, rfl, hlow', hhigh', h⟩ := follow_char h
  obtain ⟨l, bs, rfl, hlow'', hhigh'', h⟩ := follow_char h
  simp only [UInt8.reduceToNat, follow, Lead.char.injEq] at hlow' hhigh' hlow'' hhigh'' h
  obtain ⟨rfl, rfl⟩ := h
  have hnarrow : (n = 0xF0 → 0x90 ≤ m) ∧ 0x80 ≤ m ∧ (n = 0xF4 → m ≤ 0x8F) ∧ m ≤ 0xBF := by
    split at hlow <;> split at hhigh <;> simp at hlow hhigh <;> omega
  rw [encodeChar_ofNat (by unfold Nat.isValidChar; omega), if_neg (by omega), if_neg (by omega),
    if_neg (by omega)]
  simp only [List.cons_append, List.nil_append]
  congr 5 <;> omega

/-- **A byte string that begins with a character begins with its bytes.** -/
theorem eq_of_lead_char (h : lead bs = .char c rest) : bs = String.utf8EncodeChar c ++ rest := by
  cases bs with
  | nil => exact absurd h (by simp [lead])
  | cons b bs =>
    obtain ⟨n, hn, rfl⟩ : ∃ n < 256, UInt8.ofNat n = b := ⟨b.toNat, b.toNat_lt, UInt8.ofNat_toNat⟩
    simp only [lead] at h
    rcases Nat.lt_or_ge n 0x80 with h1 | h1
    · simp only [announce_one n hn h1, follow, Lead.char.injEq] at h
      obtain ⟨rfl, rfl⟩ := h
      rw [encodeChar_ofNat (.inl (by omega)), if_pos (by omega)]
      rfl
    rcases Nat.lt_or_ge n 0xC2 with h2 | h2
    · simp [announce_gap n hn (.inl ⟨h1, h2⟩)] at h
    rcases Nat.lt_or_ge n 0xE0 with h3 | h3
    · exact eq_of_lead_two h2 h3 (by simpa only [announce_two n hn h2 h3] using h)
    rcases Nat.lt_or_ge n 0xF0 with h4 | h4
    · exact eq_of_lead_three h3 h4 (by simpa only [announce_three n hn h3 h4] using h)
    rcases Nat.lt_or_ge n 0xF5 with h5 | h5
    · exact eq_of_lead_four h4 h5 (by simpa only [announce_four n hn h4 h5] using h)
    · simp [announce_gap n hn (.inr h5)] at h

end Char

/-- The beginning of a character's bytes is cut off, unless it is empty or all of them. -/
theorem lead_cut_of_beginning {cut : Bytes} {c : Char} (hp : cut <+: String.utf8EncodeChar c)
    (hne : cut ≠ String.utf8EncodeChar c) (hnil : cut ≠ []) : lead cut = .cut := by
  obtain ⟨more, hmore⟩ := hp
  have hall : lead (cut ++ more) = .char c [] := by
    rw [hmore]
    simpa using lead_encodeChar c []
  cases hl : lead cut with
  | done => exact absurd (eq_nil_of_lead_done hl) hnil
  | char d rest =>
    rw [lead_append_char hl] at hall
    obtain ⟨-, hend⟩ := Lead.char.inj hall
    have hm : more = [] := (List.append_eq_nil_iff.mp hend).2
    exact absurd (by simpa [hm] using hmore) hne
  | broken rest =>
    rw [lead_append_broken hl] at hall
    exact absurd hall (by simp)
  | cut => rfl

/-! ## 2. Whole characters and what is behind them -/

theorem encode_empty : encode "" = [] := encode_ofList []

theorem encode_cons (c : Char) (cs : List Char) :
    encode (String.ofList (c :: cs)) = String.utf8EncodeChar c ++ encode (String.ofList cs) := by
  rw [encode_ofList, encode_ofList, List.flatMap_cons]

/-- **Nothing is lost by reading up to a fault**: the bytes of the characters and those behind them
are all bytes. -/
theorem encode_of_complete {bs held : Bytes} {cs : List Char} (h : complete bs = some (cs, held)) :
    encode (String.ofList cs) ++ held = bs := by
  induction bs using lead_induction generalizing cs with
  | done =>
    obtain ⟨rfl, rfl⟩ : [] = cs ∧ [] = held := by simpa [complete_eq, lead] using h
    simp [encode_empty]
  | char bs c rest hl ih =>
    rw [complete_eq, hl] at h
    obtain ⟨⟨ds, held'⟩, hq, he⟩ := Option.map_eq_some_iff.mp h
    obtain ⟨rfl, rfl⟩ := Prod.mk.inj he
    rw [encode_cons, List.append_assoc, ih hq, ← eq_of_lead_char hl]
  | broken bs rest hl _ => rw [complete_eq, hl] at h; exact absurd h (by simp)
  | cut bs hl =>
    rw [complete_eq, hl] at h
    obtain ⟨rfl, rfl⟩ := Prod.mk.inj (Option.some.inj h)
    simp [encode_empty]

/-- What stands behind the whole characters is nothing, or a character that is cut off. -/
theorem held_of_complete {bs held : Bytes} {cs : List Char} (h : complete bs = some (cs, held)) :
    held = [] ∨ lead held = .cut := by
  simpa [settle_of_complete h] using settle_snd bs

/-- A text reads up to where it ends, whatever stands behind it. -/
theorem complete_encode_append (s : String) (more : Bytes) :
    complete (encode s ++ more)
      = (complete more).map fun (cs, held) => (s.toList ++ cs, held) := by
  simpa using complete_append (complete_encode s) more

theorem complete_of_cut {held : Bytes} (h : held = [] ∨ lead held = .cut) :
    complete held = some ([], held) := by
  rcases h with rfl | h
  · simp [complete_eq, lead]
  · rw [complete_eq, h]

/-! ## 3. The room that a text takes -/

theorem size_cons (c : Char) (cs : List Char) :
    (String.ofList (c :: cs)).utf8ByteSize = c.utf8Size + (String.ofList cs).utf8ByteSize := by
  simp

theorem length_encode (s : String) : (encode s).length = s.utf8ByteSize := by
  obtain ⟨cs, rfl⟩ : ∃ cs, String.ofList cs = s := ⟨s.toList, String.ofList_toList⟩
  induction cs with
  | nil => simp [encode_empty]
  | cons c cs ih =>
    rw [encode_cons, List.length_append, String.length_utf8EncodeChar, ih, size_cons]

/-- **A text that is read without failing takes at most three bytes for each of its bytes.**  The
worst is a byte that stands for nothing, which is shown as one replacement character of three bytes.
-/
theorem size_lossy_le (bs : Bytes) : (String.ofList (lossy bs)).utf8ByteSize ≤ 3 * bs.length := by
  have hreplacement : replacement.utf8Size = 3 := by decide
  induction bs using lead_induction with
  | done => simp
  | char bs c rest hl ih =>
    rw [lossy_of_char hl, size_cons, eq_of_lead_char hl, List.length_append,
      String.length_utf8EncodeChar]
    omega
  | broken bs rest hl ih =>
    have hshorter := lead_broken_length hl
    rw [lossy_of_broken hl, size_cons]
    omega
  | cut bs hl =>
    have hne : bs ≠ [] := by rintro rfl; exact absurd hl (by simp [lead])
    have hpos := List.length_pos_iff.mpr hne
    rw [lossy_of_cut hl, size_cons, String.ofList_nil, String.utf8ByteSize_empty]
    omega

/-- Characters that are read up to a fault take the bytes that they are read from. -/
theorem size_of_complete {bs held : Bytes} {cs : List Char} (h : complete bs = some (cs, held)) :
    (String.ofList cs).utf8ByteSize + held.length = bs.length := by
  rw [← encode_of_complete h, List.length_append, length_encode]

end Scriptorium.Text.Utf8
