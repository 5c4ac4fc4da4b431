import Scriptorium.Proofs.Json.Numerals
import Scriptorium.Proofs.Settings.Leaves

/-!
# Texts from the environment

A variable of the environment is taken for what its text looks like, and only then read as the
setting that it gives.  For a setting that is a text this is a detour: the text becomes a truth
value or a number, and that is put into words again (`retold`).

The variable itself is never in the way: it counts whatever is below it, and if settings can be
loaded without it, they can be loaded with it.  For that, all else has to stay as it was
(`SameBut`), and what can be read must not depend on what else is read (`IsSteady`).

But the setting is the text of the variable only if the detour leads back to it.  It does so for
texts that look like nothing else, such as paths from the root (`kept_of_absolute`), for the words
`true` and `false`, for whole numbers of 64 bits as they are written, and for those floating point
numbers that are written the way they are put into words (`Kept`).  Other texts that look like
numbers or truth values are lost: `007` becomes `7`, `TRUE` becomes `true` and `1e3` becomes `1000`
(`load_text_iff_kept`).
-/
namespace Scriptorium.Settings

open Given

/-! ## 1. The detour -/

/-- The text that comes of the text of a variable, where a text is wanted. -/
def retold (v : String) : String :=
  match Scalar.ofText v with
  | .bool b => if b then "true" else "false"
  | .whole n => toString n
  | .float bits => (floatForm false).text bits
  | _ => v

theorem text_ofText (o : Origin) (v : String) : text (.scalar o (.ofText v)) = .ok (retold v) := by
  unfold retold Scalar.ofText
  split <;> rfl

theorem ofText_ne_nothing (v : String) : Scalar.ofText v ≠ .nothing := by
  unfold Scalar.ofText
  split <;> simp

/-- The texts that the detour leads back to. -/
inductive Kept : String → Prop
  | truth (b : Bool) : Kept (if b then "true" else "false")
  /-- A whole number of 64 bits, as it is written. -/
  | whole (n : Int) : Decimal.fitsWord n = true → Kept (toString n)
  /-- A floating point number, as it is put into words. -/
  | float {v : String} {l : Decimal.Literal} : truthOf? v = none → wholeOf? v = none →
      Decimal.Literal.read? v.toList = some l → (floatForm false).text l.bits = v → Kept v
  /-- A text that looks like nothing else. -/
  | other {v : String} : truthOf? v = none → wholeOf? v = none →
      Decimal.Literal.read? v.toList = none → Kept v

/-! ## 2. What texts look like -/

theorem valueOf_eq (ds : List Char) : Decimal.Literal.valueOf ds = Nat.ofDigitChars 10 ds 0 :=
  Nat.ofDigitChars_eq_foldl.symm

/-- Digits are read as the number that they write in base ten, and with a minus sign in front as the
negative one; zeros in front do not count. -/
theorem whole?_digits {d : Char} {ds : List Char} (h : ∀ c ∈ d :: ds, c.isDigit = true) :
    Decimal.whole? (d :: ds) = some (Nat.ofDigitChars 10 (d :: ds) 0 : Int)
      ∧ Decimal.whole? ('-' :: d :: ds) = some (-(Nat.ofDigitChars 10 (d :: ds) 0 : Int)) := by
  have hall : (d :: ds).all Char.isDigit = true := List.all_eq_true.mpr h
  have hsign : Decimal.Literal.sign (d :: ds) = (false, d :: ds) := by
    unfold Decimal.Literal.sign
    split
    · rename_i he
      obtain ⟨rfl, -⟩ := List.cons.inj he
      exact absurd (h '-' List.mem_cons_self) (by decide)
    · rename_i he
      obtain ⟨rfl, -⟩ := List.cons.inj he
      exact absurd (h '+' List.mem_cons_self) (by decide)
    · rfl
  have hminus : Decimal.Literal.sign ('-' :: d :: ds) = (true, d :: ds) := rfl
  simp [Decimal.whole?, hsign, hminus, hall, valueOf_eq]

/-- A whole number is read as it is written. -/
theorem whole?_toString (n : Int) : Decimal.whole? (toString n).toList = some n := by
  cases n with
  | ofNat n =>
    obtain ⟨d, ds, hds, -⟩ := Json.Reader.exists_toDigits n
    have hdigits : ∀ c ∈ d :: ds, c.isDigit = true :=
      fun c hc => Json.Reader.isDigit_toDigits (hds ▸ hc)
    rw [Int.ofNat_eq_natCast, Json.Reader.toString_ofNat, hds, (whole?_digits hdigits).1, ← hds,
      Nat.ofDigitChars_ten_toDigits]
  | negSucc n =>
    obtain ⟨d, ds, hds, -⟩ := Json.Reader.exists_toDigits (n + 1)
    have hdigits : ∀ c ∈ d :: ds, c.isDigit = true :=
      fun c hc => Json.Reader.isDigit_toDigits (hds ▸ hc)
    rw [Json.Reader.toString_negSucc, hds, (whole?_digits hdigits).2, ← hds,
      Nat.ofDigitChars_ten_toDigits]
    rfl

/-- A text that begins with a character which is its own small letter does so in small letters. -/
theorem head?_smallName {v : String} {d : Char} {ds : List Char} (hv : v.toList = d :: ds)
    (hsmall : d.toLower = d) (hascii : d.toNat < 0x80) :
    (smallName v).toList.head? = some d := by
  have hsigma : d ≠ 'Σ' := by
    rintro rfl
    exact absurd hascii (by decide)
  rw [smallName, hv, Text.lowercase, Text.lowercaseAfter, if_neg hsigma, Text.lowerChar,
    if_pos hascii, hsmall]
  simp

/-- A text whose first character is neither the first of `true` nor that of `false` stands for no
truth value. -/
theorem truthOf?_eq_none {v : String} {d : Char} {ds : List Char} (hv : v.toList = d :: ds)
    (hsmall : d.toLower = d) (hascii : d.toNat < 0x80) (hno : d ≠ 't' ∧ d ≠ 'f') :
    truthOf? v = none := by
  have hhead := head?_smallName hv hsmall hascii
  unfold truthOf?
  split
  · rename_i he
    rw [he] at hhead
    exact absurd (Option.some.inj hhead).symm hno.1
  · rename_i he
    rw [he] at hhead
    exact absurd (Option.some.inj hhead).symm hno.2
  · rfl

/-- A whole number in digits stands for no truth value. -/
theorem truthOf?_toString (n : Int) : truthOf? (toString n) = none := by
  cases n with
  | ofNat n =>
    obtain ⟨d, ds, hds, hd⟩ := Json.Reader.exists_toDigits n
    obtain ⟨hlow, hhigh⟩ := Char.isDigit_iff_toNat.mp hd
    have hle : d.toNat ≤ 57 := hhigh
    have hsmall : d.toLower = d := dif_neg fun hupper => by
      -- a digit is below all capital letters
      have hge : 65 ≤ d.toNat := UInt32.le_iff_toNat_le.mp hupper.1
      omega
    refine truthOf?_eq_none ((Json.Reader.toString_ofNat n).trans hds) hsmall (by omega) ⟨?_, ?_⟩
    · rintro rfl
      exact absurd hd (by decide)
    · rintro rfl
      exact absurd hd (by decide)
  | negSucc n =>
    exact truthOf?_eq_none (Json.Reader.toString_negSucc n) rfl (by decide) (by decide)

/-- **A path from the root of the file system is kept.** -/
theorem kept_of_absolute {v : String} {cs : List Char} (hv : v.toList = '/' :: cs) : Kept v := by
  have hsign : Decimal.Literal.sign ('/' :: cs) = (false, '/' :: cs) := rfl
  refine .other (truthOf?_eq_none hv rfl (by decide) (by decide)) ?_ ?_
  · simp [wholeOf?, hv, Decimal.whole?, hsign]
  · have hword : Decimal.Literal.word? false ('/' :: cs) = none := by
      have hne (w : String) (hw : w.toList.head? ≠ some '/') :
          String.ofList (('/' :: cs).map Char.toLower) ≠ w := by
        rintro rfl
        exact hw (by simp)
      simp only [Decimal.Literal.word?, hne "inf" (by decide), hne "infinity" (by decide),
        hne "nan" (by decide), or_self, if_false]
    simp [hv, Decimal.Literal.read?, hsign, hword]

/-- **The detour leads back to exactly these texts.**  A variable is tried as a truth value and as a
number before it is taken as a text, and what was read so is written anew when a text is needed. -/
theorem retold_eq_iff (v : String) : retold v = v ↔ Kept v := by
  constructor
  · intro h
    cases ht : truthOf? v with
    | some b =>
      simp only [retold, Scalar.ofText, ht] at h
      exact h ▸ .truth b
    | none =>
      cases hw : wholeOf? v with
      | some n =>
        simp only [retold, Scalar.ofText, ht, hw] at h
        exact h ▸ .whole n (Option.filter_eq_some_iff.mp hw).2
      | none =>
        cases hl : Decimal.Literal.read? v.toList with
        | some l =>
          simp only [retold, Scalar.ofText, ht, hw, hl] at h
          exact .float ht hw hl h
        | none => exact .other ht hw hl
  · intro h
    cases h with
    | truth b => cases b <;> cbv
    | whole n hfits =>
      have hw : wholeOf? (toString n) = some n := by
        rw [wholeOf?, whole?_toString, Option.filter_some, if_pos hfits]
      simp only [retold, Scalar.ofText, truthOf?_toString, hw]
    | float ht hw hl h => simpa only [retold, Scalar.ofText, ht, hw, hl] using h
    | other ht hw hl => simp only [retold, Scalar.ofText, ht, hw, hl]

/-! ## 3. The same but for one setting -/

variable {sec key : String} {g g' v : Given} {layer : Layer}

/-- Two values have the same for everything but one setting of one section. -/
structure SameBut (sec key : String) (g g' : Given) : Prop where
  outside : ∀ n, n ≠ sec → g.member? n = g'.member? n
  inside : ∀ m, m ≠ key → (g.member? sec).bind (·.member? m) = (g'.member? sec).bind (·.member? m)

/-- Laying tables over values that are the same but for one name keeps them so. -/
theorem member?_assignAll_congr {m : String} (ms : List (String × Given))
    (h : ∀ m, m ≠ key → g.member? m = g'.member? m) (hm : m ≠ key) :
    (assignAll ms g).member? m = (assignAll ms g').member? m := by
  rw [assignAll_eq, assignAll_eq]
  induction ms generalizing g g' with
  | nil => exact h m hm
  | cons a ms ih =>
    refine ih fun m hm => ?_
    simp only [assign_eq, member?_set]
    by_cases ha : m = smallName a.1
    · rw [if_pos ha, if_pos ha, h _ (ha ▸ hm)]
    · rw [if_neg ha, if_neg ha, h m hm]

/-- What an entry under one key leaves of the other names depends only on what was said of these
before, not on what was said of the key. -/
theorem member?_entered_congr {rest : List Step} (hp : PartialBelow key rest v)
    {below below' : Option Given} {m : String} (hm : m ≠ key)
    (h : ∀ m, m ≠ key → below.bind (·.member? m) = below'.bind (·.member? m)) :
    (v.entered rest below).member? m = (v.entered rest below').member? m := by
  have hmembers {d : Given} (hd : d.members = []) (m : String) (hm : m ≠ key) :
      (below.getD d).member? m = (below'.getD d).member? m := by
    rw [member?_getD _ hd, member?_getD _ hd, h m hm]
  match rest with
  | [] =>
    cases v with
    | table o ms => exact member?_assignAll_congr ms (hmembers rfl) hm
    | _ => rfl
  | .name a :: rest =>
    rw [entered, entered, member?_assignAt_name, member?_assignAt_name]
    by_cases ha : m = smallName a
    · rw [if_pos ha, if_pos ha, hmembers rfl _ (ha ▸ hm)]
    · rw [if_neg ha, if_neg ha, hmembers rfl m hm]
  | .index i :: rest => exact absurd hp id

/-- **An entry keeps values the same but for a setting that it may give.** -/
theorem SameBut.assignAt {e : List Step × Given} (hn : NamedEntry e) (hp : PartialEntry sec key e)
    (h : SameBut sec key g g') : SameBut sec key (assignAt e.2 e.1 g) (assignAt e.2 e.1 g') := by
  obtain ⟨n, rest, he⟩ := hn
  rw [he]
  refine ⟨fun k hk => ?_, fun m hm => ?_⟩
  · rw [member?_assignAt_name, member?_assignAt_name]
    by_cases hkn : k = smallName n
    · rw [if_pos hkn, if_pos hkn, h.outside _ (hkn ▸ hk)]
    · rw [if_neg hkn, if_neg hkn, h.outside k hk]
  · rw [member?_assignAt_name, member?_assignAt_name]
    by_cases hs : sec = smallName n
    · rw [if_pos hs, if_pos hs, ← hs]
      exact member?_entered_congr (hp n rest he hs.symm) hm h.inside
    · rw [if_neg hs, if_neg hs, h.inside m hm]

theorem SameBut.onto (hn : layer.IsNamed) (hp : layer.IsPartial sec key)
    (h : SameBut sec key g g') : SameBut sec key (layer.onto g) (layer.onto g') := by
  unfold Layer.onto
  induction layer generalizing g g' with
  | nil => exact h
  | cons e layer ih =>
    exact ih (fun d hd => hn d (List.mem_cons_of_mem e hd))
      (fun d hd => hp d (List.mem_cons_of_mem e hd))
      (h.assignAt (hn e List.mem_cons_self) (hp e List.mem_cons_self))

/-! ## 4. What can be read -/

section Accepts

variable {σ α : Type} {f : Slot σ} {slots : List (Slot σ)} {name : String} {c : Conversion α}
variable {store : α → σ → σ} {s s' : σ}

/-- A slot can read a value, whatever was read before. -/
def Slot.Accepts (f : Slot σ) (v : Given) : Prop := ∀ s, ∃ s', f.read v s = .ok s'

/-- Whether a slot can read a value does not depend on what was read before. -/
def Slot.IsSteady (f : Slot σ) : Prop := ∀ v s s', f.read v s = .ok s' → f.Accepts v

theorem accepts_slot [Nonempty σ] : (slot name c store).Accepts v ↔ ∃ a, c v = .ok a := by
  constructor
  · intro h
    obtain ⟨s⟩ := ‹Nonempty σ›
    obtain ⟨s', hs⟩ := h s
    obtain ⟨a, ha, -⟩ := map_eq_ok.mp hs
    exact ⟨a, ha⟩
  · rintro ⟨a, ha⟩ s
    exact ⟨_, map_eq_ok.mpr ⟨a, ha, rfl⟩⟩

@[simp] theorem slot_name (name : String) (c : Conversion α) (store : α → σ → σ) :
    (slot name c store).name = name := rfl

@[simp] theorem isSteady_slot (name : String) (c : Conversion α) (store : α → σ → σ) :
    (slot name c store).IsSteady := by
  intro v s s' h
  have : Nonempty σ := ⟨s⟩
  obtain ⟨a, ha, -⟩ := map_eq_ok.mp h
  exact accepts_slot.mpr ⟨a, ha⟩

/-- The members of a table can be read exactly if each that there is a slot for can be. -/
theorem slotsByName_isOk (hf : ∀ f ∈ slots, f.IsSteady) (g : Given) (s : σ) :
    (∃ s', slotsByName g slots s = .ok s')
      ↔ ∀ f ∈ slots, ∀ v, g.member? f.name = some v → f.Accepts v := by
  induction slots generalizing s with
  | nil => simp [slotsByName]
  | cons f slots ih =>
    obtain ⟨hsteady, hrest⟩ := List.forall_mem_cons.mp hf
    rw [List.forall_mem_cons, slotsByName]
    cases hm : g.member? f.name with
    | none => simpa using ih hrest s
    | some v =>
      constructor
      · rintro ⟨s', h⟩
        obtain ⟨s₁, hread, h⟩ := bind_eq_ok.mp h
        refine ⟨?_, (ih hrest s₁).mp ⟨s', h⟩⟩
        rintro _ ⟨⟩
        exact hsteady v s s₁ (mapError_eq_ok.mp hread)
      · rintro ⟨hv, hall⟩
        obtain ⟨s₁, hread⟩ := hv v rfl s
        obtain ⟨s', h⟩ := (ih hrest s₁).mpr hall
        exact ⟨s', bind_eq_ok.mpr ⟨s₁, mapError_eq_ok.mpr hread, h⟩⟩

variable {title : String} {defaults : σ}

/-- **A table can be read as a section exactly if every member that there is a slot for can be.**
Members that there is no slot for are passed over, whatever their value. -/
theorem sectionOf_isOk (hf : ∀ f ∈ slots, f.IsSteady) (hg : g.isTable = true) :
    (∃ s, sectionOf title slots defaults g = .ok s)
      ↔ ∀ f ∈ slots, ∀ v, g.member? f.name = some v → f.Accepts v := by
  cases g with
  | table o ms => exact slotsByName_isOk hf (.table o ms) defaults
  | _ => exact absurd hg (by simp [isTable])

/-- Whatever a section was read from, the members can be read that there are slots for. -/
theorem accepts_of_sectionOf (hf : ∀ f ∈ slots, f.IsSteady)
    (h : sectionOf title slots defaults g = .ok s) :
    ∀ f ∈ slots, ∀ v, g.member? f.name = some v → f.Accepts v := by
  cases g with
  | table o ms => exact (sectionOf_isOk hf rfl).mp ⟨s, h⟩
  | _ => exact fun f _ v hv => absurd hv (by simp [member?, members])

end Accepts

theorem isSteady_sectionSlots : ∀ f ∈ sectionSlots, f.IsSteady := by
  simp [sectionSlots]

namespace Section

theorem isSteady_slots : (sec : Section) → ∀ f ∈ sec.slots, f.IsSteady
  | .server => by simp [slots, serverSlots]
  | .bridge => by simp [slots, runSlots]
  | .workspace => by simp [slots, workspaceSlots]
  | .logging => by simp [slots, loggingSlots]

theorem read_eq (sec : Section) : ∃ title, sec.read = sectionOf title sec.slots sec.defaults := by
  cases sec <;> exact ⟨_, rfl⟩

/-- The slot of a section can read what the section can be read from. -/
theorem accepts_iff (sec : Section) (v : Given) :
    ∀ f ∈ sectionSlots, f.name = sec.name → (f.Accepts v ↔ ∃ r, sec.read v = .ok r) := by
  cases sec <;> simp [sectionSlots, name, read, accepts_slot]

end Section

/-- **What can be read can still be read when one setting is given anew**, if the setting can be
read. -/
theorem ofGiven_of_sameBut {s : Settings} (k : Setting) (h : SameBut k.sec.name k.key g g')
    (hg' : InOrder k.sec.name g')
    (hk : ∀ f ∈ k.sec.slots, f.name = k.key → ∀ v, k.given? g' = some v → f.Accepts v)
    (hs : ofGiven g = .ok s) : ∃ s', ofGiven g' = .ok s' := by
  have hall := accepts_of_sectionOf isSteady_sectionSlots hs
  refine (sectionOf_isOk isSteady_sectionSlots hg'.isTable).mpr fun f hf t ht => ?_
  by_cases hsec : f.name = k.sec.name
  · rw [hsec] at ht
    rw [k.sec.accepts_iff t f hf hsec]
    obtain ⟨title, hread⟩ := k.sec.read_eq
    rw [hread, sectionOf_isOk k.sec.isSteady_slots (hg'.section_isTable t ht)]
    intro e he v hv
    have hin : (g'.member? k.sec.name).bind (·.member? e.name) = some v := by rw [ht]; exact hv
    by_cases hkey : e.name = k.key
    · refine hk e he hkey v ?_
      rwa [Setting.given?, at?_pair, ← hkey]
    · rw [← h.inside _ hkey] at hin
      obtain ⟨t₀, ht₀, hv₀⟩ := Option.bind_eq_some_iff.mp hin
      obtain ⟨r, hr⟩ := (k.sec.accepts_iff t₀ f hf hsec).mp (hall f hf t₀ (hsec ▸ ht₀))
      exact accepts_of_sectionOf k.sec.isSteady_slots (hread ▸ hr) e he v hv₀
  · exact hall f hf t ((h.outside _ hsec).trans ht)

/-! ## 5. Settings that are texts -/

theorem optional_text_ofText (o : Origin) (v : String) :
    optional text (.scalar o (.ofText v)) = .ok (some (retold v)) := by
  unfold optional
  split
  · rename_i h
    exact absurd (Given.scalar.inj h).2 (ofText_ne_nothing v)
  · rw [text_ofText]
    rfl

/-- The settings that are texts. -/
inductive TextSetting where
  | host
  | webUiDir
  | accessToken
  | interpreter
  | root
  | directory
  deriving DecidableEq, Repr

namespace TextSetting

/-- The setting. -/
abbrev setting : TextSetting → Setting
  | .host => .host
  | .webUiDir => .webUiDir
  | .accessToken => .accessToken
  | .interpreter => .interpreter
  | .root => .root
  | .directory => .directory

/-- The variable that gives the setting. -/
def variableName : TextSetting → String
  | .host => "DAAD_SERVER__HOST"
  | .webUiDir => "DAAD_SERVER__WEB_UI_DIR"
  | .accessToken => "DAAD_SERVER__ACCESS_TOKEN"
  | .interpreter => "DAAD_BRIDGE__INTERPRETER"
  | .root => "DAAD_WORKSPACE__ROOT"
  | .directory => "DAAD_LOGGING__DIRECTORY"

/-- The text of the setting, if it has one. -/
def value (k : TextSetting) (s : Settings) : Option String :=
  match k with
  | .host => some s.server.host
  | .webUiDir => s.server.webUiDir
  | .accessToken => s.server.accessToken
  | .interpreter => some s.bridge.interpreter
  | .root => s.workspace.root
  | .directory => s.logging.directory

/-- The place of the setting, as the steps of a key. -/
def steps (k : TextSetting) : List Step := [.name k.setting.sec.name, .name k.setting.key]

/-- What a text of the variable gives. -/
def giving (v : String) : Given := .scalar .environment (.ofText v)

theorem ofEnvironment_cons (k : TextSetting) (v : String) (post : List (String × String)) :
    ofEnvironment ((k.variableName, v) :: post) = (k.steps, giving v) :: ofEnvironment post := by
  have hkey : (keyOfVariable? k.variableName).map keySteps = some k.steps := by
    cases k <;> cbv
  obtain ⟨key, hkey, hsteps⟩ := Option.map_eq_some_iff.mp hkey
  simp only [ofEnvironment, List.filterMap_cons, hkey, Option.map_some, hsteps]
  rfl

theorem smallName_sec (k : TextSetting) : smallName k.setting.sec.name = k.setting.sec.name := by
  cases k <;> cbv

theorem smallName_key (k : TextSetting) : smallName k.setting.key = k.setting.key := by
  cases k <;> cbv

theorem accepts_giving (k : TextSetting) (v : String) :
    ∀ f ∈ k.setting.sec.slots, f.name = k.setting.key → f.Accepts (giving v) := by
  cases k <;> simp [Section.slots, serverSlots, runSlots, workspaceSlots, loggingSlots, Setting.key,
    accepts_slot, giving, text_ofText, optional_text_ofText]

theorem value_of_read (k : TextSetting) {v : String} {s : Settings}
    (h : k.setting.read (giving v) = .ok (k.setting.get s)) : k.value s = some (retold v) := by
  cases k with
  | host | interpreter => exact congrArg some (Except.ok.inj ((text_ofText _ v).symm.trans h)).symm
  | _ => exact (Except.ok.inj ((optional_text_ofText _ v).symm.trans h)).symm

/-- What is given for the setting becomes the text of the variable, and all else stays. -/
theorem sameBut_assignAt (k : TextSetting) (v : String) (g : Given) :
    SameBut k.setting.sec.name k.setting.key g (assignAt (giving v) k.steps g) := by
  refine ⟨fun n hn => ?_, fun m hm => ?_⟩
  · rw [steps, member?_assignAt_name, k.smallName_sec, if_neg hn]
  · rw [steps, member?_assignAt_name, k.smallName_sec, if_pos rfl, Option.bind_some, entered,
      member?_assignAt_name, k.smallName_key, if_neg hm, member?_getD _ rfl]

theorem inOrder_assignAt (k : TextSetting) (v : String) (g : Given) :
    InOrder k.setting.sec.name (assignAt (giving v) k.steps g) := by
  refine ⟨by rw [steps, assignAt_name, isTable_set], fun t ht => ?_⟩
  rw [steps, member?_assignAt_name, k.smallName_sec, if_pos rfl] at ht
  rw [← Option.some.inj ht, entered, assignAt_name, isTable_set]

theorem given?_assignAt (k : TextSetting) (v : String) (g : Given) :
    k.setting.given? (assignAt (giving v) k.steps g) = some (giving v) := by
  rw [Setting.given?, at?_pair, steps, member?_assignAt_name, k.smallName_sec, if_pos rfl,
    Option.bind_some, entered, member?_assignAt_name, k.smallName_key, if_pos rfl]
  rfl

end TextSetting

/-! ## 6. A variable among others -/

variable {pre post : List (String × String)} {fs : FileSystem} {cwd : Location}
variable {default surroundings here : Layer}

/-- What all layers give together, up to the variables of `pre`. -/
def givenBefore (pre : List (String × String)) (default surroundings here : Layer) : Given :=
  (ofEnvironment pre).onto (combined [builtIn, default, surroundings, here])

theorem combined_append (pre post : List (String × String)) (default surroundings here : Layer) :
    combined (allLayers (pre ++ post) default surroundings here)
      = (ofEnvironment post).onto (givenBefore pre default surroundings here) := by
  have happend : ofEnvironment (pre ++ post) = ofEnvironment pre ++ ofEnvironment post :=
    List.filterMap_append
  rw [allLayers, happend]
  exact List.foldl_append

theorem combined_variable (k : TextSetting) (v : String) (pre post : List (String × String))
    (default surroundings here : Layer) :
    combined (allLayers (pre ++ (k.variableName, v) :: post) default surroundings here)
      = (ofEnvironment post).onto (assignAt (TextSetting.giving v) k.steps
          (givenBefore pre default surroundings here)) := by
  rw [combined_append, k.ofEnvironment_cons]
  rfl

/-- The files are the same with a variable that is not for their names. -/
theorem files_variable (k : TextSetting) (v : String) :
    Files (pre ++ (k.variableName, v) :: post) fs cwd default surroundings here
      ↔ Files (pre ++ post) fs cwd default surroundings here := by
  have hname : k.variableName ≠ "DAAD_ENV" := by cases k <;> decide
  have hvalue : valueOf? "DAAD_ENV" (pre ++ (k.variableName, v) :: post)
      = valueOf? "DAAD_ENV" (pre ++ post) := by
    simp [valueOf?, hname]
  constructor <;> rintro ⟨hdefault, hsurroundings, hhere⟩
  · exact ⟨hdefault, hvalue ▸ hsurroundings, hhere⟩
  · exact ⟨hdefault, hvalue.symm ▸ hsurroundings, hhere⟩

/-- **A setting that is a text is the text of its variable exactly if that is one that the detour
leads back to.**  No later variable may give the setting as well, or take the section's place.  Then
the setting is what becomes of the text.  And the variable itself is never refused: if settings can
be loaded without it, they can be loaded with it. -/
theorem load_text_iff_kept (k : TextSetting) (v : String)
    (hp : (ofEnvironment post).IsPartial k.setting.sec.name k.setting.key)
    (hnone : k.setting.givenBy? (ofEnvironment post) = none) :
    (∀ s, load (pre ++ (k.variableName, v) :: post) fs cwd = .ok s →
      k.value s = some (retold v) ∧ (k.value s = some v ↔ Kept v))
    ∧ ((∃ s, load (pre ++ post) fs cwd = .ok s) →
      ∃ s, load (pre ++ (k.variableName, v) :: post) fs cwd = .ok s) := by
  have hn := Layer.isNamed_ofEnvironment post
  have hgiven (g : Given) : k.setting.given?
      ((ofEnvironment post).onto (assignAt (TextSetting.giving v) k.steps g))
        = some (TextSetting.giving v) := by
    rw [Setting.given?, at?_onto hn hp, ← Setting.givenBy?, hnone, Option.none_or]
    exact k.given?_assignAt v g
  constructor
  · intro s h
    obtain ⟨default, surroundings, here, -, h⟩ := load_eq_ok.mp h
    rw [combined_variable] at h
    have hread := get_of_ofGiven k.setting (inOrder_onto hn hp (k.inOrder_assignAt v _)) h
    rw [hgiven] at hread
    have hvalue := k.value_of_read hread
    refine ⟨hvalue, ?_⟩
    rw [hvalue, Option.some.injEq]
    exact retold_eq_iff v
  · rintro ⟨s, h⟩
    obtain ⟨default, surroundings, here, hf, h⟩ := load_eq_ok.mp h
    rw [combined_append] at h
    obtain ⟨s', hs'⟩ := ofGiven_of_sameBut k.setting ((k.sameBut_assignAt v _).onto hn hp)
      (inOrder_onto hn hp (k.inOrder_assignAt v _)) (fun f hf hkey w hw => by
        rw [hgiven] at hw
        exact Option.some.inj hw ▸ k.accepts_giving v f hf hkey) h
    refine ⟨s', load_eq_ok.mpr ⟨default, surroundings, here, (files_variable k v).mpr hf, ?_⟩⟩
    rw [combined_variable]
    exact hs'

/-- On an empty disk, and with a port from another variable, the token is the text of its variable,
which looks like nothing else. -/
theorem token_from_variable :
    ∃ s, load [("DAAD_SERVER__ACCESS_TOKEN", "open sesame"), ("DAAD_SERVER__PORT", "80")] .empty []
        = .ok s ∧ s.server.accessToken = some "open sesame" := by
  have henv : ofEnvironment [("DAAD_SERVER__PORT", "80")]
      = [([.name "server", .name "port"], .scalar .environment (.whole 80))] := by
    cbv
  have hp : (ofEnvironment [("DAAD_SERVER__PORT", "80")]).IsPartial "server" "access_token" := by
    rw [henv]
    exact Layer.isPartial_of_isFlat rfl _ _
  have hnone : (ofEnvironment [("DAAD_SERVER__PORT", "80")]).gives? "server" "access_token"
      = none := by
    rw [henv]
    cbv
  have hwithout : ∃ s, load ([] ++ [("DAAD_SERVER__PORT", "80")]) .empty [] = .ok s := by
    refine ⟨{ server := { port := 80 } },
      load_eq_ok.mpr ⟨[], [], [], files_of_no_file _ isFile_empty, ?_⟩⟩
    rw [List.nil_append, allLayers, henv]
    cbv
  have hkept : Kept "open sesame" := .other (by cbv) (by cbv) (by cbv)
  obtain ⟨hvalue, hload⟩ := load_text_iff_kept .accessToken "open sesame" hp hnone
  obtain ⟨s, hs⟩ := hload hwithout
  exact ⟨s, hs, (hvalue s hs).2.mpr hkept⟩

/-- The token `007` becomes `7`. -/
theorem token_not_from_variable :
    ∃ s, load [("DAAD_SERVER__ACCESS_TOKEN", "007")] .empty [] = .ok s
      ∧ s.server.accessToken = some "7" := by
  have henv : ofEnvironment [("DAAD_SERVER__ACCESS_TOKEN", "007")]
      = [([.name "server", .name "access_token"], .scalar .environment (.whole 7))] := by
    cbv
  refine ⟨{ server := { accessToken := some "7" } },
    load_eq_ok.mpr ⟨[], [], [], files_of_no_file _ isFile_empty, ?_⟩, rfl⟩
  rw [allLayers, henv]
  cbv

end Scriptorium.Settings
