import Scriptorium.Proofs.Succeeds
import Scriptorium.Proofs.Text.Cut
import Scriptorium.Proofs.Text.Utf8
import Scriptorium.Web.Request

/-!
# What stands in a request

The first field of a name, told by the fields before it (`FirstValue`), the text of a value, told by
the bytes that write it (`Readable`), and the first value of a parameter, told by the pieces of the
query before it (`FirstParameter`).  A request has at most one of each, so it does not matter what
else stands in it.
-/
namespace Scriptorium.Web

open Text

variable {r : Request} {name : String} {value : Bytes} {cs : List Char} {c : Char} {b : UInt8}

/-! ## 1. Fields -/

/-- Capital and small letters are one in the name of a field. -/
def Field.Named (f : Field) (name : String) : Prop :=
  lowered f.name.toList = lowered name.toList

instance (f : Field) (name : String) : Decidable (f.Named name) :=
  inferInstanceAs (Decidable (lowered f.name.toList = lowered name.toList))

/-- The first field of a name has this value. -/
def Request.FirstValue (r : Request) (name : String) (value : Bytes) : Prop :=
  ∃ before f behind, r.fields = before ++ f :: behind
    ∧ f.Named name ∧ f.value = value ∧ ∀ g ∈ before, ¬ g.Named name

/-- The value of a field is that of the first field of the name, in capital or small letters. -/
theorem value?_eq_some : r.value? name = some value ↔ r.FirstValue name value := by
  rw [Request.value?, Option.map_eq_some_iff]
  constructor
  · rintro ⟨f, hf, hvalue⟩
    obtain ⟨hname, before, behind, hfields, hbefore⟩ := List.find?_eq_some_iff_append.mp hf
    refine ⟨before, f, behind, hfields, by simpa [Field.Named] using hname, hvalue, fun g hg => ?_⟩
    simpa [Field.Named] using hbefore g hg
  · rintro ⟨before, f, behind, hfields, hname, hvalue, hbefore⟩
    refine ⟨f, List.find?_eq_some_iff_append.mpr ?_, hvalue⟩
    refine ⟨?_, before, behind, hfields, fun g hg => ?_⟩
    · simpa [Field.Named] using hname
    · simpa [Field.Named] using hbefore g hg

theorem value?_eq_none : r.value? name = none ↔ ∀ value, ¬ r.FirstValue name value :=
  eq_none_iff_of_eq_some fun _ => value?_eq_some

/-! ## 2. Values that are text -/

/-- A visible ASCII character, a blank or a tab. -/
def IsPlain (c : Char) : Prop := c = '\t' ∨ 0x20 ≤ c.toNat ∧ c.toNat < 0x7F

instance (c : Char) : Decidable (IsPlain c) :=
  inferInstanceAs (Decidable (c = '\t' ∨ 0x20 ≤ c.toNat ∧ c.toNat < 0x7F))

theorem isPlain_of_all (h : (cs.all fun c => decide (IsPlain c)) = true) : ∀ c ∈ cs, IsPlain c := by
  intro c hc
  exact of_decide_eq_true (List.all_eq_true.mp h c hc)

/-- A value is the bytes of this text, whose characters are plain ones. -/
def Readable (value : Bytes) (cs : List Char) : Prop :=
  value = Utf8.encode (String.ofList cs) ∧ ∀ c ∈ cs, IsPlain c

theorem IsPlain.toNat_lt (h : IsPlain c) : c.toNat < 0x80 := by
  rcases h with rfl | ⟨-, h⟩
  · decide
  · omega

/-- Plain characters are written as one byte each, the one with the same number. -/
theorem encode_plain (h : ∀ c ∈ cs, IsPlain c) :
    Utf8.encode (String.ofList cs) = cs.map fun c => UInt8.ofNat c.toNat := by
  rw [Utf8.encode_ofList]
  induction cs with
  | nil => rfl
  | cons c cs ih =>
    have hc : c.val.toNat ≤ 0x7F := Nat.le_of_lt_succ (h c List.mem_cons_self).toNat_lt
    have hchar : String.utf8EncodeChar c = [UInt8.ofNat c.toNat] := by
      unfold String.utf8EncodeChar
      exact if_pos hc
    rw [List.flatMap_cons, hchar, ih fun d hd => h d (List.mem_cons_of_mem _ hd)]
    rfl

theorem isReadable_iff : isReadable b ↔ 0x20 ≤ b.toNat ∧ b.toNat < 0x7F ∨ b.toNat = 0x09 := by
  simp only [isReadable, Bool.or_eq_true, Bool.and_eq_true, decide_eq_true_eq,
    UInt8.le_iff_toNat_le, UInt8.lt_iff_toNat_lt, ← UInt8.toNat_inj]
  rfl

theorem toNat_charOf (h : isReadable b) : (Char.ofNat b.toNat).toNat = b.toNat := by
  have hall : ∀ n < 0x7F, (Char.ofNat n).toNat = n := by decide
  have hb := isReadable_iff.mp h
  exact hall b.toNat (by omega)

theorem isPlain_charOf (h : isReadable b) : IsPlain (Char.ofNat b.toNat) := by
  rcases isReadable_iff.mp h with hvisible | htab
  · right
    rwa [toNat_charOf h]
  · left
    rw [htab]

theorem toNat_byteOf (h : IsPlain c) : (UInt8.ofNat c.toNat).toNat = c.toNat := by
  have hc := h.toNat_lt
  rw [UInt8.toNat_ofNat']
  omega

theorem isReadable_byteOf (h : IsPlain c) : isReadable (UInt8.ofNat c.toNat) := by
  rw [isReadable_iff, toNat_byteOf h]
  rcases h with rfl | hvisible
  · exact .inr rfl
  · exact .inl hvisible

/-- **A value can be read exactly if it is the bytes of plain characters**, and then as these. -/
theorem readable?_eq_some : readable? value = some cs ↔ Readable value cs := by
  constructor
  · intro h
    rw [readable?] at h
    split at h
    · rename_i hall
      rw [List.all_eq_true] at hall
      obtain rfl := Option.some.inj h
      have hplain : ∀ c ∈ value.map fun b => Char.ofNat b.toNat, IsPlain c := by
        intro c hc
        obtain ⟨b, hb, rfl⟩ := List.mem_map.mp hc
        exact isPlain_charOf (hall b hb)
      refine ⟨?_, hplain⟩
      rw [encode_plain hplain, List.map_map]
      refine (List.map_id _).symm.trans (List.map_congr_left fun b hb => ?_)
      rw [Function.comp_apply, toNat_charOf (hall b hb), UInt8.ofNat_toNat, id]
    · nomatch h
  · rintro ⟨rfl, hplain⟩
    have hall : (cs.map fun c => UInt8.ofNat c.toNat).all isReadable := by
      rw [List.all_map, List.all_eq_true]
      exact fun c hc => isReadable_byteOf (hplain c hc)
    rw [encode_plain hplain, readable?, if_pos hall, List.map_map, Option.some.injEq]
    refine (List.map_congr_left fun c hc => ?_).trans (List.map_id cs)
    rw [Function.comp_apply, toNat_byteOf (hplain c hc), Char.ofNat_toNat, id]

/-- The first field of a name can be read as this text. -/
def Request.FirstText (r : Request) (name : String) (cs : List Char) : Prop :=
  ∃ value, r.FirstValue name value ∧ Readable value cs

theorem text?_eq_some : r.text? name = some cs ↔ r.FirstText name cs := by
  rw [Request.text?, Option.bind_eq_bind, Option.bind_eq_some_iff]
  simp only [value?_eq_some, readable?_eq_some, Request.FirstText]

theorem text?_eq_none : r.text? name = none ↔ ∀ cs, ¬ r.FirstText name cs :=
  eq_none_iff_of_eq_some fun _ => text?_eq_some

/-! ## 3. Parameters -/

/-- What a piece of a query begins with that gives a value to a parameter. -/
def parameterStart (name : String) : List Char := name.toList ++ ['=']

/-- The first piece of a query, of those between the `&`, that gives a value to a parameter gives it
this one. -/
def FirstParameter (query : List Char) (name : String) (cs : List Char) : Prop :=
  ∃ before behind : List (List Char),
    query = join '&' (before ++ (parameterStart name ++ cs) :: behind)
      ∧ (∀ piece ∈ before ++ (parameterStart name ++ cs) :: behind, '&' ∉ piece)
      ∧ ∀ piece ∈ before, ¬ parameterStart name <+: piece

theorem FirstParameter.ampersand_not_mem {query : List Char} (h : FirstParameter query name cs) :
    '&' ∉ cs := by
  obtain ⟨before, behind, -, hclean, -⟩ := h
  intro hmem
  refine hclean (parameterStart name ++ cs) ?_ (List.mem_append_right _ hmem)
  exact List.mem_append_right _ List.mem_cons_self

/-- The value of a parameter in the query is that of the first parameter of the name. -/
theorem head?_parameter {t : Target} : (t.parameter name).head? = some cs ↔
    ∃ query, t.query = some query ∧ FirstParameter query name cs := by
  cases hquery : t.query with
  | none => simp [Target.parameter, hquery]
  | some query =>
    simp only [Target.parameter, hquery, List.head?_filterMap, Option.some.injEq, exists_eq_left']
    rw [List.findSome?_eq_some_iff]
    constructor
    · rintro ⟨before, piece, behind, hpieces, hpiece, hbefore⟩
      obtain rfl := dropStart?_eq_some.mp hpiece
      refine ⟨before, behind, ?_, ?_, ?_⟩
      · rw [← join_pieces '&' query, hpieces]
        rfl
      · have hclean : ∀ piece ∈ pieces '&' query, '&' ∉ piece := not_mem_of_mem_pieces
        rwa [hpieces] at hclean
      · intro other hother
        exact dropStart?_eq_none.mp (hbefore other hother)
    · rintro ⟨before, behind, rfl, hclean, hbefore⟩
      refine ⟨before, parameterStart name ++ cs, behind, pieces_join (by simp) hclean, ?_, ?_⟩
      · exact dropStart?_append (parameterStart name) cs
      · exact fun other hother => dropStart?_eq_none.mpr (hbefore other hother)

end Scriptorium.Web
