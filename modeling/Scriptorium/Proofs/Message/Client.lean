import Mathlib
import Scriptorium.Message.Client
import Scriptorium.Proofs.Json.Tagged

/-!
# What a client is taken to say

An object says a message if its only member `type` is the word for the kind of the message and its
other members give the fields (`ClientMessage.SaidBy`).  This does not depend on the order of the
members, nor on members of other names, and `read_as_said` proves that it is what decides: a text
that is an object is read as a message exactly if the object says it.

So a message that is written with its members in any order is read back.  The only condition is
that its numbers are in range (`Row.Fits`), as a number that a message holds always is once it was
read.
-/
namespace Scriptorium.ClientMessage

open Json Json.Reader

variable {m : ClientMessage} {t : Tag} {ms : List (String × Value)} {text : String}

/-! ## 1. Kinds -/

namespace Tag

theorem ofWord?_eq_some {s : String} : ofWord? s = some t ↔ s = t.word := by
  constructor
  · intro h
    have hword : t.word = s := by simpa using List.find?_some h
    exact hword.symm
  · rintro rfl
    exact ofWord?_word t

theorem slots_nodup (t : Tag) : (t.slots.map (·.name)).Nodup := by
  cases t <;> decide

/-- The tag is not called like a field. -/
theorem type_notMem (t : Tag) : "type" ∉ t.slots.map (·.name) := by
  cases t <;> decide

end Tag

/-- A message made of the fields of a kind is of that kind and has these fields. -/
theorem given_ofRow : ∀ (t : Tag) (row : Row t.slots),
    (ofRow t row).tag = t ∧ ((ofRow t row).row.Given ms ↔ row.Given ms)
  | .run, .cons _ (.cons _ .nil) => ⟨rfl, Iff.rfl⟩
  | .stdin, .cons _ .nil => ⟨rfl, Iff.rfl⟩
  | .endStdin, .nil => ⟨rfl, Iff.rfl⟩
  | .cancel, .nil => ⟨rfl, Iff.rfl⟩
  | .listDirectory, .cons _ (.cons _ .nil) => ⟨rfl, Iff.rfl⟩
  | .tree, .cons _ (.cons _ (.cons _ .nil)) => ⟨rfl, Iff.rfl⟩
  | .readFile, .cons _ (.cons _ .nil) => ⟨rfl, Iff.rfl⟩
  | .writeFile, .cons _ (.cons _ (.cons _ .nil)) => ⟨rfl, Iff.rfl⟩
  | .createFile, .cons _ (.cons _ .nil) => ⟨rfl, Iff.rfl⟩
  | .deletePath, .cons _ (.cons _ .nil) => ⟨rfl, Iff.rfl⟩
  | .renamePath, .cons _ (.cons _ (.cons _ .nil)) => ⟨rfl, Iff.rfl⟩
  | .ping, .nil => ⟨rfl, Iff.rfl⟩

theorem ofBody_members : ofBody t (.members ms) = .ok m ↔ m.tag = t ∧ m.row.Given ms := by
  rw [ofBody, map_eq_ok]
  simp only [rowOf_members t.slots_nodup]
  constructor
  · rintro ⟨row, hrow, rfl⟩
    obtain ⟨htag, hgiven⟩ := given_ofRow t row
    exact ⟨htag, hgiven.mpr hrow⟩
  · rintro ⟨rfl, hrow⟩
    exact ⟨m.row, hrow, ofRow_row m⟩

/-! ## 2. What an object says -/

/-- The members of an object say a message. -/
structure SaidBy (m : ClientMessage) (ms : List (String × Value)) : Prop where
  tag : valuesOf "type" ms = [.string m.tag.word]
  fields : m.row.Given ms

theorem chosen_tag {vs : List Value} :
    vs.map (chosen Tag.ofWord?) = [some t] ↔ vs = [.string t.word] := by
  rw [List.map_eq_singleton_iff]
  simp only [chosen_eq_some, Tag.ofWord?_eq_some]
  constructor
  · rintro ⟨_, rfl, _, rfl, rfl⟩
    rfl
  · rintro rfl
    exact ⟨_, rfl, _, rfl, rfl⟩

/-- What is not a field is no matter of the fields. -/
theorem given_othersOf : m.row.Given (othersOf "type" ms) ↔ m.row.Given ms := by
  refine Row.given_congr fun slot hslot => valuesOf_othersOf (fun h => ?_) ms
  exact m.tag.type_notMem (h ▸ List.mem_map_of_mem hslot)

theorem ofText_eq_ok : ofText text = .ok m
    ↔ ∃ c, Yields reader (.ofString text) m c ∧ c.token.rest = [] := by
  rw [ofText, readAll_eq_ok]
  simp only [yields_bind, yields_endOfText, yields_pure]
  constructor
  · rintro ⟨_, m, c, hm, _, _, ⟨hend, rfl⟩, rfl, rfl⟩
    exact ⟨c, hm, hend⟩
  · rintro ⟨c, hm, hend⟩
    exact ⟨_, m, c, hm, (), _, ⟨hend, rfl⟩, rfl, rfl⟩

/-- A message is read from a text exactly if the object in it says the message. -/
theorem ofText_object (h : parse text = .ok (.object ms)) : ofText text = .ok m ↔ m.SaidBy ms := by
  obtain ⟨c, hread, hend⟩ := parse_eq_ok.mp h
  rw [ofText_eq_ok]
  constructor
  · rintro ⟨c', hm, -⟩
    obtain ⟨⟨t, body⟩, c₁, htagged, hm⟩ := yields_bind.mp hm
    obtain ⟨⟨htag, hbody⟩, rfl⟩ := hread.yields_taggedBy.mp htagged
    obtain rfl : body = _ := hbody
    cases hof : ofBody t (.members (othersOf "type" ms)) with
    | error message => simp [hof] at hm
    | ok m' =>
      simp only [hof] at hm
      obtain ⟨rfl, -⟩ := yields_pure.mp hm
      obtain ⟨rfl, hgiven⟩ := ofBody_members.mp hof
      exact ⟨chosen_tag.mp htag, given_othersOf.mp hgiven⟩
  · rintro ⟨htag, hgiven⟩
    have hof := ofBody_members.mpr ⟨rfl, given_othersOf.mpr hgiven⟩
    refine ⟨c, yields_bind.mpr ⟨(m.tag, .members (othersOf "type" ms)), c, ?_, ?_⟩, hend⟩
    · exact hread.yields_taggedBy.mpr ⟨⟨chosen_tag.mpr htag, rfl⟩, rfl⟩
    · simp [hof]

/-! ## 3. Messages as they are written -/

/-- The members that a message is written as. -/
def members (m : ClientMessage) : List (String × Value) :=
  ("type", .string m.tag.word) :: m.row.members

theorem members_nodup (m : ClientMessage) : (m.members.map (·.1)).Nodup := by
  rw [members, List.map_cons, m.row.names_members]
  exact List.nodup_cons.mpr ⟨m.tag.type_notMem, m.tag.slots_nodup⟩

/-- The members of a message say it, in any order. -/
theorem saidBy_members (hfits : m.row.Fits) (hperm : ms.Perm m.members) : m.SaidBy ms := by
  constructor
  · rw [valuesOf_perm hperm m.members_nodup]
    exact valuesOf_eq_singleton m.members_nodup List.mem_cons_self
  · rw [Row.given_congr fun slot _ => valuesOf_perm hperm m.members_nodup]
    refine (Row.given_congr fun slot hslot => ?_).mpr (hfits.given_members m.tag.slots_nodup)
    exact valuesOf_cons_of_ne (fun h => m.tag.type_notMem (List.mem_map.mpr ⟨_, hslot, h.symm⟩)) _ _

theorem exact_members (hfits : m.row.Fits) (hperm : ms.Perm m.members) :
    Exact maxDepth (.object ms) := by
  refine .object fun x hx => ?_
  obtain rfl | hx := List.mem_cons.mp (hperm.mem_iff.mp hx)
  · exact .string _
  · exact hfits.exact_members x hx

/-- **A message is read from an object exactly if the members say it.**  The order of the members
does not matter, nor do members that nobody asks for, but each that is asked for stands there once;
a whole number is one in its decimal digits, up to the largest of 64 bits.  And what is written of a
message with numbers in range is read back, in whatever order. -/
theorem read_as_said (m : ClientMessage) :
    (∀ text ms, parse text = .ok (.object ms) → (ofText text = .ok m ↔ m.SaidBy ms))
      ∧ (∀ text (n : Nat), parse text = .ok (.whole n) ↔ n ≤ maxWhole
          ∧ ∃ before behind, text.toList = before ++ ((toString n).toList ++ behind)
            ∧ (∀ x ∈ before, isBlank x = true) ∧ ∀ x ∈ behind, isBlank x = true)
      ∧ (m.row.Fits → m.toJson = .object m.members
        ∧ ∀ ms, ms.Perm m.members → m.SaidBy ms ∧ ofText (Value.object ms).render = .ok m) := by
  refine ⟨fun text ms h => ofText_object h, fun text n => ?_,
    fun hfits => ⟨rfl, fun ms hperm => ?_⟩⟩
  · rw [parse_eq_whole, show toString (n : Int) = toString n from rfl]
    exact and_congr_left fun _ => ⟨fun h => Int.ofNat_le.mp h.2, fun h => ⟨by omega, by omega⟩⟩
  · have hsaid := saidBy_members hfits hperm
    exact ⟨hsaid, (ofText_object (parse_render (exact_members hfits hperm))).mpr hsaid⟩

/-- The tag comes last here, behind a name with an escape and members that nobody asked for. -/
theorem tree_read_as_said :
    let m := .tree "a\n\"" (some 18446744073709551615) none
    let ms := [("x", .array [.object [("type", .string "run")]]), ("request_id", .null),
      ("max_depth", .whole 18446744073709551615), ("x", .whole (-1)), ("path", .string "a\n\""),
      ("type", .string "tree")]
    let text := "\x7b\"x\":[\x7b\"type\":\"run\"\x7d],\"request_id\":null,\"max_depth\": "
      ++ "18446744073709551615 , \"x\":-1,\"pa\\u0074h\":\"a\\n\\\"\",\"type\":\"tree\"\x7d"
    (parse text = .ok (.object ms) ∧ m.SaidBy ms ∧ ofText text = .ok m)
      ∧ m.row.Fits ∧ m.members.reverse.Perm m.members
      ∧ ofText (Value.object m.members.reverse).render = .ok m := by
  intro m ms text
  obtain ⟨hread, -, hwritten⟩ := read_as_said m
  have hparse : parse text = .ok (.object ms) := by
    unfold text ms
    cbv
  have htag : valuesOf "type" ms = [.string "tree"] := by simp [ms, valuesOf]
  have hpath : valuesOf "path" ms = [.string "a\n\""] := by simp [ms, valuesOf]
  have hdepth : valuesOf "max_depth" ms = [.whole 18446744073709551615] := by simp [ms, valuesOf]
  have hid : valuesOf "request_id" ms = [.null] := by simp [ms, valuesOf]
  have hsaid : m.SaidBy ms := ⟨htag, hpath, ⟨hdepth, Nat.le_refl _⟩, .inr hid, trivial⟩
  have hfits : m.row.Fits := ⟨trivial, Nat.le_refl _, trivial, trivial⟩
  have hperm := m.members.reverse_perm
  exact ⟨⟨hparse, hsaid, (hread text ms hparse).mpr hsaid⟩, hfits, hperm,
    ((hwritten hfits).2 _ hperm).2⟩

end Scriptorium.ClientMessage
