import Scriptorium.Text.Utf8

/-!
# Decoding a stream of chunks

A script's output arrives in chunks that may cut a character in two.  A decoder holds the
beginning of a cut-off character back until the next chunk completes it, so that no character is
shown broken merely because of where the stream was cut.

* `push` takes a chunk.  If the held bytes and the chunk are text up to a cut-off character, the
  whole characters come out and the rest is held.  If they hold a piece that is no text, all of
  them come out with replacement characters and nothing is held.
* `finish` ends the stream: a character still held back comes out as replacement.
-/
namespace Scriptorium.Text

open Utf8

/-- The bytes of a stream that wait for the rest of their character. -/
structure Decoder where
  held : Bytes
  deriving DecidableEq, Repr

namespace Decoder

/-- A decoder at the start of a stream. -/
def fresh : Decoder := ⟨[]⟩

instance : Inhabited Decoder := ⟨fresh⟩

/-- The text that a chunk completes, and the decoder after it. -/
def push (d : Decoder) (chunk : Bytes) : List Char × Decoder :=
  match complete (d.held ++ chunk) with
  | some (cs, held) => (cs, ⟨held⟩)
  | none => (lossy (d.held ++ chunk), fresh)

/-- The text that the end of the stream completes, if any, and the decoder after it. -/
def finish (d : Decoder) : Option (List Char) × Decoder :=
  match d.held with
  | [] => (none, fresh)
  | held => (some (lossy held), fresh)

/-- One thing that can happen to a stream. -/
inductive Input where
  | chunk (bytes : Bytes)
  | done
  deriving DecidableEq, Repr

/-- The text each input completes; only `done` may complete none. -/
def run (d : Decoder) : List Input → List (Option (List Char))
  | [] => []
  | .chunk bytes :: rest => some (d.push bytes).1 :: (d.push bytes).2.run rest
  | .done :: rest => d.finish.1 :: d.finish.2.run rest

/-- After the end of a stream a decoder is as new. -/
theorem finish_snd (d : Decoder) : d.finish.2 = fresh := by
  unfold finish; split <;> rfl

end Decoder
end Scriptorium.Text
