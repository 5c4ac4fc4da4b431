import Scriptorium.OsError
import Scriptorium.Run.Outcome
import Scriptorium.Text.Decoder

/-!
# Reading the streams of a script

Each stream of a script is read by a pump of its own, piece by piece, until it ends.  A pump
decodes the pieces and hands them on as chunks, together with the number of bytes that were read:
bytes that the decoder holds back are counted when they are read, and the text that the end of the
stream sets free comes with no bytes.
-/
namespace Scriptorium.Run

/-- What a pump hands on. -/
inductive Chunk where
  | data (stream : Stream) (text : String) (bytes : Nat)
  | failed (stream : Stream) (cause : OsError)
  deriving DecidableEq, Repr

/-- The reader of one stream. -/
structure Pump where
  decoder : Text.Decoder
  /-- Whether the stream is still being read. -/
  isOpen : Bool
  deriving DecidableEq, Repr, Inhabited

namespace Pump

/-- The most bytes that can be asked for at a time. -/
def maxRequest : Nat := 0x7FFFFFFFFFFFFFFF

/-- A pump at the start of a stream.  One that is to ask for more than can be asked for gives up
at once. -/
def start (chunkSize : Nat) : Pump := ⟨.fresh, chunkSize ≤ maxRequest⟩

/-- Hands a piece on. -/
def push (p : Pump) (stream : Stream) (piece : Bytes) : Chunk × Pump :=
  let (text, decoder) := p.decoder.push piece
  (.data stream (String.ofList text) piece.length, ⟨decoder, p.isOpen⟩)

/-- The stream has ended. -/
def finish (p : Pump) (stream : Stream) : List Chunk × Pump :=
  let (text, decoder) := p.decoder.finish
  (match text with
    | some cs => [.data stream (String.ofList cs) 0]
    | none => [], ⟨decoder, false⟩)

/-- The stream could not be read. -/
def fail (p : Pump) (stream : Stream) (cause : OsError) : Chunk × Pump :=
  (.failed stream cause, ⟨p.decoder, false⟩)

end Pump
end Scriptorium.Run
