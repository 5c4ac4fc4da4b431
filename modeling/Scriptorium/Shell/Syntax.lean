import Scriptorium.Text.Utf8

/-!
# Commands of the shell

What a script of the shell consists of.  A script is a sequence of bytes, and so are the words in
it; they are held as characters below 256, one for each byte (`Octets`).

A word is a list of parts, since quoting changes what is done with a part.  What stands in a
command substitution is kept as it is written, and is read when it is run.
-/
namespace Scriptorium.Shell

/-- Bytes, each as the character with its number. -/
abbrev Octets := List Char

/-- Bytes as characters. -/
def octets (bs : Bytes) : Octets := bs.map fun b => Char.ofNat b.toNat

/-- Characters as the bytes that they stand for. -/
def bytesOf (cs : Octets) : Bytes := cs.map fun c => c.toNat.toUInt8

/-- A piece of a word. -/
inductive Piece where
  | text (s : Octets)
  /-- The value of a parameter, or, with an operator, another word in place of it. -/
  | parameter (name : Octets) (operator : Octets) (other : Octets)
  /-- The length of the value of a parameter. -/
  | length (name : Octets)
  | command (source : Octets)
  | arithmetic (source : Octets)
  /-- What a command substitution has given. -/
  | value (s : Octets)
  deriving Repr

/-- A piece of a word, between quotes or not. -/
structure Part where
  piece : Piece
  quoted : Bool
  deriving Repr

/-- A word, as it is written. -/
abbrev Word := List Part

/-- What a redirection does to a descriptor. -/
inductive RedirectKind where
  | read
  | write
  | append
  | duplicate
  deriving DecidableEq, Repr

/-- A redirection. -/
structure Redirect where
  fd : Nat
  kind : RedirectKind
  target : Word
  deriving Repr

/-- A command. -/
inductive Command where
  | nothing
  | simple (line : Nat) (assignments : List (Octets × Word)) (words : List Word)
      (redirects : List Redirect)
  | sequence (first second : Command)
  /-- The second is run if the first succeeds. -/
  | both (first second : Command)
  /-- The second is run if the first fails. -/
  | either (first second : Command)
  | negated (c : Command)
  | background (c : Command)
  | pipe (left right : Command)
  /-- Runs the body as long as the test succeeds, or as long as it fails. -/
  | loop (whileFails : Bool) (test body : Command)
  | branch (test yes no : Command)
  | forEach (name : Octets) (words : List Word) (body : Command)
  | group (body : Command) (redirects : List Redirect)
  | subshell (body : Command) (redirects : List Redirect)
  deriving Repr, Inhabited

/-- The text of a word without quotes and expansions; none if it is anything else. -/
def bareText? : Word → Option Octets
  | [⟨.text s, false⟩] => some s
  | _ => none

end Scriptorium.Shell
