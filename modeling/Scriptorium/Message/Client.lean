import Scriptorium.Json.Printer
import Scriptorium.Json.Tagged

/-!
# What a client says

A client sends one message at a time, each as a JSON object with the member `type`, which says what
is asked for, and the fields of that type (`Tag.slots`).  `ClientMessage.ofText` reads a message,
and `ClientMessage.toJson` writes one.

The fields are read only after the whole object, so a fault in them has no place in the text.
-/
namespace Scriptorium

/-- A message from a client. -/
inductive ClientMessage where
  /-- Run a script, after saving `content` as it if there is one. -/
  | run (path : String) (content : Option String)
  /-- Pass a text on to the script that is running. -/
  | stdin (data : String)
  /-- Tell the script that nothing more will come. -/
  | endStdin
  /-- Stop the script. -/
  | cancel
  | listDirectory (path : String) (requestId : Option String)
  | tree (path : String) (maxDepth : Option Nat) (requestId : Option String)
  | readFile (path : String) (requestId : Option String)
  | writeFile (path content : String) (requestId : Option String)
  | createFile (path : String) (requestId : Option String)
  | deletePath (path : String) (requestId : Option String)
  | renamePath (source target : String) (requestId : Option String)
  /-- Ask for a sign of life. -/
  | ping
  deriving DecidableEq, Repr

namespace ClientMessage

open Json

/-! ## 1. Tags and fields -/

/-- The kinds of messages. -/
inductive Tag where
  | run
  | stdin
  | endStdin
  | cancel
  | listDirectory
  | tree
  | readFile
  | writeFile
  | createFile
  | deletePath
  | renamePath
  | ping
  deriving DecidableEq, Repr

namespace Tag

/-- All kinds, in their order. -/
def all : List Tag := [.run, .stdin, .endStdin, .cancel, .listDirectory, .tree, .readFile, .writeFile,
  .createFile, .deletePath, .renamePath, .ping]

/-- The word that names a kind. -/
def word : Tag → String
  | .run => "run"
  | .stdin => "stdin"
  | .endStdin => "end_stdin"
  | .cancel => "cancel"
  | .listDirectory => "list_directory"
  | .tree => "tree"
  | .readFile => "read_file"
  | .writeFile => "write_file"
  | .createFile => "create_file"
  | .deletePath => "delete_path"
  | .renamePath => "rename_path"
  | .ping => "ping"

/-- The kind that a word names. -/
def ofWord? (s : String) : Option Tag := all.find? (·.word == s)

/-- What a kind is called in a message about its fields. -/
def title : Tag → String
  | .run => "ClientMessage::Run"
  | .stdin => "ClientMessage::Stdin"
  | .endStdin => "ClientMessage::EndStdin"
  | .cancel => "ClientMessage::Cancel"
  | .listDirectory => "ClientMessage::ListDirectory"
  | .tree => "ClientMessage::Tree"
  | .readFile => "ClientMessage::ReadFile"
  | .writeFile => "ClientMessage::WriteFile"
  | .createFile => "ClientMessage::CreateFile"
  | .deletePath => "ClientMessage::DeletePath"
  | .renamePath => "ClientMessage::RenamePath"
  | .ping => "ClientMessage::Ping"

/-- The fields of a kind. -/
def slots : Tag → List Slot
  | .run => [⟨"path", .text⟩, ⟨"content", .optionalText⟩]
  | .stdin => [⟨"data", .text⟩]
  | .endStdin | .cancel | .ping => []
  | .listDirectory | .readFile | .createFile | .deletePath =>
    [⟨"path", .text⟩, ⟨"request_id", .optionalText⟩]
  | .tree => [⟨"path", .text⟩, ⟨"max_depth", .optionalNatural⟩, ⟨"request_id", .optionalText⟩]
  | .writeFile => [⟨"path", .text⟩, ⟨"content", .text⟩, ⟨"request_id", .optionalText⟩]
  | .renamePath => [⟨"from", .text⟩, ⟨"to", .text⟩, ⟨"request_id", .optionalText⟩]

theorem ofWord?_word (t : Tag) : ofWord? t.word = some t := by cases t <;> decide

end Tag

/-- The kind of a message. -/
def tag : ClientMessage → Tag
  | .run _ _ => .run
  | .stdin _ => .stdin
  | .endStdin => .endStdin
  | .cancel => .cancel
  | .listDirectory _ _ => .listDirectory
  | .tree _ _ _ => .tree
  | .readFile _ _ => .readFile
  | .writeFile _ _ _ => .writeFile
  | .createFile _ _ => .createFile
  | .deletePath _ _ => .deletePath
  | .renamePath _ _ _ => .renamePath
  | .ping => .ping

/-- The fields of a message. -/
def row : (m : ClientMessage) → Row m.tag.slots
  | .run path content => .cons path (.cons content .nil)
  | .stdin data => .cons data .nil
  | .endStdin => .nil
  | .cancel => .nil
  | .listDirectory path id => .cons path (.cons id .nil)
  | .tree path depth id => .cons path (.cons depth (.cons id .nil))
  | .readFile path id => .cons path (.cons id .nil)
  | .writeFile path content id => .cons path (.cons content (.cons id .nil))
  | .createFile path id => .cons path (.cons id .nil)
  | .deletePath path id => .cons path (.cons id .nil)
  | .renamePath source target id => .cons source (.cons target (.cons id .nil))
  | .ping => .nil

/-- The message of a kind with these fields. -/
def ofRow : (t : Tag) → Row t.slots → ClientMessage
  | .run, .cons path (.cons content .nil) => .run path content
  | .stdin, .cons data .nil => .stdin data
  | .endStdin, .nil => .endStdin
  | .cancel, .nil => .cancel
  | .listDirectory, .cons path (.cons id .nil) => .listDirectory path id
  | .tree, .cons path (.cons depth (.cons id .nil)) => .tree path depth id
  | .readFile, .cons path (.cons id .nil) => .readFile path id
  | .writeFile, .cons path (.cons content (.cons id .nil)) => .writeFile path content id
  | .createFile, .cons path (.cons id .nil) => .createFile path id
  | .deletePath, .cons path (.cons id .nil) => .deletePath path id
  | .renamePath, .cons source (.cons target (.cons id .nil)) => .renamePath source target id
  | .ping, .nil => .ping

/-- A message is its kind and its fields. -/
theorem ofRow_row (m : ClientMessage) : ofRow m.tag m.row = m := by cases m <;> rfl

/-! ## 2. Reading and writing -/

/-- A kind without fields is not particular about what an object holds besides its tag. -/
def ofBody (t : Tag) (body : Body) : Except String ClientMessage :=
  (rowOf t.title t.slots body).map (ofRow t)

/-- Reads a message. -/
def reader : Reader ClientMessage := do
  let tag := Reader.choice "variant identifier" (Tag.all.map Tag.word) Tag.ofWord?
  let (t, body) ← Reader.taggedBy "ClientMessage" "type" tag Reader.maxDepth
  match ofBody t body with
  | .ok m => return m
  | .error message => Reader.failMeaning message

/-- The message that a text says. -/
def ofText (text : String) : Except Fault ClientMessage :=
  Reader.readAll (do
    let m ← reader
    Reader.endOfText
    return m) text

/-- A message as a JSON object. -/
def toJson (m : ClientMessage) : Value := .object (("type", .string m.tag.word) :: m.row.members)

end ClientMessage
end Scriptorium
