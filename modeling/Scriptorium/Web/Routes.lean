import Scriptorium.Web.Pages

/-!
# What the server answers

The server has three kinds of places: `/health` tells how it is, `/ws/session` is where a client
opens a session, and everything else is a page of the user interface.  A server without a user
interface only has a page at the root.

The places are looked up by the path alone, whatever the query.  Every place can be asked for with
the methods `GET` and `HEAD`; a response to `HEAD` is one to `GET` without the body.
-/
namespace Scriptorium.Web

/-! ## 1. Opening a session -/

/-- Whether the first field of a name has this value, capital and small letters being one. -/
def Request.hasValue (r : Request) (name value : String) : Bool :=
  (r.value? name).any fun v => lowered (v.map fun b => Char.ofNat b.toNat) = value.toList

def hasInfix (part : List Char) : List Char → Bool
  | [] => part.isEmpty
  | c :: rest => part.isPrefixOf (c :: rest) || hasInfix part rest

def Request.mentions (r : Request) (name word : String) : Bool :=
  ((r.value? name) >>= Text.Utf8.decode?).any fun cs => hasInfix word.toList (lowered cs)

/-- What a request lacks to become a session. -/
inductive UpgradeFault where
  /-- It was not made with `GET`. -/
  | method
  | connection
  | upgrade
  | version
  | key
  /-- The connection cannot be used for anything but requests. -/
  | transport
  deriving DecidableEq, Repr

namespace UpgradeFault

def status : UpgradeFault → Nat
  | .method => 405
  | .transport => 426
  | _ => 400

/-- The text shown to the user. -/
def message : UpgradeFault → String
  | .method => "Request method must be \x60GET\x60"
  | .connection => "Connection header did not include 'upgrade'"
  | .upgrade => "\x60Upgrade\x60 header did not include 'websocket'"
  | .version => "\x60Sec-WebSocket-Version\x60 header did not include '13'"
  | .key => "\x60Sec-WebSocket-Key\x60 header missing"
  | .transport => "WebSocket request couldn't be upgraded since no upgrade state was present"

end UpgradeFault

def upgradeFault? (r : Request) : Option UpgradeFault :=
  if r.method ≠ "GET" then some .method
  else if !r.mentions "connection" "upgrade" then some .connection
  else if !r.hasValue "upgrade" "websocket" then some .upgrade
  else if !r.hasValue "sec-websocket-version" "13" then some .version
  else if (r.value? "sec-websocket-key").isNone then some .key
  else none

/-- What comes of a request to open a session. -/
inductive Opening where
  | accepted
  | refused (r : Response)
  deriving DecidableEq, Repr

/-- Decides on a request to open a session: first who asks, then how. -/
def openSession (policy : Option AccessPolicy) (r : Request) : Opening :=
  match checkClient policy r with
  | .error refusal => .refused (.ofRefusal refusal)
  | .ok () =>
    match upgradeFault? r with
    | some fault => .refused (.plain fault.status fault.message)
    | none => .accepted

/-! ## 2. Places -/

/-- A place of the server. -/
inductive Place where
  | health
  | session
  | greeting
  | pages (dir : Path)
  deriving DecidableEq, Repr

def placeOf? (server : ServerSettings) (path : List Char) : Option Place :=
  if path = "/health".toList then some .health
  else if path = "/ws/session".toList then some .session
  else match server.webUiDir with
    | some dir => some (.pages (Path.ofString dir))
    | none => if path = ['/'] then some .greeting else none

def health (activeRuns : Nat) : Json.Value := .object
  [("status", .string "healthy"), ("version", .string "0.1.0"), ("active_runs", .whole activeRuns)]

def greeting : String := "Daad Studio"

/-- The response to a request on a connection that cannot become a session.  The files were changed
last at the date `changed`. -/
def answer (server : ServerSettings) (fs : FileSystem) (cwd : Location) (changed activeRuns : Nat)
    (r : Request) : Response :=
  match placeOf? server r.target.path with
  | none => .bare 404
  | some place =>
    if r.method ≠ "GET" ∧ r.method ≠ "HEAD" then .bare 405
    else
      let whole := match place with
        | .health => .json 200 (health activeRuns)
        | .greeting => .plain 200 greeting
        | .pages dir => Pages.page fs cwd changed dir r
        | .session =>
          match openSession (some (.ofSettings server)) r with
          | .refused response => response
          | .accepted =>
            .plain UpgradeFault.transport.status UpgradeFault.transport.message
      if r.method = "HEAD" then whole.withoutBody else whole

end Scriptorium.Web
