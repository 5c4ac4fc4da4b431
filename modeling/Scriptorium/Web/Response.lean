import Scriptorium.Json.Printer
import Scriptorium.Web.Access

/-!
# Responses of the server
-/
namespace Scriptorium.Web

/-- An answer to a request. -/
structure Response where
  status : Nat
  contentType : Option String := none
  body : Bytes := []
  deriving DecidableEq, Repr

namespace Response

/-- A response with nothing but a status. -/
def bare (status : Nat) : Response := { status }

/-- A response with a text. -/
def plain (status : Nat) (text : String) : Response :=
  { status, contentType := some "text/plain; charset=utf-8", body := Text.Utf8.encode text }

/-- A response with a value. -/
def json (status : Nat) (value : Json.Value) : Response :=
  { status, contentType := some "application/json", body := Text.Utf8.encode value.render }

/-- The response to a client that may not open a session. -/
def ofRefusal (r : Refusal) : Response :=
  .json r.status <| .object
    [("success", .bool false), ("error", .string r.message), ("code", .string r.code)]

/-- A response to a request for nothing but the header. -/
def withoutBody (r : Response) : Response := { r with body := [] }

end Response
end Scriptorium.Web
