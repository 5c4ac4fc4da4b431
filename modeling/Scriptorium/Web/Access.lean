import Scriptorium.Settings.Basic
import Scriptorium.Web.Request

/-!
# Who may open a session

Any page that the user visits can try to open a session with a server on the same machine, and
its browser names the page's origin in the request.  So a request that names an origin must name
one that is trusted: one of the configured origins, or the server's own if none is configured.  A
request without an origin does not come from a browser.

If an access token is configured, every request must present it: as a bearer token, as a key of
its own, or in the query, which is the only place a page can put it.  The first of these that is
there counts.

The origin is looked at first, so a foreign page never learns whether its token was right.
-/
namespace Scriptorium.Web

/-- What a client is checked against. -/
structure AccessPolicy where
  /-- The trusted origins, each in its plainest spelling. -/
  origins : List (List Char)
  token : Option String
  deriving DecidableEq, Repr

/-- Why a client may not open a session. -/
inductive Refusal where
  /-- There is nothing to check the client against. -/
  | noPolicy
  | foreignOrigin
  /-- A token is needed, and none was presented. -/
  | noToken
  | wrongToken
  deriving DecidableEq, Repr

/-! ## 1. Origins -/

/-- An origin in its plainest spelling. -/
def plainOrigin (origin : List Char) : List Char := lowered (Text.dropEnd (· = '/') origin)

/-- The origins of the server's own pages. -/
def ownOrigins (server : ServerSettings) : List String :=
  [server.host, "localhost", "127.0.0.1"].map fun host => s!"http://{host}:{server.port}"

/-- The origins that settings trust. -/
def trustedOrigins (server : ServerSettings) : List String :=
  if server.allowedOrigins = [] then ownOrigins server else server.allowedOrigins

/-- The policy of settings.  An empty token is none. -/
def AccessPolicy.ofSettings (server : ServerSettings) : AccessPolicy where
  origins := (trustedOrigins server).map fun o => plainOrigin o.toList
  token := server.accessToken.filter (· ≠ "")

/-- Whether an origin is trusted. -/
def AccessPolicy.trusts (p : AccessPolicy) (origin : List Char) : Bool :=
  p.origins.contains (plainOrigin origin)

/-! ## 2. Tokens -/

/-- A text without blanks and tabs at its ends. -/
def trimmed (cs : List Char) : List Char := Text.trim (fun c => c = ' ' || c = '\t') cs

/-- The token that a request presents. -/
def presentedToken (r : Request) : Option (List Char) :=
  let bearer := (r.text? "authorization").bind (Text.dropStart? "Bearer ".toList)
  (bearer.map trimmed)
    <|> ((r.text? "x-api-key").map trimmed)
    <|> (r.target.parameter "token").head?

/-! ## 3. The decision -/

/-- Makes sure that a client may open a session. -/
def AccessPolicy.check (p : AccessPolicy) (r : Request) : Except Refusal Unit :=
  let originOk := match r.value? "origin" with
    | some value => p.trusts ((readable? value).getD [])
    | none => true
  if originOk then
    match p.token with
    | none => .ok ()
    | some expected =>
      match presentedToken r with
      | none => .error .noToken
      | some token => if token = expected.toList then .ok () else .error .wrongToken
  else .error .foreignOrigin

/-- Makes sure that a client may open a session, if there is a policy. -/
def checkClient (policy : Option AccessPolicy) (r : Request) : Except Refusal Unit :=
  match policy with
  | none => .error .noPolicy
  | some p => p.check r

namespace Refusal

/-- The status of the response to a client that is refused. -/
def status : Refusal → Nat
  | .noPolicy => 500
  | .foreignOrigin => 403
  | .noToken | .wrongToken => 401

/-- The code that a program tells refusals apart by. -/
def code : Refusal → String
  | .noPolicy => "INTERNAL_ERROR"
  | .foreignOrigin => "ORIGIN_NOT_ALLOWED"
  | .noToken => "UNAUTHORIZED"
  | .wrongToken => "INVALID_CREDENTIALS"

/-- The text shown to the user. -/
def message : Refusal → String
  | .noPolicy => "Access policy not configured"
  | .foreignOrigin => "Origin is not allowed"
  | .noToken =>
    "Access token required. Provide Authorization: Bearer <token> or ?token=<token>."
  | .wrongToken => "Invalid access token"

end Refusal
end Scriptorium.Web
