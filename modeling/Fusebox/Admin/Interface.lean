import Fusebox.Admin.Route
import Fusebox.Document.Compact
import Fusebox.Registry

/-! The admin interface: what it answers to a request, and what that does to the
breakers. Showing a breaker applies deadlines that have passed, as any use of it
does. A request without the right key is turned away before anything is looked up. -/
namespace Fusebox.Admin

/-- The version of the service. -/
def version : String := "0.1.0"

/-- A request. Header values are plain bytes. -/
structure Request where
  method : String
  uri : String
  /-- The values of all authorization headers, in order. -/
  authorization : List (List UInt8)

/-- An answer. -/
structure Response where
  status : Nat
  contentType : Option String := none
  /-- The methods that would have been understood. -/
  allow : Option String := none
  body : String := ""
deriving DecidableEq

/-- Bytes that header values may have to be read as text: the visible characters of
ASCII, the space and the tab. -/
def isVisible (byte : UInt8) : Bool := byte == 0x9 || (0x20 ≤ byte && byte < 0x7F)

/-- The header value that presents a key. -/
def credentials (key : String) : List UInt8 := ("Bearer " ++ key).toUTF8.data.toList

/-- Whether a request may pass: what `admin_auth_middleware` decides. Without a key everyone
may; otherwise the first authorization header has to be readable and has to present the
key. -/
def authorizes (key : String) (authorization : List (List UInt8)) : Bool :=
  key.isEmpty ||
    match authorization with
    | [] => false
    | value :: _ => value.all isVisible && value == credentials key

/-- An answer in JSON. -/
def document (tree : Tree) : Response :=
  { status := 200, contentType := some "application/json", body := Document.compact tree }

/-- An answer in words. -/
def words (status : Nat) (body : String) : Response :=
  { status, contentType := some "text/plain; charset=utf-8", body }

/-- The state of the service (`SystemStatus`): degraded as long as any breaker is open. -/
def statusTree (openNames : List String) : Tree := .table [
  ("version", .text version),
  ("status", .text (if openNames.isEmpty then "operational" else "degraded")),
  ("open_breakers", .list (openNames.map .text))]

/-- Breakers by name. -/
def snapshotsTree (snapshots : List (String × Snapshot)) : Tree :=
  .table (snapshots.map fun (name, snapshot) => (name, snapshot.tree))

/-- What a route shows (`get_status`, `get_breakers`, `get_breaker`). -/
def show_ (registry : Registry) (reading : Reading) : Route → Step Effect Registry Response
  | .status => (registry.openNames reading).map fun names => document (statusTree names)
  | .breakers => (registry.readAll reading).map fun snapshots => document (snapshotsTree snapshots)
  | .breaker segment =>
    match Text.percentDecoded? segment with
    | none => .pure registry (words 400 "Invalid URL: Invalid UTF-8 in \x60name\x60")
    | some name =>
      match registry.find? name with
      | none => .pure registry (words 404 "Circuit breaker not found")
      | some b =>
        (registry.run b (·.read reading)).map fun snapshot => document snapshot.tree

/-- The methods that routes understand. -/
def understood : List String := ["GET", "HEAD"]

/-- The answer to a request that may pass: the routes of `setup_admin_router`. Asking for
the head of an answer does all that asking for the answer does, and leaves out its body. -/
def serve (registry : Registry) (request : Request) (reading : Reading) :
    Step Effect Registry Response :=
  match Route.ofPath? (pathOf request.uri) with
  | none => .pure registry { status := 404 }
  | some route =>
    if request.method = "GET" then show_ registry reading route
    else if request.method = "HEAD" then
      (show_ registry reading route).map fun response => { response with body := "" }
    else .pure registry { status := 405 }

/-- The methods to name in an answer: those of a route that was asked for with
another one. -/
def allowed (request : Request) : Option String :=
  if (Route.ofPath? (pathOf request.uri)).isSome && !understood.contains request.method then
    some (",".intercalate understood)
  else none

/-- The answer to a request: all of `setup_admin_router`, with `admin_auth_middleware` in front. -/
def respond (registry : Registry) (key : String) (request : Request) (reading : Reading) :
    Step Effect Registry Response :=
  let answer :=
    if authorizes key request.authorization then serve registry request reading
    else
      (Step.pure registry { status := 401 }).after [
        .event (.unauthenticated (pathOf request.uri))]
  answer.map fun response => { response with allow := allowed request }

end Fusebox.Admin
