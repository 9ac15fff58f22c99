import ComponentCatalog.Http.Location
import ComponentCatalog.Http.PathTemplate
import ComponentCatalog.Http.Transport
import ComponentCatalog.Session.Gateway
import ComponentCatalog.Session.Route
import ComponentCatalog.Settings

namespace ComponentCatalog.Http

-- One path serves every client. The sessions behind it share the catalog.
structure App where
  path      : PathTemplate
  transport : Transport
  shared    : Transport.Shared
  gateway   : Gateway

-- Why a request gets no answer of the application's own.
inductive Crash
  | unreadable (e : Json.ReadError)
  -- The answer would hold a text that has no encoding.
  | unencodable
  | gateway (e : GatewayError)

namespace App

def create (settings : Settings) (enabled : List Operation) (catalog : Catalog) :
    Except TemplateError App := do
  return {
    path      := ← PathTemplate.ofString? settings.path
    transport := {
      hosts        := settings.allowedHosts
      origins      := settings.allowedOrigins
      jsonResponse := settings.jsonResponse }
    shared    := { enabled, catalog }
    gateway   := .stopped }

def catalog (a : App) : Catalog :=
  a.shared.catalog

def run (a : App) : Except GatewayError App := do
  return { a with gateway := ← a.gateway.run }

def shutdown (a : App) : App :=
  { a with gateway := a.gateway.shutdown }

def serverError : Response :=
  .plain 500 "Internal Server Error"

-- There may be no response at all.
abbrev Answered := Except Crash (Option Response)

def answered (response : Response) : Answered :=
  .ok (some response)

-- A request method that no session handles is answered here, with its own name and id.
def shortcut? (r : Request) (payload : RawJson) : Option Answered :=
  if r.method ≠ "POST" then none
  else
    match Mcp.Message.classify (Mcp.seen payload) with
    | .unsupported method id => some <|
      if Mcp.torn payload then .error .unencodable
      else answered (.json 200 none (Mcp.methodNotFound method id))
    | _                      => none

def resume (a : App) (h : Handle) (r : Request) (payload : RawJson) : App × Answered :=
  match shortcut? r payload, a.gateway.store.session? h with
  | some answer, _     => (a, answer)
  | none, none         => (a, answered serverError)
  | none, some session =>
    match a.transport.handle a.shared session r with
    | (shared, response, .none)      =>
      ({ a with shared, gateway := a.gateway.settle h }, .ok response)
    | (shared, response, .terminate) =>
      ({ a with shared, gateway := (a.gateway.terminate h).settle h }, .ok response)

-- A new session with the id `fresh` handles the request that opens it.
def start (a : App) (fresh : String) (r : Request) : App × Answered :=
  match a.gateway.reserve fresh with
  | .error e         => (a, .error (.gateway e))
  | .ok (gateway, h) =>
    let (shared, response, _) := a.transport.handle a.shared (.fresh fresh) r
    ({ a with shared, gateway := gateway.conclude h (.completed (response.map (·.status))) },
      .ok response)

def payload (r : Request) : Except Json.ReadError RawJson :=
  if r.method = "POST" then Mcp.decodeBody r.body else .ok .null

def route (a : App) (r : Request) (payload : RawJson) : Route :=
  .of a.transport.hosts a.gateway.store r.method r.session? (Mcp.seen payload)
    (some ((r.header? "host").getD ""))

-- What happens to a request for the application's path.
def multiplex (a : App) (fresh : String) (r : Request) : App × Answered :=
  match payload r with
  | .error e => (a, .error (.unreadable e))
  | .ok v    =>
    match a.route r v with
    | .resume h      => a.resume h r v
    | .start         => a.start fresh r
    | .rejectHost _  => (a, answered (.plain 421 "Invalid Host header"))
    | .rejectPost    => (a, answered (.json 400 none Mcp.badSession))
    | .rejectRequest => (a, answered (.plain 400 "Invalid or missing session ID"))

def methods : List String := ["DELETE", "GET", "HEAD", "POST"]

def redirect (r : Request) : Response :=
  { Response.make 307 none none .empty with location := some (Location.ofRequest r) }

def handle (a : App) (fresh : String) (r : Request) : App × Answered :=
  if a.path.takes r.path then
    if methods.contains r.method then a.multiplex fresh r
    else (a, answered { Response.plain 405 "Method Not Allowed" with allow := methods })
  else if r.path ≠ "/" && a.path.takes (Location.otherPath r.path) then (a, answered (redirect r))
  else (a, answered (.plain 404 "Not Found"))

end App
end ComponentCatalog.Http
