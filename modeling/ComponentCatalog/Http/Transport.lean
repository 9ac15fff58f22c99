import ComponentCatalog.Http.Refusal
import ComponentCatalog.Session.Store

namespace ComponentCatalog.Http

-- The transport of a session. Its checks come in a fixed order, and the first that fails decides.
structure Transport where
  hosts        : List String
  origins      : List String
  jsonResponse : Bool

namespace Transport

-- A list entry that ends in `:*` allows every port.
def allows (allowed : List String) (value : String) : Bool :=
  allowed.contains value || allowed.any fun a =>
    ":*".toList.isSuffixOf a.toList && a.toList.dropLast.isPrefixOf value.toList

def declaresJson (r : Request) : Bool :=
  (r.header? "content-type").any fun t =>
    Response.jsonType.toList.isPrefixOf (Text.lower t.toList)

def hostFits (t : Transport) (r : Request) : Bool :=
  (r.header? "host").any fun h => h ≠ "" && allows t.hosts h

def originFits (t : Transport) (r : Request) : Bool :=
  (r.header? "origin").all fun o => o = "" || allows t.origins o

def secure (t : Transport) (r : Request) : Except Refusal Unit :=
  if r.method = "POST" && !declaresJson r then .error .contentType
  else if t.hosts.isEmpty then .ok ()
  else if !t.hostFits r then .error .host
  else if !t.originFits r then .error .origin
  else .ok ()

def accepts (r : Request) (type : String) : Bool :=
  (Text.splitOn ',' ((r.header? "accept").getD "").toList).any fun part =>
    type.toList.isPrefixOf (Text.trim part)

def checkAccept (t : Transport) (r : Request) : Except Refusal Unit :=
  if t.jsonResponse then
    if accepts r Response.jsonType then .ok () else .error .acceptsNoJson
  else if accepts r Response.jsonType && accepts r Response.streamType then .ok ()
  else .error .acceptsNotBoth

def checkMediaType (r : Request) : Except Refusal Unit :=
  let types := (((r.header? "content-type").getD "").toList).takeWhile (· != ';')
  if (Text.splitOn ',' types).any fun part => Text.trim part == Response.jsonType.toList then .ok ()
  else .error .mediaType

def checkVersion (r : Request) : Except Refusal Unit :=
  match r.header? "mcp-protocol-version" with
  | none   => .ok ()
  | some v => if Mcp.Server.versions.contains v then .ok () else .error (.version v)

def isOpening : Mcp.Envelope → Bool
  | .request _ "initialize" _ => true
  | _                         => false

def envelope? (r : Request) : Except Refusal Mcp.Envelope :=
  match Text.decodeDetected? r.body with
  | none    => .error .notText
  | some t =>
    match Json.readRaw t with
    | .error _ => .error .notJson
    | .ok v    =>
      match Mcp.Envelope.ofJson? (Mcp.seen v) with
      | none   => .error .notMessage
      | some e => .ok e

def post (t : Transport) (r : Request) : Except Refusal Mcp.Envelope := do
  t.checkAccept r
  checkMediaType r
  let e ← envelope? r
  unless isOpening e do checkVersion r
  return e

def reply (t : Transport) (session : String) (v : Json) : Response :=
  if t.jsonResponse then .json 200 (some session) v
  else .make 200 (some Response.streamType) (some session) (.events [v])

-- What the sessions share.
structure Shared where
  enabled : List Operation
  catalog : Catalog

inductive Effect
  | none
  | terminate
deriving DecidableEq

def handlePost (t : Transport) (s : Shared) (session : String) (r : Request) :
    Shared × Response :=
  match t.post r with
  | .error e => (s, e.response session)
  | .ok (.request id method params) =>
    let (catalog, v) := Mcp.Server.answer s.enabled s.catalog id method params
    ({ s with catalog }, t.reply session v)
  | .ok _    => (s, .make 202 (some Response.jsonType) (some session) .empty)

-- Nothing is kept for a stream that is taken up again, and nothing is said about it.
def resumes (r : Request) : Bool :=
  (r.header? "last-event-id").any (· ≠ "")

def handleGet (session : String) (r : Request) : Option Response :=
  let checked : Except Refusal Unit := do
    unless accepts r Response.streamType do throw .acceptsNoStream
    checkVersion r
  match checked with
  | .error e => some (e.response session)
  | .ok ()   =>
    if resumes r then none
    else some (.make 200 (some Response.streamType) (some session) (.events []))

def handleDelete (session : String) (r : Request) : Response × Effect :=
  match checkVersion r with
  | .error e => (e.response session, .none)
  | .ok ()   => (.make 200 (some Response.jsonType) (some session) .empty, .terminate)

def handle (t : Transport) (s : Shared) (session : Session) (r : Request) :
    Shared × Option Response × Effect :=
  match t.secure r with
  | .error e => (s, some (e.response session.id), .none)
  | .ok ()   =>
    if session.terminated then (s, some (Refusal.response .terminated session.id), .none)
    else
      match r.method with
      | "POST"   =>
        let (s, response) := t.handlePost s session.id r
        (s, some response, .none)
      | "GET"    => (s, handleGet session.id r, .none)
      | "DELETE" =>
        let (response, effect) := handleDelete session.id r
        (s, some response, effect)
      | _        => (s, some (Refusal.response .method session.id), .none)

end Transport
end ComponentCatalog.Http
