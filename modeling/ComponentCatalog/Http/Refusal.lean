import ComponentCatalog.Http.Basic
import ComponentCatalog.Mcp.Server

namespace ComponentCatalog.Http

-- Why a session's transport refuses a request.
inductive Refusal
  -- before anything else is looked at
  | contentType
  | host
  | origin
  -- in the session's name
  | terminated
  | acceptsNoJson
  | acceptsNotBoth
  | acceptsNoStream
  | mediaType
  | notText
  | notJson
  | notMessage
  | version (asked : String)
  | method

namespace Refusal

def status : Refusal → Nat
  | .contentType     => 400
  | .host            => 421
  | .origin          => 403
  | .terminated      => 404
  | .acceptsNoJson   => 406
  | .acceptsNotBoth  => 406
  | .acceptsNoStream => 406
  | .mediaType       => 415
  | .notText         => 500
  | .notJson         => 400
  | .notMessage      => 400
  | .version _       => 400
  | .method          => 405

def code : Refusal → Int
  | .notText    => -32603
  | .notJson    => -32700
  | .notMessage => -32602
  | _           => -32600

def message : Refusal → String
  | .contentType     => "Invalid Content-Type header"
  | .host            => "Invalid Host header"
  | .origin          => "Invalid Origin header"
  | .terminated      => "Not Found: Session has been terminated"
  | .acceptsNoJson   => "Not Acceptable: Client must accept application/json"
  | .acceptsNotBoth  =>
    "Not Acceptable: Client must accept both application/json and text/event-stream"
  | .acceptsNoStream => "Not Acceptable: Client must accept text/event-stream"
  | .mediaType       => "Unsupported Media Type: Content-Type must be application/json"
  | .notText         => "Error handling POST request"
  | .notJson         => "Parse error: not a JSON text"
  | .notMessage      => "Validation error: not a message"
  | .version asked   =>
    "Bad Request: Unsupported protocol version: " ++ asked ++ ". Supported versions: " ++
      ", ".intercalate Mcp.Server.versions
  | .method          => "Method Not Allowed"

-- Whether the refusal is a bare text, without a content type and without the session's name.
def isBare : Refusal → Bool
  | .contentType | .host | .origin => true
  | _                              => false

def response (e : Refusal) (session : String) : Response :=
  if e.isBare then .make e.status none none (.text e.message)
  else
    { Response.json e.status (some session)
        (Mcp.errorResponse (.string "server-error") e.code e.message none) with
      allow := match e with
        | .method => ["DELETE", "GET", "POST"]
        | _       => [] }

end Refusal
end ComponentCatalog.Http
