import ComponentCatalog.Mcp.Message
import ComponentCatalog.Session.Store

namespace ComponentCatalog

inductive Route
  | start
  | resume (h : Handle)
  | rejectPost
  | rejectRequest
  | rejectHost (host : Option String)
deriving DecidableEq, Repr

-- An empty list allows every host, even if none is named.
def hostAllowed (allowed : List String) (host : Option String) : Bool :=
  allowed.isEmpty || host.any allowed.contains

namespace Route

def namesNoSession (session : Option String) : Bool :=
  session.all (· = "")

-- A request that names a live session goes to it. Any other request is refused, except a post that
-- opens a session and comes to an allowed host.
def of (allowed : List String) (store : SessionStore) (method : String) (session : Option String)
    (payload : Json) (host : Option String) : Route :=
  match store.get? session with
  | some h => .resume h
  | none   =>
    if method ≠ "POST" then .rejectRequest
    else if !(namesNoSession session && Mcp.isInitialize payload) then .rejectPost
    else if hostAllowed allowed host then .start
    else .rejectHost host

end Route
end ComponentCatalog
