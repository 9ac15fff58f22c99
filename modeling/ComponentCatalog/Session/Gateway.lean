import ComponentCatalog.Session.Store

namespace ComponentCatalog

-- The sessions of a server. One is reserved, its opening request is handled, and the start is
-- concluded. Later it ends with its transport, with its loop, or with the server.
structure Gateway where
  store   : SessionStore
  running : Bool

inductive GatewayError
  | notRunning
  | alreadyRunning
  | session (e : SessionError)
deriving DecidableEq, Repr

def GatewayError.message : GatewayError → String
  | .notRunning     => "session multiplexer is not running"
  | .alreadyRunning => "session multiplexer is already running"
  | .session e      => e.message

-- How the handling of an opening request ends: with the status that was sent, if one was, or with
-- an interruption.
inductive StartEnd
  | completed (status : Option Nat)
  | interrupted
deriving DecidableEq, Repr

namespace Gateway

def stopped : Gateway where
  store   := .empty
  running := false

def run (g : Gateway) : Except GatewayError Gateway :=
  if g.running then .error .alreadyRunning else .ok { g with running := true }

-- A new session comes into the store.
def insert (g : Gateway) (id : String) : Except SessionError (Gateway × Handle) :=
  let (store, h) := g.store.make id
  (store.add id h).map fun store => ({ g with store }, h)

def reserve (g : Gateway) (id : String) : Except GatewayError (Gateway × Handle) :=
  if !g.running then .error .notRunning else (g.insert id).mapError .session

def terminate (g : Gateway) (h : Handle) : Gateway :=
  { g with store := g.store.modify h .terminate }

-- Takes the session out of the store, if its id is still there.
def close (g : Gateway) (h : Handle) : Gateway :=
  match g.store.session? h with
  | some s => { g with store := (g.store.remove s.id).1 }
  | none   => g

def activate (g : Gateway) (h : Handle) : Gateway :=
  { g with store := g.store.modify h .activate }

def conclude (g : Gateway) (h : Handle) : StartEnd → Gateway
  | .completed (some status) =>
    if status < 400 then g.activate h else (g.terminate h).close h
  | .completed none => (g.terminate h).close h
  | .interrupted    => g

-- After a request that a session's transport has handled.
def settle (g : Gateway) (h : Handle) : Gateway :=
  if (g.store.session? h).any (·.terminated) then g.close h else g

def loopEnded (g : Gateway) (h : Handle) : Gateway :=
  g.close h

-- All sessions leave the store. Their transports are still to be ended.
def clear (g : Gateway) : Gateway × List Handle :=
  let (store, handles) := g.store.removeAll
  ({ g with store }, handles)

def stop (g : Gateway) : Gateway :=
  { g with running := false }

def shutdown (g : Gateway) : Gateway :=
  let (g, handles) := g.clear
  (handles.foldl terminate g).stop

end Gateway
end ComponentCatalog
