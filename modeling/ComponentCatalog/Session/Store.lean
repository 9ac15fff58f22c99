namespace ComponentCatalog

inductive SessionState
  | opening
  | active
  | closed
deriving DecidableEq, Repr

structure Session where
  id         : String
  state      : SessionState
  -- whether the time of its end is known
  ended      : Bool
  -- whether its transport takes no more requests
  terminated : Bool
deriving DecidableEq, Repr

namespace Session

def fresh (id : String) : Session where
  id         := id
  state      := .opening
  ended      := false
  terminated := false

def isLive (s : Session) : Bool :=
  s.state ≠ .closed

def close (s : Session) : Session :=
  { s with state := .closed, ended := true }

def activate (s : Session) : Session :=
  { s with state := .active }

def terminate (s : Session) : Session :=
  { s with terminated := true }

end Session

inductive SessionError
  | alreadyUsed (id : String)
deriving DecidableEq, Repr

def SessionError.message : SessionError → String
  | .alreadyUsed id => "session id " ++ id ++ " already used"

-- A session is referred to by its handle, the number of sessions that were made before it.
abbrev Handle := Nat

-- The live sessions. One that is removed is closed, and its id is retired: no later session gets
-- it.
structure SessionStore where
  -- every session ever made
  known   : List Session
  -- the live ids, in the order of their addition
  live    : List (String × Handle)
  retired : List String

namespace SessionStore

def empty : SessionStore where
  known   := []
  live    := []
  retired := []

def session? (s : SessionStore) (h : Handle) : Option Session :=
  s.known[h]?

def ids (s : SessionStore) : List String :=
  s.live.map Prod.fst

def contains (s : SessionStore) (id : String) : Bool :=
  s.ids.contains id

def isRetired (s : SessionStore) (id : String) : Bool :=
  s.retired.contains id

def make (s : SessionStore) (id : String) : SessionStore × Handle :=
  ({ s with known := s.known ++ [.fresh id] }, s.known.length)

def modify (s : SessionStore) (h : Handle) (f : Session → Session) : SessionStore :=
  { s with known := s.known.modify h f }

def add (s : SessionStore) (id : String) (h : Handle) : Except SessionError SessionStore :=
  if s.contains id || s.isRetired id then .error (.alreadyUsed id)
  else .ok { s with live := s.live ++ [(id, h)] }

-- The live session of an id. Nothing and the empty text name no session.
def get? (s : SessionStore) : Option String → Option Handle
  | none | some "" => none
  | some id        =>
    (s.live.lookup id).filter fun h => (s.session? h).any Session.isLive

def remove (s : SessionStore) (id : String) : SessionStore × Option Handle :=
  match s.live.lookup id with
  | none   => (s, none)
  | some h =>
    ({ s with live := s.live.filter (·.1 ≠ id), retired := s.retired ++ [id] }.modify h .close,
      some h)

def removeAll (s : SessionStore) : SessionStore × List Handle :=
  let handles := s.live.map Prod.snd
  (handles.foldl (·.modify · .close) { s with live := [], retired := s.retired ++ s.ids }, handles)

end SessionStore
end ComponentCatalog
