import ComponentCatalog.Json.Basic

namespace ComponentCatalog.Http

-- Header names are written in small letters.
structure Request where
  -- the address under which the request reached the server
  server  : String
  method  : String
  path    : String
  query   : String
  headers : List (String × String)
  body    : ByteArray

namespace Request

-- Each byte of a header stands for the character of that number.
def headerValue (bytes : ByteArray) : String :=
  String.ofList (bytes.toList.map fun b => Char.ofNat b.toNat)

def header? (r : Request) (name : String) : Option String :=
  r.headers.lookup name

def session? (r : Request) : Option String :=
  r.header? "mcp-session-id"

end Request

inductive Body
  | empty
  | text (s : String)
  | json (v : Json)
  -- a stream of messages
  | events (vs : List Json)

structure Response where
  status      : Nat
  contentType : Option String
  session     : Option String
  body        : Body
  location    : Option String
  allow       : List String

namespace Response

def jsonType : String := "application/json"

def streamType : String := "text/event-stream"

def make (status : Nat) (contentType session : Option String) (body : Body) : Response where
  status      := status
  contentType := contentType
  session     := session
  body        := body
  location    := none
  allow       := []

def plain (status : Nat) (text : String) : Response :=
  make status (some "text/plain") none (.text text)

def json (status : Nat) (session : Option String) (v : Json) : Response :=
  make status (some jsonType) session (.json v)

end Response
end ComponentCatalog.Http
