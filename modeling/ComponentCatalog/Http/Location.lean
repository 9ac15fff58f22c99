import ComponentCatalog.Http.Basic
import ComponentCatalog.Text.Percent
import ComponentCatalog.Url.Address

namespace ComponentCatalog.Http.Location

open Text

def marks : String := "-._~!$&'()*+,;="

-- A registered name, in which other characters are percent encoded.
def isName : List Char → Bool
  | []               => true
  | '%' :: a :: b :: s => (hexValue? a).isSome && (hexValue? b).isSome && isName s
  | c :: s           => (c.isAlphanum || marks.toList.contains c) && isName s

def isPort : List Char → Bool
  | []      => true
  | c :: ds =>
    c == ':' && ds.all Char.isDigit &&
      ds.foldl (fun n d => 10 * n + (d.toNat - '0'.toNat)) 0 < Nat.pow 2 16

def isHost (s : List Char) : Bool :=
  match s with
  | '[' :: s =>
    match s.span (· != ']') with
    | (address, _ :: port) => (Url.Address.groups? address).isSome && isPort port
    | (_, [])              => false
  | s        =>
    let (name, port) := s.span (· != ':')
    !name.isEmpty && isName name && isPort port

def host (r : Request) : String :=
  match r.header? "host" with
  | some h => if isHost h.toList then h else r.server
  | none   => r.server

def withoutSlashes (path : String) : String :=
  String.ofList ((path.toList.reverse.dropWhile (· == '/')).reverse)

-- The path with its final slashes taken away, or with one added.
def otherPath (path : String) : String :=
  if path.toList.getLast? = some '/' then withoutSlashes path else path ++ "/"

def isPlainInPath (c : Char) : Bool :=
  c.isAlphanum || marks.toList.contains c || "/:@".toList.contains c

def isPlainInQuery (c : Char) : Bool :=
  c.isAlphanum || marks.toList.contains c || "/:@#?%[]".toList.contains c

-- The location repeats the host header of the request, if that can be the host of an address, and
-- else names the server.
def ofRequest (r : Request) : String :=
  let query := if r.query = "" then [] else '?' :: percentEncode isPlainInQuery r.query.toList
  "http://" ++ host r ++
    String.ofList (percentEncode isPlainInPath (otherPath r.path).toList ++ query)

end ComponentCatalog.Http.Location
