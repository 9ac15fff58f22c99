import ComponentCatalog.Text.Percent
import ComponentCatalog.Url.Address
import ComponentCatalog.Url.Domain
import ComponentCatalog.Url.Plain
import ComponentCatalog.Url.Scheme

namespace ComponentCatalog.Url

open Text

-- The text before the first of some characters, and the rest.
def upTo (stops : String) (s : List Char) : List Char × List Char :=
  s.span (!stops.toList.contains ·)

def isForbiddenInHost (c : Char) : Bool :=
  "\x00\t\n\r #/:<>?@[\\]^|".toList.contains c

def domain? (s : List Char) : Option (List Char) := do
  let name ← String.fromUTF8? ⟨(percentDecode s).toArray⟩
  let name ← Domain.toAscii? name.toList
  guard (!name.isEmpty && name.all fun c => visible c && !isForbiddenInHost c && c != '%')
  let labels := splitOn '.' name
  let labels := if labels.getLast? == some [] then labels.dropLast else labels
  if Address.endsInNumber labels then Address.bytes? labels else some name

-- The address in brackets, behind the opening one.
def bracketed? (s : List Char) : Option (List Char) := do
  guard (s.getLast? = some ']')
  return '[' :: Address.shown (← Address.groups? s.dropLast) ++ [']']

-- Special schemes have a domain or an address as their host, others have it as it is written.
def host? (special : Bool) : List Char → Option (List Char)
  | '[' :: s => bracketed? s
  | s        =>
    if special then domain? s
    else if s.any isForbiddenInHost then none
    else some (percentEncode visible s)

-- Host and port. Colons in brackets belong to the host.
def cutPort (inside : Bool) : List Char → List Char × List Char
  | []     => ([], [])
  | c :: s =>
    if c = ':' ∧ !inside then ([], c :: s)
    else
      let (host, port) := cutPort (c = '[' ∨ (inside ∧ c ≠ ']')) s
      (c :: host, port)

def port? (scheme : List Char) : List Char → Option (List Char)
  | []      => some []
  | _ :: ds => do
    guard (ds.all Char.isDigit)
    let n := ds.foldl (fun n d => 10 * n + (d.toNat - '0'.toNat)) 0
    guard (n < Nat.pow 2 16)
    if ds.isEmpty || defaultPorts.lookup (String.ofList scheme) = some n then some []
    else some (':' :: (toString n).toList)

def user (s : List Char) : List Char :=
  let (name, password) := s.span (· != ':')
  let shown := percentEncode inUser name ++
    (if password.length ≤ 1 then [] else ':' :: percentEncode inUser password.tail)
  if shown.isEmpty then [] else shown ++ ['@']

-- A user and a port need a host. An empty user is none, but it may not stand alone before a path,
-- query or fragment.
def authority? (scheme : List Char) (isLast : Bool) (s : List Char) :
    Option (List Char × List Char) := do
  let (who, place) := match cutLast? '@' s with
    | some (a, b) => (some a, b)
    | none        => (none, s)
  let (name, port) := cutPort false place
  -- a backslash ends the port
  let (port, rest) := upTo "\\" port
  let shown := who.elim [] user
  guard (!name.isEmpty ||
    (!isSpecial scheme && port.isEmpty && shown.isEmpty && (isLast || who != some [])))
  return (shown ++ (← host? (isSpecial scheme) name) ++ (← port? scheme port), rest)

end ComponentCatalog.Url
