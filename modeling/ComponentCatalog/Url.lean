import ComponentCatalog.Text.Blank
import ComponentCatalog.Url.Authority
import ComponentCatalog.Url.Segment

namespace ComponentCatalog

structure Url where
  scheme    : List Char
  -- user, host and port, if the scheme is followed by two slashes
  authority : Option (List Char)
  path      : List Char
  query     : Option (List Char)
  fragment  : Option (List Char)

namespace Url

open Text

def clean (s : List Char) : List Char :=
  (trimBy (·.toNat ≤ 0x20) s).filter fun c => c ≠ '\t' ∧ c ≠ '\n' ∧ c ≠ '\r'

def ofHierarchy? (scheme : List Char) (isLast : Bool) (s : List Char) :
    Option (List Char × List Char) := do
  let special := isSpecial scheme
  let s ← if special then some (s.dropWhile fun c => c = '/' ∨ c = '\\')
    else after? "//".toList s
  let (authority, path) := upTo (if special then "/\\" else "/") s
  let (authority, rest) ← authority? scheme (isLast && path.isEmpty) authority
  return (authority, pathFrom special (rest ++ path))

-- The host of a file, and its path if that is not to begin with the next slash. A drive is no host.
def fileHost? (s : List Char) : Option (List Char × List Char) := do
  let (host, rest) := upTo "/" s
  if isDrive host then return ([], s)
  let host ← if host.isEmpty then some [] else host? true host
  if host.isEmpty || host == "localhost".toList then return ([], rest)
  return (host, rest.drop 1)

-- Neither a host nor empty segments stand before a drive, and no empty ones begin a path.
def ofFile? (s : List Char) : Option (List Char × List Char) := do
  let s := s.map fun c => if c = '\\' then '/' else c
  let (host, path) ← match after? "//".toList s with
    | some s => fileHost? s
    | none   => some ([], (after? ['/'] s).getD s)
  let segments := onDrive (walk [] (splitOn '/' path))
  let host := if segments.head?.any isDrive then [] else host
  let path := rooted (segments.dropWhile (·.isEmpty))
  return (host, if path.isEmpty then ['/'] else path)

def parse? (text : String) : Option Url := do
  let (scheme, s) ← scheme? (clean text.toList)
  let (s, fragment) := s.span (· != '#')
  let (s, query) := s.span (· != '?')
  let (authority, path) ←
    if isFile scheme then (ofFile? s).map fun (a, p) => (some a, p)
    else if isSpecial scheme || "//".toList.isPrefixOf s then
      (ofHierarchy? scheme (query.isEmpty && fragment.isEmpty) s).map fun (a, p) => (some a, p)
    else if s.head? == some '/' then some (none, pathFrom false s)
    else some (none, percentEncode visible s)
  return {
    scheme, authority, path
    query    := if query.isEmpty then none
                else some (percentEncode (inQuery (isSpecial scheme || isFile scheme)) query.tail)
    fragment := if fragment.isEmpty then none else some (percentEncode inFragment fragment.tail) }

-- Without an authority, a path must not look like one.
def beforePath (u : Url) : List Char :=
  match u.authority with
  | some a => "//".toList ++ a
  | none   => if "//".toList.isPrefixOf u.path then "/.".toList else []

def toString (u : Url) : String :=
  String.ofList (u.scheme ++ [':'] ++ u.beforePath ++ u.path ++
    u.query.elim [] ('?' :: ·) ++ u.fragment.elim [] ('#' :: ·))

-- Small letters in the scheme, ASCII names for hosts, no default port, no dot segments, and percent
-- encoding where a part needs it.
def normalize? (text : String) : Option String :=
  (parse? text).map toString

end Url
end ComponentCatalog
