import ComponentCatalog.Text.Split

namespace ComponentCatalog

inductive Anchor
  | none
  | root
  | doubleRoot
deriving DecidableEq, Repr

namespace Anchor

def ofSlashes : Nat → Anchor
  | 0 => .none
  | 2 => .doubleRoot
  | _ => .root

def text : Anchor → String
  | .none       => ""
  | .root       => "/"
  | .doubleRoot => "//"

end Anchor

-- A file path. Repeated slashes and `.` segments vanish when a text is read, whereas `..` segments
-- stay until the path is resolved. A leading double slash is kept, but stands for the same
-- directory as a single one.
structure Path where
  anchor : Anchor
  parts  : List String
deriving DecidableEq, Repr

namespace Path

def ofString (s : String) : Path where
  anchor := .ofSlashes (s.toList.takeWhile (· == '/')).length
  parts  := ((Text.splitOn '/' s.toList).map String.ofList).filter fun p => p ≠ "" ∧ p ≠ "."

def toString (p : Path) : String :=
  match p.anchor, p.parts with
  | .none, [] => "."
  | a, ps     => a.text ++ "/".intercalate ps

-- No disk has a place whose name holds a NUL.
def hasNul (p : Path) : Bool :=
  p.parts.any (·.toList.contains '\x00')

def nulMessage : String := "embedded null byte"

def isAbsolute (p : Path) : Bool :=
  p.anchor != .none

def join (p q : Path) : Path :=
  if q.isAbsolute then q else { p with parts := p.parts ++ q.parts }

def name (p : Path) : String :=
  p.parts.getLastD ""

-- A file name up to its last dot, unless the name starts or ends with that dot.
def stemOf (name : String) : String :=
  match Text.cutLast? '.' name.toList with
  | some (a :: as, _ :: _) => String.ofList (a :: as)
  | _                      => name

def stem (p : Path) : String :=
  stemOf p.name

-- One segment further, where `..` leads back and the root is its own parent.
def descend (place : List String) (segment : String) : List String :=
  if segment = ".." then place.dropLast else place ++ [segment]

-- The segments from the root, for a path that is taken from the directory `cwd`.
def segments (cwd : List String) (p : Path) : List String :=
  p.parts.foldl descend (if p.isAbsolute then [] else cwd)

def resolve (cwd : List String) (p : Path) : Path where
  anchor := .root
  parts  := p.segments cwd

-- The way from one directory to a place: up to the common ancestor, then down.
def detour : List String → List String → List String
  | a :: as, b :: bs =>
    if a = b then detour as bs else (a :: as).map (fun _ => "..") ++ b :: bs
  | as, bs => as.map (fun _ => "..") ++ bs

def relativeTo (cwd : List String) (p root : Path) : String :=
  match detour (root.segments cwd) (p.segments cwd) with
  | [] => "."
  | ss => "/".intercalate ss

end Path
end ComponentCatalog
