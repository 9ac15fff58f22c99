import ComponentCatalog.Path

namespace ComponentCatalog

-- A disk as a tree of named entries. There are no links, all names are texts, and everything may be
-- read.
inductive FileTree
  | file (content : ByteArray)
  | folder (entries : List (String × FileTree))

namespace FileTree

def isFolder : FileTree → Bool
  | .folder _ => true
  | .file _   => false

def child? (t : FileTree) (name : String) : Option FileTree :=
  match t with
  | .folder es => es.lookup name
  | .file _    => none

-- A path is walked one segment at a time: one through a missing folder leads nowhere, even if a
-- later `..` leaves that folder again. `above` holds the folders around the entry, the innermost
-- first.
def walk? (above : List FileTree) (t : FileTree) : List String → Option FileTree
  | []      => some t
  | s :: ss =>
    if s = ".." then
      match t, above with
      | .file _, _            => none
      | .folder _, []         => walk? [] t ss
      | .folder _, up :: rest => walk? rest up ss
    else
      match t.child? s with
      | some c => walk? (t :: above) c ss
      | none   => none

def setEntry (name : String) (t : FileTree) : List (String × FileTree) → List (String × FileTree)
  | []           => [(name, t)]
  | (n, u) :: es => if n = name then (n, t) :: es else (n, u) :: setEntry name t es

-- Puts an entry at a place, with the folders on the way there.
def put (new : FileTree) : List String → FileTree → FileTree
  | [], _           => new
  | s :: ss, .folder es =>
    .folder (setEntry s (put new ss ((es.lookup s).getD (.folder []))) es)
  | s :: ss, .file _    => .folder [(s, put new ss (.folder []))]

def write (content : ByteArray) (place : List String) (t : FileTree) : FileTree :=
  put (.file content) place t

def addFolder (place : List String) (t : FileTree) : FileTree :=
  match walk? [] t place with
  | some (.folder _) => t
  | _                => put (.folder []) place t

def delete : List String → FileTree → FileTree
  | [s], .folder es     => .folder (es.filter (·.1 ≠ s))
  | s :: ss, .folder es =>
    match es.lookup s with
    | some t => .folder (setEntry s (delete ss t) es)
    | none   => .folder es
  | _, t                => t

end FileTree

-- The whole disk, seen from a current directory.
structure Disk where
  root : FileTree
  cwd  : List String

namespace Disk

def find? (d : Disk) (p : Path) : Option FileTree :=
  d.root.walk? [] (if p.isAbsolute then p.parts else d.cwd ++ p.parts)

def read? (d : Disk) (p : Path) : Option ByteArray :=
  match d.find? p with
  | some (.file content) => some content
  | _                    => none

def isFolder (d : Disk) (p : Path) : Bool :=
  match d.find? p with
  | some t => t.isFolder
  | none   => false

def modify (d : Disk) (p : Path) (f : List String → FileTree → FileTree) : Disk :=
  { d with root := f (p.segments d.cwd) d.root }

end Disk
end ComponentCatalog
