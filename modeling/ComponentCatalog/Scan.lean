import ComponentCatalog.FileTree

namespace ComponentCatalog.Scan

abbrev Extensions := List String

def defaultExtensions : Extensions := [".ts", ".tsx"]

def isSource (extensions : Extensions) (name : String) : Bool :=
  extensions.any fun e => e.toList.isSuffixOf name.toList

def byName (es : List (String × α)) : List (String × α) :=
  es.mergeSort fun a b => !(b.1 < a.1)

mutual

-- The ways from the entry `name` to the sources in it.
def found (extensions : Extensions) (name : String) : FileTree → List (List String)
  | .file _    => if isSource extensions name then [[name]] else []
  | .folder es => ((byName (foundEach extensions es)).flatMap Prod.snd).map (name :: ·)

def foundEach (extensions : Extensions) :
    List (String × FileTree) → List (String × List (List String))
  | []             => []
  | (name, t) :: es => (name, found extensions name t) :: foundEach extensions es

end

-- Depth first and in the order of their names. A folder is searched whatever its own name.
def sources (extensions : Extensions) : FileTree → List (List String)
  | .file _    => []
  | .folder es => (byName (foundEach extensions es)).flatMap Prod.snd

-- An empty list of extensions stands for the default one. There is no answer for a root that cannot
-- be the name of a place.
def scan? (d : Disk) (extensions : Extensions) (root : Path) : Option (List Path) :=
  let extensions := if extensions.isEmpty then defaultExtensions else extensions
  if root.hasNul then none
  else
    match d.find? root with
    | some t =>
      some ((sources extensions t).map fun names => { root with parts := root.parts ++ names })
    | none   => some []

end ComponentCatalog.Scan
