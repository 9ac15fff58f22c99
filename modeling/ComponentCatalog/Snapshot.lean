import ComponentCatalog.FileTree
import ComponentCatalog.Json.Basic

namespace ComponentCatalog

-- A disk written down as JSON: its current directory, its files with their contents, and its
-- folders. Relative paths start at the current directory.
structure Snapshot where
  cwd     : Path
  files   : List (Path × String)
  folders : List Path

namespace Snapshot

def path? : Json → Option Path
  | .string s => some (.ofString s)
  | _         => none

def file? : Json → Option (Path × String)
  | .array [.string p, .string content] => some (.ofString p, content)
  | _                                   => none

-- A member that is left out is an empty list.
def list? (key : String) (v : Json) : Option (List Json) :=
  match v.get? key with
  | none             => some []
  | some (.array vs) => some vs
  | some _           => none

def ofJson? (v : Json) : Option Snapshot := do
  return {
    cwd     := ← path? (← v.get? "cwd")
    files   := ← (← list? "files" v).mapM file?
    folders := ← (← list? "dirs" v).mapM path? }

def disk (s : Snapshot) : Disk :=
  let cwd := s.cwd.segments []
  let t := FileTree.addFolder cwd (.folder [])
  let t := s.folders.foldl (fun t p => t.addFolder (p.segments cwd)) t
  let t := s.files.foldl (fun t (p, content) => t.write content.toUTF8 (p.segments cwd)) t
  ⟨t, cwd⟩

end Snapshot
end ComponentCatalog
