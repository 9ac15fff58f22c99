import ComponentCatalog.Catalog.Cache
import ComponentCatalog.Component.Source
import ComponentCatalog.Scan

namespace ComponentCatalog

inductive Scanned
  | paths (ps : List Path)
  | failed
  | aborted (reason : String)

structure Loader where
  -- what the scan of the load of a given number finds on a disk
  scan     : Nat → Disk → Scanned
  -- the record of a source, unless that cannot be made
  parse    : Disk → Path → Option Component
  defaults : List Component

namespace Loader

-- One record for each source that a scan finds, or the defaults, if the scan finds nothing or
-- something fails on the way.
def load (l : Loader) (d : Disk) : Load := fun n =>
  match l.scan n d with
  | .aborted reason => .aborted reason
  | .failed         => .loaded l.defaults
  | .paths ps       =>
    match ps.mapM (l.parse d) with
    | none | some [] => .loaded l.defaults
    | some records   => .loaded records

def defaultComponents : List Component := [
  { name         := "Preview"
    path         := "src/components/Preview.tsx"
    props        := .ofList [("code", ⟨"string", false⟩)]
    usage        := "<Preview code=\x7bgeneratedCode\x7d />"
    dependencies := ["react"] },
  { name         := "FileExplorer"
    path         := "src/components/FileExplorer.tsx"
    props        := .ofList [
      ("files", ⟨"GeneratedFile[]", false⟩),
      ("onOpenFile", ⟨"(file: GeneratedFile) => void", false⟩),
      ("onDeleteFile", ⟨"(path: string) => void", false⟩)]
    usage        := "<FileExplorer files=\x7bfiles\x7d onOpenFile=\x7bhandleOpenFile\x7d" ++
      " onDeleteFile=\x7bhandleDeleteFile\x7d />"
    dependencies := ["react"] }]

-- Scans a directory and names the sources from a project root.
def standard (componentsDir projectRoot : Path) : Loader where
  scan _ d  := (Scan.scan? d Scan.defaultExtensions componentsDir).elim .failed .paths
  parse d p := (Component.ofFile d p projectRoot).check.toOption
  defaults  := defaultComponents

end Loader
end ComponentCatalog
