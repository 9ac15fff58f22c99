import ComponentCatalog.Component.Imports
import ComponentCatalog.Component.Interface
import ComponentCatalog.Component.Usage
import ComponentCatalog.FileTree
import ComponentCatalog.Text.Newline

namespace ComponentCatalog.Component

def ofText (name path : String) (source : List Char) : Component :=
  let props := Interface.props source
  { name, path, props
    usage        := usageOf name props
    dependencies := (Imports.imports source).map String.ofList }

def bare (name path : String) : Component where
  name         := name
  path         := path
  props        := ∅
  usage        := usageOf name ∅
  dependencies := []

-- What a file of the given content declares, if the content is text.
def ofContent (name path : String) (content : Option ByteArray) : Component :=
  match content.bind String.fromUTF8? with
  | some text => ofText name path (Text.unifyNewlines text.toList)
  | none      => bare name path

-- A file that holds no text still yields a component, without props and dependencies.
def ofFile (d : Disk) (path root : Path) : Component :=
  ofContent path.stem (path.relativeTo d.cwd root) (d.read? path)

def fallback (cwd : List String) (path root : Path) : Component :=
  bare path.stem (path.relativeTo cwd root)

end ComponentCatalog.Component
