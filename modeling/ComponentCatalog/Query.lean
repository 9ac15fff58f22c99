import ComponentCatalog.Component.Basic
import ComponentCatalog.Path
import ComponentCatalog.Text.Lowercase

namespace ComponentCatalog

inductive Category
  | ui
  | layout
  | forms
  | all
deriving DecidableEq, Repr

namespace Category

def name : Category → String
  | .ui     => "ui"
  | .layout => "layout"
  | .forms  => "forms"
  | .all    => "all"

def ofName? (s : String) : Option Category :=
  [ui, layout, forms, all].find? (·.name == s)

end Category

namespace Component

-- The folders on a record's path. Backslashes separate them as well, and so does the root itself.
def folders (c : Component) : List String :=
  let p := Path.ofString (c.path.map fun x => if x = '\\' then '/' else x)
  (if p.isAbsolute then p.anchor.text :: p.parts else p.parts).dropLast

def matchesName (c : Component) (category : String) : Bool :=
  category = "all" || c.folders.contains category ||
    Text.occurs category.toList (Text.lower c.name.toList)

-- A category is a folder on the way to the source, or a part of the name.
def matchesCategory (c : Component) (category : Category) : Bool :=
  c.matchesName category.name

def isNamed (c : Component) (name : String) : Bool :=
  Text.lowercase c.name == Text.lowercase name

end Component

-- The first component of a name, whatever the case.
def findByName (cs : List Component) (name : String) : Option Component :=
  cs.find? (·.isNamed name)

end ComponentCatalog
