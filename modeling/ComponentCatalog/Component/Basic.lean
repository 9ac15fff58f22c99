import ComponentCatalog.OrderedMap
import ComponentCatalog.Schema

namespace ComponentCatalog

structure PropInfo where
  -- the type expression as written
  type     : String
  optional : Bool
deriving DecidableEq, Repr

abbrev Props := OrderedMap PropInfo

namespace Props

def required (props : Props) : List (String × PropInfo) :=
  props.entries.filter (!·.2.optional)

end Props

structure Component where
  name         : String
  -- relative to the project root
  path         : String
  props        : Props
  -- an example with the required props filled in
  usage        : String
  -- the modules that the source imports, in its order
  dependencies : List String
deriving DecidableEq

namespace Component

-- A component without a name is refused.
def check (c : Component) : Except (List Issue) Component :=
  let issue (field value : String) : List Issue :=
    if value.isEmpty then [⟨[field], .tooShort 1⟩] else []
  match issue "name" c.name ++ issue "path" c.path with
  | []     => .ok c
  | issues => .error issues

end Component
end ComponentCatalog
