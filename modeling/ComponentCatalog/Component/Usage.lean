import ComponentCatalog.Component.Basic
import ComponentCatalog.Text.Split

namespace ComponentCatalog

-- What stands for a value, chosen by the words in the prop's type.
inductive Placeholder
  | text
  | number
  | flag
  | callback
  | list
  | object
deriving DecidableEq, Repr

namespace Placeholder

def ofType (type : String) : Placeholder :=
  let mentions (word : String) := Text.occurs word.toList type.toList
  if mentions "string" then .text
  else if mentions "number" then .number
  else if mentions "boolean" then .flag
  else if mentions "function" || mentions "=>" then .callback
  else if mentions "[]" then .list
  else .object

def source : Placeholder → String
  | .text     => "\"example\""
  | .number   => "42"
  | .flag     => "true"
  | .callback => "() => \x7b\x7d"
  | .list     => "[]"
  | .object   => "\x7b\x7d"

-- Text is assigned as it stands, and every other value is put in braces.
def assignment (name : String) : Placeholder → String
  | .text => name ++ "=" ++ text.source
  | p     => name ++ "=\x7b" ++ p.source ++ "\x7d"

end Placeholder

def Props.assignments (props : Props) : List String :=
  props.required.map fun (name, info) => (Placeholder.ofType info.type).assignment name

-- A component with a placeholder for each of its required props.
def usageOf (name : String) (props : Props) : String :=
  match props.assignments with
  | [] => "<" ++ name ++ " />"
  | as => "<" ++ name ++ " " ++ " ".intercalate as ++ " />"

end ComponentCatalog
