namespace ComponentCatalog

inductive Operation
  | components
  | componentByName
  | designTokens
deriving DecidableEq, Repr

namespace Operation

def all : List Operation := [.components, .componentByName, .designTokens]

def name : Operation → String
  | .components      => "get_components"
  | .componentByName => "get_component_by_name"
  | .designTokens    => "get_design_tokens"

def description : Operation → String
  | .components      => "Get all available component definitions"
  | .componentByName => "Get specific component definition by name"
  | .designTokens    => "Get design system tokens (colors, spacing, typography)"

def ofName? (s : String) : Option Operation :=
  all.find? (·.name == s)

-- Operations are switched on and off in groups.
def group : Operation → String
  | .components      => "components"
  | .componentByName => "components"
  | .designTokens    => "tokens"

def groups : List String := ["components", "tokens"]

end Operation
end ComponentCatalog
