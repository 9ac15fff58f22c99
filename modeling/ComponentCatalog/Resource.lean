import ComponentCatalog.Json.Print
import ComponentCatalog.Operation.Call
import ComponentCatalog.Text.Split

namespace ComponentCatalog

-- One resource shows all components, and one each name, also if no component has it.
inductive Resource
  | all
  | component (name : String)
deriving DecidableEq, Repr

namespace Resource

def allUri : String := "components://all"

def scheme : String := "component://"

def uriTemplate : String := "component://\x7bname\x7d"

def mimeType : String := "application/json"

-- A component's name is not empty and has no slash.
def ofUri? (uri : String) : Option Resource :=
  if uri = allUri then some .all
  else
    match Text.after? scheme.toList uri.toList with
    | some (c :: cs) =>
      if (c :: cs).contains '/' then none else some (.component (.ofList (c :: cs)))
    | _              => none

def content (records : List Component) : Resource → Json
  | .all            => .array (records.map Component.toJson)
  | .component name =>
    match findByName records name with
    | some c => c.toJson
    | none   => .object [("error", .string (CallError.notFoundMessage name))]

def text (records : List Component) (r : Resource) : String :=
  (r.content records).render .indentedAscii

end Resource

-- Why there is no text for a URI.
inductive ResourceError
  | unknown (uri : String)
  -- the load was aborted
  | aborted (reason : String)
deriving DecidableEq, Repr

def ResourceError.message : ResourceError → String
  | .unknown uri    => "Unknown resource: " ++ uri
  | .aborted reason => reason

namespace Catalog

-- The text of a resource, or why the load for it was aborted.
def read (c : Catalog) (r : Resource) : Catalog × Except String String :=
  let (c, answer) := c.fetch
  (c, answer.map r.text)

def readUri (c : Catalog) (uri : String) : Catalog × Except ResourceError String :=
  match Resource.ofUri? uri with
  | none   => (c, .error (.unknown uri))
  | some r =>
    let (c, text) := c.read r
    (c, text.mapError .aborted)

end Catalog
end ComponentCatalog
