import ComponentCatalog.Catalog.Basic
import ComponentCatalog.Operation.Arguments
import ComponentCatalog.Tokens

namespace ComponentCatalog

inductive CallError
  | unknownOperation (name : String)
  | noArguments (e : PairError)
  | invalid (issues : List Issue)
  | notFound (name : String)
  -- the load was aborted
  | aborted (reason : String)

inductive Reply
  | listing (components : List Component)
  | component (c : Component)
  | tokens

namespace Reply

def toJson : Reply → Json
  | .listing cs  =>
    .object [
      ("components", .array (cs.map Component.toJson)),
      ("usage_guidelines", Guidelines.project.toJson)]
  | .component c => c.toJson
  | .tokens      => DesignTokens.toJson

end Reply

namespace CallError

def notFoundMessage (name : String) : String :=
  "Component " ++ name ++ " not found"

-- Refused arguments are counted, under the name of the schema that they do not fit.
def message (schema : String) : CallError → String
  | .unknownOperation name => "Unknown operation: " ++ name
  | .noArguments e         => e.message
  | .invalid issues        =>
    toString issues.length ++ " validation error" ++ (if issues.length = 1 then "" else "s") ++
      " for " ++ schema
  | .notFound name         => notFoundMessage name
  | .aborted reason        => reason

end CallError

namespace Catalog

-- Answers from the records, once a call is accepted.
def reply (records : List Component) : Request → Except CallError Reply
  | .components category  => .ok (.listing (records.filter (·.matchesCategory category)))
  | .componentByName name =>
    match findByName records name with
    | some c => .ok (.component c)
    | none   => .error (.notFound name)
  | .designTokens => .ok .tokens

def run (c : Catalog) (request : Request) : Catalog × Except CallError Reply :=
  match request with
  | .designTokens => (c, .ok .tokens)
  | request       =>
    match c.fetch with
    | (c, .ok records)   => (c, reply records request)
    | (c, .error reason) => (c, .error (.aborted reason))

def request? (name : String) (arguments : Json) : Except CallError Request :=
  match Operation.ofName? name with
  | none    => .error (.unknownOperation name)
  | some op =>
    match Arguments.ofJson? arguments with
    | .error e  => .error (.noArguments e)
    | .ok given =>
      match Request.check? given op with
      | .error es => .error (.invalid es)
      | .ok r     => .ok r

-- A call is checked before the catalog is read, so that a call which is refused leaves the catalog
-- as it is.
def call (c : Catalog) (name : String) (arguments : Json) : Catalog × Except CallError Reply :=
  match request? name arguments with
  | .ok request => c.run request
  | .error e    => (c, .error e)

end Catalog
end ComponentCatalog
