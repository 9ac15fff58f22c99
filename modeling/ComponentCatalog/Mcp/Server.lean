import ComponentCatalog.Mcp.Tools
import ComponentCatalog.Url

namespace ComponentCatalog.Mcp.Server

def name : String := "codezilla-components"

def instructions : String :=
  "Codezilla exposes the UI components of this project: their props, a usage\n" ++
  "example with the required props filled in, and their imports.\n\n" ++
  "<tool_selection>\n" ++
  "- get_components(category) lists components; category is ui, layout,\n  forms or all\n" ++
  "- get_component_by_name(name) returns one component (case-insensitive)\n" ++
  "- get_design_tokens() returns colors, spacing, typography and radii\n" ++
  "</tool_selection>\n\n" ++
  "<resources>\n" ++
  "- components://all is the full component list as JSON\n" ++
  "- component://\x7bname\x7d is one component, or an error object if absent\n" ++
  "</resources>\n"

def versions : List String := ["2024-11-05", "2025-03-26", "2025-06-18", "2025-11-25"]

def latestVersion : String := "2025-11-25"

def negotiate (asked : Json) : String :=
  match asked with
  | .string v => if versions.contains v then v else latestVersion
  | _         => latestVersion

def capabilities : Json :=
  let unchanging : Json := .object [("listChanged", .bool false)]
  .object [
    ("experimental", .object []),
    ("prompts", unchanging),
    ("resources", .object [("subscribe", .bool false), ("listChanged", .bool false)]),
    ("tools", unchanging)]

def welcome (params : Members) : Json :=
  .object [
    ("protocolVersion", .string (negotiate ((params.lookup "protocolVersion").getD .null))),
    ("capabilities", capabilities),
    ("serverInfo", .object [("name", .string name)]),
    ("instructions", .string instructions)]

def resources : Json :=
  .object [("resources", .array [.object [
    ("name", .string "components"),
    ("uri", .string Resource.allUri),
    ("description", .string "JSON list of all available components"),
    ("mimeType", .string Resource.mimeType)]])]

def templates : Json :=
  .object [("resourceTemplates", .array [.object [
    ("name", .string "component"),
    ("uriTemplate", .string Resource.uriTemplate),
    ("description", .string "Returns a single component definition by name"),
    ("mimeType", .string Resource.mimeType)]])]

inductive Failure
  | invalidParams
  | resource (e : ResourceError)

abbrev Result := Except Failure Json

def contents (uri text : String) : Json :=
  .object [("contents", .array [.object [
    ("uri", .string uri),
    ("mimeType", .string Resource.mimeType),
    ("text", .string text)]])]

-- Resources are looked up, and answered, by the normal form of their URIs.
def readResource (c : Catalog) (uri : String) : Catalog × Result :=
  match Url.normalize? uri with
  | none     => (c, .error .invalidParams)
  | some uri =>
    match c.readUri uri with
    | (c, .ok text) => (c, .ok (contents uri text))
    | (c, .error e) => (c, .error (.resource e))

def shape : String → Shape
  | "initialize"     => Params.opening
  | "ping"           => Params.plain
  | "tools/call"     => Params.toolCall
  | "resources/read" => Params.resourceRead
  | _                => Params.page

def respond (enabled : List Operation) (c : Catalog) (method : String) (params : Members) :
    Catalog × Result :=
  let text (key : String) : String := (Envelope.string? params key).getD ""
  match method with
  | "initialize" => (c, .ok (welcome params))
  | "ping" => (c, .ok (.object []))
  | "tools/list" => (c, .ok (.object [("tools", .array (enabled.map Tools.definition))]))
  | "tools/call" =>
    let given := match params.lookup "arguments" with
      | some (.object ms) => ms
      | _                 => []
    let (c, r) := Tools.invoke enabled c (text "name") given
    (c, .ok (Tools.result r))
  | "resources/list" => (c, .ok resources)
  | "resources/templates/list" => (c, .ok templates)
  | "resources/read" => readResource c (text "uri")
  | _ => (c, .error .invalidParams)

def failureJson (id : RequestId) : Failure → Json
  | .invalidParams =>
    errorResponse id.toJson (-32602) "Invalid request parameters" (some (.string ""))
  | .resource e    => errorResponse id.toJson 0 e.message none

def answer (enabled : List Operation) (c : Catalog) (id : RequestId) (method : String)
    (params : Option Members) : Catalog × Json :=
  let params := params.getD []
  if (shape method).fits (.object params) then
    match respond enabled c method params with
    | (c, .ok v)    => (c, response id.toJson v)
    | (c, .error e) => (c, failureJson id e)
  else (c, failureJson id .invalidParams)

end ComponentCatalog.Mcp.Server
