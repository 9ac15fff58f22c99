import ComponentCatalog.Mcp.Message
import ComponentCatalog.Resource

namespace ComponentCatalog.Mcp.Tools

def objectSchema (title : String) (properties : Members) (required : List String) : Json :=
  .object ([("properties", .object properties)] ++
    (if required.isEmpty then [] else [("required", .ofStrings required)]) ++
    [("title", .string title), ("type", .string "object")])

def description : Operation → String
  | .components =>
    "Get all available component definitions.\n\n" ++
      "        Args:\n" ++
      "            category: One of \"ui\", \"layout\", \"forms\" or \"all\". Anything but\n" ++
      "                \"all\" keeps components whose path has a matching directory\n" ++
      "                or whose name contains the category.\n\n" ++
      "        Returns:\n" ++
      "            Matching components with props, usage example and imports,\n" ++
      "            plus the project's usage guidelines\n        "
  | .componentByName =>
    "Get specific component definition by name.\n\n" ++
      "        Matching is case-insensitive. Fails if no component has this name.\n        "
  | .designTokens => "Get design system tokens (colors, spacing, typography)."

def schemaName (op : Operation) : String :=
  op.name ++ "Arguments"

def inputSchema (op : Operation) : Json :=
  let title := schemaName op
  match op with
  | .components => objectSchema title [("category", .object [
      ("default", .string Category.all.name),
      ("enum", .ofStrings ([Category.ui, .layout, .forms, .all].map Category.name)),
      ("title", .string "Category"),
      ("type", .string "string")])] []
  | .componentByName => objectSchema title [("name", .object [
      ("maxLength", .int Arguments.mostName),
      ("minLength", .int Arguments.leastName),
      ("title", .string "Name"),
      ("type", .string "string")])] ["name"]
  | .designTokens => objectSchema title [] []

def outputSchema (op : Operation) : Json :=
  .object [("additionalProperties", .bool true), ("title", .string (op.name ++ "DictOutput")),
    ("type", .string "object")]

def definition (op : Operation) : Json :=
  .object [("name", .string op.name), ("description", .string (description op)),
    ("inputSchema", inputSchema op), ("outputSchema", outputSchema op)]

inductive Failure
  | unknown (name : String)
  | unreadable (op : Operation) (e : Json.ReadError)
  | refused (op : Operation) (e : CallError)

def Failure.message : Failure → String
  | .unknown name       => "Unknown tool: " ++ name
  | .unreadable op e    => "Error executing tool " ++ op.name ++ ": " ++ e.message
  | .refused op e       => "Error executing tool " ++ op.name ++ ": " ++ e.message (schemaName op)

def declared : Operation → List String
  | .components      => ["category"]
  | .componentByName => ["name"]
  | .designTokens    => []

-- A category that is written as JSON is read first, and a list, an object or null takes its place.
def prepare (key : String) (v : Json) : Except Json.ReadError Json :=
  match key, v with
  | "category", .string s =>
    match Json.read s.toList with
    | .ok .null             => .ok .null
    | .ok (.array vs)       => .ok (.array vs)
    | .ok (.object ms)      => .ok (.object ms)
    | .ok _                 => .ok v
    | .error .malformed     => .ok v
    | .error e              => .error e
  | _, v => .ok v

-- A tool takes the arguments that it declares and ignores all others.
def arguments (op : Operation) (given : Members) : Except Json.ReadError Members :=
  (given.filter fun m => (declared op).contains m.1).mapM fun (k, v) => do
    return (k, ← prepare k v)

def invoke (enabled : List Operation) (c : Catalog) (name : String) (given : Members) :
    Catalog × Except Failure Reply :=
  match (Operation.ofName? name).filter enabled.contains with
  | none    => (c, .error (.unknown name))
  | some op =>
    match arguments op given with
    | .error e => (c, .error (.unreadable op e))
    | .ok ms   =>
      match c.call op.name (.object ms) with
      | (c, .ok reply) => (c, .ok reply)
      | (c, .error e)  => (c, .error (.refused op e))

def textContent (text : String) : Json :=
  .array [.object [("type", .string "text"), ("text", .string text)]]

-- A text and the same result as an object, or a text that says why there is none.
def result : Except Failure Reply → Json
  | .ok reply =>
    .object [
      ("content", textContent (reply.toJson.render .indented)),
      ("structuredContent", reply.toJson),
      ("isError", .bool false)]
  | .error e  => .object [("content", textContent e.message), ("isError", .bool true)]

end ComponentCatalog.Mcp.Tools
