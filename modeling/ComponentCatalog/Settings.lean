import ComponentCatalog.Operation.Basic
import ComponentCatalog.Path
import ComponentCatalog.Text.Digit
import ComponentCatalog.Text.Lowercase
import ComponentCatalog.Text.Quoted

namespace ComponentCatalog

-- Names and values are texts.
abbrev Environment := List (String × String)

namespace Environment

def value (env : Environment) (name : String) : String :=
  (env.lookup name).getD ""

-- A variable that holds the empty text counts as unset.
def set? (env : Environment) (name : String) : Option String :=
  if env.value name = "" then none else some (env.value name)

-- The names of the variables that matter to a server or a command.
def names : List String := [
  "HOST", "PORT", "CODZILLA_MCP_PORT", "CODZILLA_MCP_PATH", "CODZILLA_TOOLS",
  "CODZILLA_JSON_RESPONSE", "CODZILLA_PROJECT_ROOT", "CODZILLA_COMPONENTS_DIR",
  "CODZILLA_LOG_FILE"]

end Environment

-- What a server is told explicitly, by variables of its environment, or by default, in this order.
structure Settings where
  host          : String
  port          : Int
  -- the path that the server listens on
  path          : String
  projectRoot   : Path
  -- where the component sources are
  componentsDir : Option Path
  -- whether answers are plain JSON or event streams
  jsonResponse  : Bool
deriving DecidableEq, Repr

inductive SettingsError
  | invalidPort (raw : String)
  | embeddedNul
deriving DecidableEq, Repr

def SettingsError.message : SettingsError → String
  | .invalidPort raw => "invalid port " ++ Text.quoted raw ++ " in environment"
  | .embeddedNul     => Path.nulMessage

namespace Settings

def defaultHost : String := "127.0.0.1"

def defaultPort : Int := 3333

def defaultPath : String := "/mcp"

def componentsSubdir : Path := .ofString "src/components"

def hostOf (env : Environment) : String :=
  (env.set? "HOST").getD defaultHost

def portOf (env : Environment) : Except SettingsError Int :=
  match (env.set? "CODZILLA_MCP_PORT").or (env.set? "PORT") with
  | some raw =>
    match Text.integer? raw.toList with
    | some port => .ok port
    | none      => .error (.invalidPort raw)
  | none => .ok defaultPort

def pathOf (env : Environment) : String :=
  let path := (env.set? "CODZILLA_MCP_PATH").getD defaultPath
  if path.toList.head? = some '/' then path else "/" ++ path

def jsonResponseOf (env : Environment) : Bool :=
  Text.lowercase (env.value "CODZILLA_JSON_RESPONSE") ∉ ["0", "false", "no"]

-- Where a project is, for a server that was started in `cwd`.
def projectRootOf (cwd : List String) (env : Environment) (given : Option Path) :
    Except SettingsError Path :=
  match given.or ((env.set? "CODZILLA_PROJECT_ROOT").map .ofString) with
  | some p => if p.hasNul then .error .embeddedNul else .ok (p.resolve cwd)
  | none   => .ok ⟨.root, cwd⟩

-- A relative directory is taken from the project root.
def componentsDirOf (cwd : List String) (env : Environment) (root dir : Option Path) :
    Except SettingsError Path :=
  let dir := dir.or ((env.set? "CODZILLA_COMPONENTS_DIR").map .ofString)
  (projectRootOf cwd env root).map (·.join (dir.getD componentsSubdir))

-- The groups named in the environment. All of them, if it names none or just `all`.
def enabledGroups (env : Environment) : List String :=
  let listed := Text.trim (env.value "CODZILLA_TOOLS").toList
  if listed.isEmpty || Text.lower listed == "all".toList then Operation.groups
  else
    ((Text.splitOn ',' listed).map Text.trim).filter (!·.isEmpty)
      |>.map fun item => String.ofList (Text.lower item)

def enabledOperations (env : Environment) : List Operation :=
  Operation.all.filter fun op => (enabledGroups env).contains op.group

def ofEnvironment (cwd : List String) (env : Environment) (host : Option String)
    (port : Option Int) (projectRoot componentsDir : Option Path) :
    Except SettingsError Settings := do
  let root ← projectRootOf cwd env projectRoot
  return {
    host          := match host with
                     | none | some "" => hostOf env
                     | some host      => host
    port          := ← port.elim (portOf env) .ok
    path          := pathOf env
    projectRoot   := root
    componentsDir := some (← componentsDirOf cwd env (some root) componentsDir)
    jsonResponse  := jsonResponseOf env }

def resolvedComponentsDir (s : Settings) (cwd : List String) (env : Environment) :
    Except SettingsError Path :=
  componentsDirOf cwd env (some s.projectRoot) s.componentsDir

def url (s : Settings) : String :=
  "http://" ++ s.host ++ ":" ++ toString s.port ++ s.path

def addNew (names : List String) (name : String) : List String :=
  if names.contains name then names else names ++ [name]

-- The configured host and the loopback names, each alone and with the port, none twice.
def allowedHosts (s : Settings) : List String :=
  [s.host, "127.0.0.1", "localhost"].flatMap (fun h => [h, h ++ ":" ++ toString s.port])
    |>.foldl addNew []

def allowedOrigins (s : Settings) : List String :=
  s.allowedHosts.map ("http://" ++ ·)

end Settings
end ComponentCatalog
