import ComponentCatalog.Http.PathTemplate
import ComponentCatalog.Log
import ComponentCatalog.Markup
import ComponentCatalog.Mcp.Message
import ComponentCatalog.Resource
import ComponentCatalog.Settings

namespace ComponentCatalog.CommandLine

-- A command reads the catalog just as a server with the same options would.
inductive Command
  | serve (host : Option String) (port : Option Int) (directory componentsDir : Option Path)
  | components (directory componentsDir : Option Path) (category : Category) (json : Bool)
  | show (name : String) (directory componentsDir : Option Path)
  | tokens
deriving DecidableEq, Repr

inductive Parsed
  | command (c : Command)
  | help
  | misuse
deriving DecidableEq, Repr

inductive OptionKind
  | value
  | category
  -- given without a value, and also as `--no-…`
  | switch
deriving DecidableEq, Repr

abbrev OptionSpec := List (String × OptionKind)

def places : OptionSpec := [("--directory", .value), ("--components-dir", .value)]

def optionsOf : String → Option OptionSpec
  | "serve"      => some ([("--host", .value), ("--port", .value)] ++ places)
  | "components" =>
    some (places ++ [("--category", .category), ("--json", .switch), ("--no-json", .switch)])
  | "show"       => some (("--name", .value) :: places)
  | "tokens"     => some []
  | _            => none

-- What is left of the arguments when reading stops early.
inductive Stop
  | help
  | misuse

structure Options where
  -- a later value takes the place of an earlier one
  values  : List (String × String)
  -- whether there is an argument that no option takes
  strange : Bool

-- What a number may be written as without digits.
def isNumberWord (s : List Char) : Bool :=
  ["nan", "inf", "infinity"].any (·.toList == Text.lower (Text.trim s))

-- Whether an argument can be the value of an option, and does not look like an option itself.
def isValue (s : String) : Bool :=
  match s.toList with
  | ['-', '-']         => false
  | '-' :: '-' :: c :: _ => !c.isAlpha
  | '-' :: c :: cs     => !c.isAlpha || isNumberWord (c :: cs)
  | _                  => true

-- The name of an option, where underscores count as hyphens, and the value written behind it.
def cutOption (s : String) : String × Option String :=
  let (name, value) := s.toList.span (· != '=')
  (String.ofList (name.map fun c => if c = '_' then '-' else c),
    if value.isEmpty then none else some (String.ofList value.tail))

def isHelp (s : String) : Bool :=
  s = "--help" || s = "-h"

def accepts : OptionKind → String → Bool
  | .category, v => (Category.ofName? v).isSome
  | _, _         => true

-- A later value stands before the earlier ones.
def Options.set (o : Options) (name value : String) : Options :=
  { o with values := (name, value) :: o.values }

-- Behind two hyphens there are no options any more, and no command takes other arguments.
def read (spec : OptionSpec) (o : Options) : List String → Except Stop Options
  | []        => .ok o
  | arg :: rest =>
    let (name, value) := cutOption arg
    if isHelp arg then .error .help
    else if arg = "--" then .ok { o with strange := o.strange || !rest.isEmpty }
    else
      match spec.lookup name, value, rest with
      | none, _, rest                => read spec { o with strange := true } rest
      | some .switch, some _, _      => .error .misuse
      | some .switch, none, rest     => read spec (o.set name "") rest
      | some kind, some v, rest      =>
        if accepts kind v then read spec (o.set name v) rest else .error .misuse
      | some kind, none, v :: rest   =>
        if isValue v && accepts kind v then read spec (o.set name v) rest else .error .misuse
      | some _, none, []             => .error .misuse

namespace Options

def value? (o : Options) (name : String) : Option String :=
  o.values.lookup name

-- The value of an option that may be given as `None`, which is the same as leaving it out.
def optional? (o : Options) (name : String) : Option String :=
  (o.value? name).filter (· ≠ "None")

def path? (o : Options) (name : String) : Option Path :=
  (o.optional? name).map .ofString

-- Nothing, or an integer. Any other text is refused.
def integer? (o : Options) (name : String) : Option (Option Int) :=
  match o.optional? name with
  | none   => some none
  | some s => (Text.integer? s.toList).map some

-- The last of a switch and its opposite decides.
def switch (o : Options) (name opposite : String) : Bool :=
  match o.values.find? fun (n, _) => n = name || n = opposite with
  | some (n, _) => n = name
  | none        => false

def command? (o : Options) (name : String) : Option Command :=
  let directory := o.path? "--directory"
  let componentsDir := o.path? "--components-dir"
  match name with
  | "serve"      => do
    return .serve (o.optional? "--host") (← o.integer? "--port") directory componentsDir
  | "components" =>
    let category := ((o.value? "--category").bind Category.ofName?).getD .all
    some (.components directory componentsDir category (o.switch "--json" "--no-json"))
  | "show"       => (o.value? "--name").map fun name => .show name directory componentsDir
  | "tokens"     => some .tokens
  | _            => none

end Options

def parseCommand (name : String) (spec : OptionSpec) (strange : Bool) (args : List String) :
    Parsed :=
  match read spec { values := [], strange } args with
  | .error .help   => .help
  | .error .misuse => .misuse
  | .ok o          => if o.strange then .misuse else (o.command? name).elim .misuse .command

-- The command comes first. Whatever stands before it belongs to no command, except the option that
-- asks for help.
def parse (args : List String) : Parsed :=
  go false args
where
  go (strange : Bool) : List String → Parsed
    | []          => .misuse
    | arg :: rest =>
      if isHelp arg then .help
      else if arg = "--" then .misuse
      else
        match optionsOf arg with
        | some spec => parseCommand arg spec strange rest
        | none      => go true rest

inductive Failure
  | settings (e : SettingsError)
  | path (e : Http.TemplateError)
  | call (e : CallError)
  -- what a command shows is no proper markup
  | markup (e : Markup.MarkupError)

def Failure.message : Failure → String
  | .settings e => e.message
  | .path e     => e.message
  | .call e     => e.message "command"
  | .markup e   => e.message

-- What a command shows.
inductive Report
  | failed (e : Failure)
  | note (text : String)
  | table (title : String) (columns : List String) (rows : List (List String))
  | serve (s : Settings)
  | json (v : Json)

namespace Report

def cells (rows : List (List String)) : List String → Nat → List String
  | [], _           => []
  | _ :: columns, i => rows.filterMap (·[i]?) ++ cells rows columns (i + 1)

-- The marked up texts of a report, in the order in which they are read. Tables are read by columns.
def texts : Report → List String
  | .failed e                  => ["[bold red]error:[/] " ++ e.message]
  | .note text                 => ["[dim]" ++ text ++ "[/]"]
  | .table title columns rows  => columns ++ cells rows columns 0 ++ [title]
  | .serve _ | .json _         => []

end Report

structure Result where
  code    : Nat
  reports : List Report

namespace Result

def ok (reports : List Report) : Result where
  code    := 0
  reports := reports

def fail (e : Failure) : Result where
  code    := 1
  reports := [.failed e]

def check (r : Result) : Except Markup.MarkupError Unit :=
  (r.reports.flatMap Report.texts).forM Markup.check

end Result

def propNames (c : Component) : String :=
  match c.props.entries with
  | [] => "-"
  | es => ", ".intercalate (es.map fun (name, info) => if info.optional then name ++ "?" else name)

def row (c : Component) : List String :=
  [c.name, c.path, propNames c, c.usage]

def listing (cs : List Component) (category : Category) : Report :=
  .table (toString cs.length ++ " components (" ++ category.name ++ ")")
    ["name", "path", "props", "usage"] (cs.map row)

def scanNote (d : Disk) (dir : Path) : Report :=
  .note (if d.isFolder dir then "scanned " ++ dir.toString
    else dir.toString ++ " not found, showing defaults")

-- The settings and the cold catalog of a server with the same options.
def catalog (env : Environment) (d : Disk) (directory componentsDir : Option Path) :
    Except SettingsError (Path × Catalog) := do
  let s ← Settings.ofEnvironment d.cwd env none none directory componentsDir
  let dir ← s.resolvedComponentsDir d.cwd env
  return (dir, .cold (.standard dir s.projectRoot) d)

def call (c : Catalog) (op : Operation) (ms : List (String × Json)) : Except CallError Reply :=
  (c.call op.name (.object ms)).2

def runComponents (env : Environment) (d : Disk) (directory componentsDir : Option Path)
    (category : Category) (json : Bool) : Except Failure Result := do
  let (dir, cat) ← (catalog env d directory componentsDir).mapError .settings
  match call cat .components [("category", .string category.name)] with
  | .error e           => throw (.call e)
  | .ok (.listing cs)  =>
    if json then return .ok [.json (.array (cs.map Component.toJson))]
    else return .ok [listing cs category, scanNote d dir]
  | .ok reply          => return .ok [.json reply.toJson]

-- A component that is not there is an answer, too.
def runShow (env : Environment) (d : Disk) (name : String)
    (directory componentsDir : Option Path) : Except Failure Result := do
  let (_, cat) ← (catalog env d directory componentsDir).mapError .settings
  match call cat .componentByName [("name", .string name)] with
  | .error (.notFound name) => return .fail (.call (.notFound name))
  | .error e                => throw (.call e)
  | .ok reply               => return .ok [.json reply.toJson]

def runServe (env : Environment) (d : Disk) (host : Option String) (port : Option Int)
    (directory componentsDir : Option Path) : Except Failure Result := do
  let s ← (Settings.ofEnvironment d.cwd env host port directory componentsDir).mapError .settings
  discard ((Http.PathTemplate.ofString? s.path).mapError .path)
  return .ok [.serve s]

def run (env : Environment) (d : Disk) : Command → Except Failure Result
  | .serve host port directory componentsDir => runServe env d host port directory componentsDir
  | .components directory componentsDir category json =>
    runComponents env d directory componentsDir category json
  | .show name directory componentsDir => runShow env d name directory componentsDir
  | .tokens => return .ok [.json DesignTokens.toJson]

-- A result that cannot be shown is a failure.
def shown (r : Result) : Except Failure Result :=
  (r.check.mapError .markup).map fun _ => r

-- A failure is told, unless it cannot be shown either.
def told (e : Failure) : Except Markup.MarkupError Result :=
  (Result.fail e).check.map fun _ => .fail e

-- The log is opened before anything else.
def main (env : Environment) (d : Disk) (args : List String) :
    Except Markup.MarkupError Result :=
  match parse args with
  | .command c =>
    match run env (Log.openOn d (Log.fileOf env)) c >>= shown with
    | .ok r    => .ok r
    | .error e => told e
  | .help      => .ok { code := 0, reports := [] }
  | .misuse    => .ok { code := 2, reports := [] }

-- What a command writes to standard output for other programs to read.
def output (r : Result) : String :=
  String.join (r.reports.map fun
    | .json v => v.render .indentedAscii ++ "\n"
    | _       => "")

end ComponentCatalog.CommandLine
