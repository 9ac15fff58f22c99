import ComponentCatalog.Text.Split

namespace ComponentCatalog.Http

inductive ParameterKind
  -- up to the next slash, and not empty
  | segment
  -- all that is left on the line
  | rest
  | integer
  | decimal
  | uuid
deriving DecidableEq, Repr

namespace ParameterKind

def ofName? : String → Option ParameterKind
  | "str"   => some .segment
  | "path"  => some .rest
  | "int"   => some .integer
  | "float" => some .decimal
  | "uuid"  => some .uuid
  | _       => none

def areDigits (s : List Char) : Bool :=
  !s.isEmpty && s.all Char.isDigit

def isHex (c : Char) : Bool :=
  c.isDigit || ('a' ≤ c && c ≤ 'f') || ('A' ≤ c && c ≤ 'F')

-- Groups of hexadecimal digits with or without hyphens between them.
def hexGroups : List Nat → List Char → Bool
  | [], s      => s.isEmpty
  | n :: ns, s =>
    let s := match s with
      | '-' :: r => r
      | s        => s
    (s.take n).length == n && (s.take n).all isHex && hexGroups ns (s.drop n)

def accepts (kind : ParameterKind) (s : List Char) : Bool :=
  match kind with
  | .segment => !s.isEmpty && !s.contains '/'
  | .rest    => !s.contains '\n'
  | .integer => areDigits s
  | .decimal =>
    match s.span (· != '.') with
    | (whole, _ :: fraction) => areDigits whole && areDigits fraction
    | (whole, [])            => areDigits whole
  | .uuid    => s.head? != some '-' && hexGroups [8, 4, 4, 4, 12] s

end ParameterKind

inductive TemplateError
  | relative
  | unknownKind (name : String)
  | duplicates (names : List String) (template : String)
deriving DecidableEq, Repr

namespace TemplateError

def message : TemplateError → String
  | .relative                   => "Routed paths must start with '/'"
  | .unknownKind name           => "Unknown path convertor '" ++ name ++ "'"
  | .duplicates names template  =>
    "Duplicated param name" ++ (if names.length = 1 then "" else "s") ++ " " ++
      ", ".intercalate names ++ " at path " ++ template

end TemplateError

-- An absolute path in which `{name}` or `{name:kind}` stands for a parameter of some kind.
structure PathTemplate where
  text  : String
  parts : List (Char ⊕ ParameterKind)

namespace PathTemplate

-- A part of a template as it is written.
inductive Written
  | plain (c : Char)
  | parameter (name kind : String)

def isNameStart (c : Char) : Bool :=
  c.isAlpha || c == '_'

def name? (s : List Char) : Option (String × List Char) :=
  let name := s.takeWhile fun c => isNameStart c || c.isDigit
  if name.head?.any isNameStart then some (String.ofList name, s.drop name.length) else none

-- A parameter behind its opening brace.
def parameter? (s : List Char) : Option (Written × List Char) := do
  let (name, s) ← name? s
  let (kind, s) ← match s with
    | ':' :: s => name? s
    | s        => some ("str", s)
  match s with
  | '\x7d' :: s => some (.parameter name kind, s)
  | _           => none

def written : Nat → List Char → List Written
  | 0, _             => []
  | _, []            => []
  | fuel + 1, c :: s =>
    match (if c = '\x7b' then parameter? s else none) with
    | some (p, s) => p :: written fuel s
    | none        => .plain c :: written fuel s

def names (ws : List Written) : List String :=
  ws.filterMap fun
    | .parameter name _ => some name
    | .plain _          => none

def addDistinct (names : List String) (name : String) : List String :=
  if names.contains name then names else names ++ [name]

def duplicates (names : List String) : List String :=
  ((names.filter fun n => 1 < names.count n).foldl addDistinct []).mergeSort fun a b => !(b < a)

def part : Written → Except TemplateError (Char ⊕ ParameterKind)
  | .plain c          => .ok (.inl c)
  | .parameter _ kind =>
    ((ParameterKind.ofName? kind).map .inr).elim (.error (.unknownKind kind)) .ok

def ofString? (text : String) : Except TemplateError PathTemplate := do
  let cs := text.toList
  if cs.head? ≠ some '/' then throw .relative
  let ws := written cs.length cs
  let parts ← ws.mapM part
  match duplicates (names ws) with
  | []    => return { text, parts }
  | names => throw (.duplicates names text)

def fits : List (Char ⊕ ParameterKind) → List Char → Bool
  | [], s               => s.isEmpty || s == ['\n']
  | .inl c :: ps, d :: s => c == d && fits ps s
  | .inl _ :: _, []      => false
  | .inr kind :: ps, s   =>
    (List.range (s.length + 1)).any fun n => kind.accepts (s.take n) && fits ps (s.drop n)

-- A line feed at the end of a path is overlooked.
def takes (t : PathTemplate) (path : String) : Bool :=
  fits t.parts path.toList

end PathTemplate
end ComponentCatalog.Http
