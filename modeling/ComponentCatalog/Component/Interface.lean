import ComponentCatalog.Component.Basic
import ComponentCatalog.Text.Blank
import ComponentCatalog.Text.Split
import ComponentCatalog.Text.Word

namespace ComponentCatalog.Interface

open Text

def endsInProps (name : List Char) : Bool :=
  "Props".toList.isSuffixOf name && "Props".length < name.length

-- What follows the opening brace, if a props interface starts here.
def afterHeader? (s : List Char) : Option (List Char) := do
  let s ← after? "interface".toList s
  guard ((s.takeWhile isBlank).length ≠ 0)
  let s := s.dropWhile isBlank
  guard (endsInProps (s.takeWhile isWord))
  after? ['{'] ((s.dropWhile isWord).dropWhile isBlank)

def bodyHere? (s : List Char) : Option (List Char) := do
  let s ← afterHeader? s
  let body := s.takeWhile (· != '}')
  guard (body ≠ [] ∧ body.length < s.length)
  return body

-- The first interface whose name ends in `Props`. It ends at the first closing brace, and one with
-- nothing between its braces is passed over.
def body? : List Char → Option (List Char)
  | []     => none
  | c :: s => bodyHere? (c :: s) <|> body? s

-- A member that starts here: a name, `?` if it is optional, a colon, and the type up to the end.
def memberHere? (s : List Char) : Option (String × PropInfo) := do
  let name := s.takeWhile isWord
  guard (name ≠ [])
  let (optional, s) := mark (s.dropWhile isWord)
  let type ← after? [':'] s
  guard (type ≠ [])
  return (String.ofList name, ⟨String.ofList (trim type), optional⟩)
where
  mark : List Char → Bool × List Char
    | '?' :: s => (true, s)
    | s        => (false, s)

def member? : List Char → Option (String × PropInfo)
  | []     => none
  | c :: s => memberHere? (c :: s) <|> member? s

def isCode (line : List Char) : Bool :=
  !line.isEmpty && !"//".toList.isPrefixOf line

-- Each member stands in a piece between semicolons.
def membersOfLine (line : List Char) : List (String × PropInfo) :=
  (splitOn ';' line).filterMap member?

def members (body : List Char) : List (String × PropInfo) :=
  (((splitOn '\n' body).map trim).filter isCode).flatMap membersOfLine

def props (source : List Char) : Props :=
  match body? source with
  | some body => .ofList (members body)
  | none      => ∅

end ComponentCatalog.Interface
