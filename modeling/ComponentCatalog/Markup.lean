import ComponentCatalog.Text.Blank
import ComponentCatalog.Text.Lowercase

namespace ComponentCatalog.Markup

-- A tag stands in square brackets: `[style]` opens a style, `[/style]` closes the one that was
-- opened last under this name, and `[/]` closes the last one of all. Behind an odd number of
-- backslashes it is no tag.
structure Tag where
  name       : List Char
  -- what follows the first equals sign
  parameters : Option (List Char)
deriving DecidableEq, Repr

inductive MarkupError
  | nothingOpen (position : Nat)
  | notOpen (tag : Tag) (position : Nat)
deriving DecidableEq, Repr

namespace Tag

def ofText (s : List Char) : Tag :=
  let (name, parameters) := s.span (· != '=')
  { name, parameters := if parameters.isEmpty then none else some parameters.tail }

def text (t : Tag) : String :=
  "[" ++ String.ofList (t.name ++ t.parameters.elim [] ('=' :: ·)) ++ "]"

def isStart (c : Char) : Bool :=
  ('a' ≤ c && c ≤ 'z') || c == '#' || c == '/' || c == '@'

-- The text of a tag behind its opening bracket, and what follows the tag.
def read? : List Char → Option (List Char × List Char)
  | []     => none
  | c :: s =>
    let body := s.takeWhile fun c => c != ']' && c != '['
    match s.drop body.length with
    | ']' :: rest => if isStart c then some (c :: body, rest) else none
    | _           => none

end Tag

def MarkupError.message : MarkupError → String
  | .nothingOpen position   =>
    "closing tag '[/]' at position " ++ toString position ++ " has nothing to close"
  | .notOpen tag position   =>
    "closing tag '" ++ tag.text ++ "' at position " ++ toString position ++
      " doesn't match any open tag"

-- The tags of a text of the given length, with their positions.
def tagsFrom (length : Nat) : Nat → List Char → List (Nat × Tag)
  | 0, _        => []
  | _, []       => []
  | fuel + 1, s =>
    let slashes := (s.takeWhile (· == '\\')).length
    match s.drop slashes with
    | '[' :: r =>
      match Tag.read? r with
      | some (body, rest) =>
        let tags := tagsFrom length fuel rest
        if slashes % 2 = 1 then tags else (length - r.length - 1, Tag.ofText body) :: tags
      | none              => tagsFrom length fuel r
    | _ :: r   => tagsFrom length fuel r
    | []       => []

def tags (s : String) : List (Nat × Tag) :=
  tagsFrom s.length s.length s.toList

-- Letters that stand for a style.
def abbreviations : List (String × String) := [
  ("b", "bold"), ("d", "dim"), ("i", "italic"), ("u", "underline"), ("r", "reverse"),
  ("c", "conceal"), ("s", "strike"), ("uu", "underline2"), ("o", "overline")]

-- The name under which a style is kept while it is open.
def styleName (s : List Char) : String :=
  let name := String.ofList (Text.lower (Text.trim s))
  (abbreviations.lookup name).getD name

-- The styles that are open after a tag, the last one first.
def apply (opened : List String) (position : Nat) (tag : Tag) :
    Except MarkupError (List String) :=
  match tag.name with
  | '/' :: name =>
    if (Text.trim name).isEmpty then
      match opened with
      | []          => .error (.nothingOpen position)
      | _ :: opened => .ok opened
    else if opened.contains (styleName name) then .ok (opened.erase (styleName name))
    else .error (.notOpen tag position)
  | name        => .ok (styleName name :: opened)

-- Styles that stay open do no harm, but one that is closed must be open.
def check (s : String) : Except MarkupError Unit :=
  discard ((tags s).foldlM (fun opened (position, tag) => apply opened position tag) [])

end ComponentCatalog.Markup
