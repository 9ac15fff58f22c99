import ComponentCatalog.Text.Composed
import ComponentCatalog.Text.Direction
import ComponentCatalog.Text.Joiner
import ComponentCatalog.Text.Punycode
import ComponentCatalog.Url.Domain.Folding
import ComponentCatalog.Url.Domain.Refused

namespace ComponentCatalog.Url.Domain

open Text

def coded : List Char :=
  "xn--".toList

def fold? (c : Char) : Option (List Char) :=
  if member refused c then none else some ((folding c.toNat).map Char.ofNat)

-- The one spelling of all that mean the same.
def prepare? (s : List Char) : Option (List Char) := do
  let parts ← (s.flatMap Composed.parts).mapM fold?
  return compose parts.flatten

def isSound (s : List Char) : Bool :=
  !s.head?.any isMark && Joiner.allFit [] s

structure Label where
  ascii : List Char
  text  : List Char

-- A label that is coded already must stand for one that needs it and that is prepared.
def ofCode? (code : List Char) : Option Label := do
  guard (code.length ≤ 2000)
  let text ← Punycode.decode? code
  guard (!text.all Punycode.isBasic && prepare? text == some text && isSound text)
  return { ascii := coded ++ code, text }

-- Short enough to be coded.
def ofText? (text : List Char) : Option Label := do
  if text.all Punycode.isBasic then return { ascii := text, text }
  guard (text.length ≤ 1000 && isSound text)
  return { ascii := coded ++ Punycode.encode text, text }

def label? (s : List Char) : Option Label :=
  match after? coded s with
  | some code => ofCode? code
  | none      => ofText? s

-- The ASCII name that stands for a domain name in any script. If some label is read from right to
-- left, each must be clear about its direction.
def toAscii? (s : List Char) : Option (List Char) := do
  let labels ← (splitOn '.' (← prepare? s)).mapM label?
  guard (labels.all (!Direction.turns ·.text) || labels.all (Direction.readsOneWay ·.text))
  return (labels.map (·.ascii)).intersperse ['.'] |>.flatten

end ComponentCatalog.Url.Domain
