import ComponentCatalog.Text.Percent
import ComponentCatalog.Text.Split
import ComponentCatalog.Url.Plain

namespace ComponentCatalog.Url

open Text

def isDot (s : List Char) : Bool :=
  [".", "%2e", "%2E"].any (·.toList == s)

def isDoubleDot (s : List Char) : Bool :=
  ["..", ".%2e", ".%2E", "%2e.", "%2E.", "%2e%2e", "%2e%2E", "%2E%2e", "%2E%2E"].any (·.toList == s)

-- A letter before a colon or a bar. There is nothing above a drive.
def isDrive : List Char → Bool
  | [a, b] => a.isAlpha && (b == ':' || b == '|')
  | _      => false

-- A drive, perhaps with more behind a backslash.
def beginsWithDrive (s : List Char) : Bool :=
  isDrive (s.takeWhile (· != '\\'))

-- The segments above the last one.
def parent (done : List (List Char)) : List (List Char) :=
  if done.getLast?.any beginsWithDrive then done else done.dropLast

-- Dot segments vanish, but a final one leaves the slash before it.
def walk (done : List (List Char)) : List (List Char) → List (List Char)
  | []      => done
  | [s]     =>
    if isDoubleDot s then parent done ++ [[]]
    else if isDot s then done ++ [[]]
    else done ++ [s]
  | s :: ss =>
    if isDoubleDot s then walk (parent done) ss
    else if isDot s then walk done ss
    else walk (done ++ [s]) ss

def rooted (segments : List (List Char)) : List Char :=
  segments.flatMap fun s => '/' :: percentEncode inPath s

-- The path after an authority, or one that begins with a slash itself.
def pathFrom (special : Bool) (s : List Char) : List Char :=
  let s := if special then s.map fun c => if c = '\\' then '/' else c else s
  match s with
  | '/' :: r => rooted (walk [] (splitOn '/' r))
  | []       => if special then ['/'] else []
  | s        => rooted (walk [] (splitOn '/' s))

-- A drive is shown with a colon.
def onDrive : List (List Char) → List (List Char)
  | [a, '|'] :: ss => [a, if a.isAlpha then ':' else '|'] :: ss
  | ss             => ss

end ComponentCatalog.Url
