import ComponentCatalog.Text.Hex
import ComponentCatalog.Text.Split

namespace ComponentCatalog.Url.Address

open Text

def digits? (base : Nat) (s : List Char) : Option Nat :=
  s.foldlM (fun n c => ((hexValue? c).filter (· < base)).map (base * n + ·)) 0

def number? (s : List Char) : Option Nat :=
  match s with
  | '0' :: x :: r =>
    if x == 'x' || x == 'X' then digits? 16 r else digits? 8 (x :: r)
  | [] => none
  | s  => digits? 10 s

def endsInNumber (labels : List (List Char)) : Bool :=
  match labels.getLast? with
  | some l => (!l.isEmpty && l.all Char.isDigit) || (number? l).isSome
  | none   => false

-- Four bytes; the last part given stands for all that are left.
def bytes? (labels : List (List Char)) : Option (List Char) := do
  let parts ← labels.mapM number?
  guard (parts.length ≤ 4)
  let last ← parts.getLast?
  let front := parts.dropLast
  guard (front.all (· < 256) ∧ last < Nat.pow 256 (5 - parts.length))
  let n := (front.mapIdx fun i p => p * Nat.pow 256 (3 - i)).foldl (· + ·) last
  let bytes := [n / Nat.pow 256 3, n / Nat.pow 256 2 % 256, n / 256 % 256, n % 256]
  return (".".intercalate (bytes.map toString)).toList

def group? (s : List Char) : Option Nat :=
  if s ≠ [] ∧ s.length ≤ 4 then digits? 16 s else none

-- A decimal without leading zeros.
def byte? (s : List Char) : Option Nat :=
  if s ≠ [] ∧ (s.length = 1 ∨ s.head? ≠ some '0') then (digits? 10 s).filter (· < 256) else none

-- Two groups, written as four bytes.
def lastGroups? (s : List Char) : Option (List Nat) :=
  match (splitOn '.' s).mapM byte? with
  | some [a, b, c, d] => some [256 * a + b, 256 * c + d]
  | _                 => none

def tail? : List (List Char) → Option (List Nat)
  | []      => some []
  | [s]     => if s.contains '.' then lastGroups? s else (group? s).map ([·])
  | s :: ss => do return (← group? s) :: (← tail? ss)

def pieces (s : List Char) : List (List Char) :=
  if s.isEmpty then [] else splitOn ':' s

-- What stands before and after the first double colon.
def cutGap? : List Char → Option (List Char × List Char)
  | ':' :: ':' :: s => some ([], s)
  | c :: s          => (cutGap? s).map fun (a, b) => (c :: a, b)
  | []              => none

-- Eight groups of sixteen bits, of which one run of zeros may be left out.
def groups? (s : List Char) : Option (List Nat) :=
  match cutGap? s with
  | none        => (tail? (pieces s)).filter (·.length = 8)
  | some (a, b) => do
    let front ← (pieces a).mapM group?
    let back ← tail? (pieces b)
    guard (front.length + back.length < 8)
    return front ++ List.replicate (8 - front.length - back.length) 0 ++ back

-- Start and length of the longest run of zeros, of equals the first.
def longestGap (gs : List Nat) : Nat × Nat :=
  (List.range gs.length).foldl (fun best i =>
    let n := ((gs.drop i).takeWhile (· = 0)).length
    if best.2 < n then (i, n) else best) (0, 0)

def joined (gs : List Nat) : List Char :=
  (":".intercalate (gs.map fun g => String.ofList (Nat.toDigits 16 g))).toList

-- A single zero is not left out.
def shown (gs : List Nat) : List Char :=
  let (i, n) := longestGap gs
  if n < 2 then joined gs else joined (gs.take i) ++ ':' :: ':' :: joined (gs.drop (i + n))

end ComponentCatalog.Url.Address
