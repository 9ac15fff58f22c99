import ComponentCatalog.Text.Blank

namespace ComponentCatalog.Text

-- Each script's ten digits are consecutive. These are the code points of the zeros.
def zeros : List Nat :=
  [48, 1632, 1776, 1984, 2406, 2534, 2662, 2790, 2918, 3046, 3174, 3302, 3430, 3558, 3664, 3792,
   3872, 4160, 4240, 6112, 6160, 6470, 6608, 6784, 6800, 6992, 7088, 7232, 7248, 42528, 43216,
   43264, 43472, 43504, 43600, 44016, 65296, 66720, 68912, 69734, 69872, 69942, 70096, 70384,
   70736, 70864, 71248, 71360, 71472, 71904, 72016, 72784, 73040, 73120, 92768, 92864, 93008,
   120782, 120792, 120802, 120812, 120822, 123200, 123632, 125264, 130032]

def digitValue? (c : Char) : Option Nat :=
  zeros.findSome? fun z => if z ≤ c.toNat ∧ c.toNat < z + 10 then some (c.toNat - z) else none

-- Longer numerals are refused by every reader of integers.
def digitLimit : Nat := 4300

def digits? : List Char → Option (List Nat)
  | []            => none
  | [c]           => (digitValue? c).map ([·])
  | c :: '_' :: r => return (← digitValue? c) :: (← digits? r)
  | c :: d :: r   => return (← digitValue? c) :: (← digits? (d :: r))

def ofDigits (ds : List Nat) : Nat :=
  ds.foldl (10 * · + ·) 0

def magnitude? (s : List Char) : Option Nat := do
  let ds ← digits? s
  guard (ds.length ≤ digitLimit)
  return ofDigits ds

-- The separators U+001C to U+001F are blank, but may not surround a number.
def surroundsNumber (c : Char) : Bool :=
  isBlank c && !(28 ≤ c.toNat && c.toNat ≤ 31)

-- Blanks around the number, a sign, leading zeros and single underscores between digits are
-- accepted.
def integer? (s : List Char) : Option Int :=
  match trimBy surroundsNumber s with
  | '-' :: r => (magnitude? r).map fun n => -(n : Int)
  | '+' :: r => (magnitude? r).map Int.ofNat
  | r        => (magnitude? r).map Int.ofNat

end ComponentCatalog.Text
