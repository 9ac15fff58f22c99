import ComponentCatalog.Text.Mark

namespace ComponentCatalog.Text

inductive Direction where
  | leftToRight
  | rightToLeft
  | arabicNumber
  | europeanNumber
  | neutral
  | mark
  deriving DecidableEq

namespace Direction

def rightToLeftLetters : CodeSet :=
  [1470, 1471, 1472, 1473, 1475, 1476, 1478, 1479, 1488, 1542, 1544, 1545, 1547, 1548, 1549, 1550,
   1563, 1611, 1645, 1648, 1649, 1750, 1765, 1767, 1774, 1776, 1786, 1809, 1810, 1840, 1869, 1958,
   1969, 2027, 2036, 2038, 2042, 2045, 2046, 2070, 2074, 2075, 2084, 2085, 2088, 2089, 2096, 2137,
   2142, 2199, 2208, 2250, 64434, 64830, 64912, 64975, 65139, 65536, 67584, 67871, 67872, 68097,
   68112, 68152, 68160, 68325, 68331, 68409, 68416, 68900, 68928, 68969, 68974, 69216, 69248, 69291,
   69293, 69370, 69376, 69446, 69457, 69506, 69510, 69632, 124928, 125136, 125218, 125252, 125259,
   126704]

def arabicNumbers : CodeSet :=
  [1632, 1642, 1643, 1645, 68912, 68928, 69216, 69248]

def europeanNumbers : CodeSet :=
  [48, 58, 1776, 1786, 66273, 66304]

def neutrals : CodeSet :=
  [0, 48, 58, 97, 123, 223, 247, 248, 697, 699, 706, 720, 722, 750, 751, 768, 885, 887, 1014, 1016,
   1418, 1425, 1542, 1544, 1545, 1547, 1548, 1549, 1550, 1552, 1642, 1643, 1758, 1759, 1769, 1770,
   2038, 2042, 2546, 2548, 2555, 2556, 2801, 2809, 3059, 3072, 3192, 3199, 3647, 3648, 3898, 3902,
   5008, 5024, 5120, 5121, 5787, 5792, 6107, 6108, 6128, 6160, 6464, 6470, 6622, 6656, 8204, 8400,
   8452, 8526, 8586, 9014, 9083, 9109, 9110, 9255, 9280, 9900, 9901, 10240, 10496, 11158, 11159,
   11312, 11493, 11500, 11513, 11520, 11776, 12293, 12296, 12321, 12336, 12337, 12343, 12347, 12349,
   12353, 12448, 12449, 12539, 12540, 12736, 12772, 19904, 19968, 42128, 42192, 42509, 42512, 42611,
   42612, 42622, 42625, 42752, 42787, 42888, 42889, 43048, 43052, 43064, 43072, 43124, 43136, 43882,
   43968, 64830, 64912, 64975, 65056, 65093, 65139, 65793, 65794, 65856, 65933, 65936, 66000, 67871,
   67872, 68409, 68416, 69714, 69734, 71264, 71296, 71454, 71455, 73685, 73727, 94178, 94179,
   119273, 119362, 119365, 119488, 119552, 119648, 123647, 124112, 126704, 127312, 127341, 127344,
   127405, 127462, 127584, 128728, 128732, 128887, 128891, 129202, 129280, 129620, 129632, 129673,
   129680, 129726, 129727, 129734, 129742, 129756, 129760, 129769, 129776, 129995]

-- Marks that count as letters of their script.
def letterMarks : List Nat :=
  [3263, 3270, 72199, 72200, 72767]

-- Characters that no rule tells from letters written left to right count as such.
def of (c : Char) : Direction :=
  if member rightToLeftLetters c then .rightToLeft
  else if member arabicNumbers c then .arabicNumber
  else if member europeanNumbers c then .europeanNumber
  else if member nonspacing c && !letterMarks.contains c.toNat then .mark
  else if member neutrals c then .neutral
  else .leftToRight

-- Whether a text needs reading from right to left somewhere.
def turns (s : List Char) : Bool :=
  s.any fun c => of c == .rightToLeft || of c == .arabicNumber

-- The last direction that is no mark's.
def final? (ds : List Direction) : Option Direction :=
  ds.reverse.find? (· != .mark)

-- No reader can take the text for one of the other direction: it begins with a letter of its
-- direction, holds no letter of the other one and ends in a letter or number.
def readsOneWay (s : List Char) : Bool :=
  let ds := s.map of
  match ds.head? with
  | none              => true
  | some .leftToRight =>
    !ds.contains .rightToLeft && !ds.contains .arabicNumber &&
      (final? ds == some .leftToRight || final? ds == some .europeanNumber)
  | some .rightToLeft =>
    !ds.contains .leftToRight && !(ds.contains .arabicNumber && ds.contains .europeanNumber) &&
      final? ds != some .neutral
  | _                 => false

end Direction
end ComponentCatalog.Text
