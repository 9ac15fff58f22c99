import ComponentCatalog.Text.Composed.Rank
import ComponentCatalog.Text.Mark

namespace ComponentCatalog.Text.Joiner

-- Letters that join the one after them.
def joinsNext : CodeSet :=
  [1568, 1569, 1574, 1575, 1576, 1577, 1578, 1583, 1587, 1600, 1601, 1608, 1609, 1611, 1646, 1648,
   1657, 1672, 1690, 1728, 1729, 1731, 1740, 1741, 1742, 1743, 1744, 1746, 1786, 1789, 1791, 1792,
   1810, 1813, 1818, 1822, 1823, 1832, 1833, 1834, 1835, 1836, 1837, 1839, 1870, 1881, 1884, 1899,
   1901, 1905, 1906, 1907, 1909, 1912, 1914, 1920, 1994, 2027, 2113, 2118, 2120, 2121, 2122, 2132,
   2133, 2134, 2144, 2145, 2146, 2150, 2152, 2153, 2182, 2183, 2185, 2190, 2191, 2199, 2208, 2218,
   2223, 2225, 2227, 2233, 2234, 2249, 6151, 6152, 6176, 6272, 6279, 6313, 6314, 6320, 43072, 43123,
   68288, 68293, 68301, 68302, 68307, 68317, 68318, 68321, 68331, 68335, 68480, 68481, 68482, 68483,
   68486, 68489, 68490, 68492, 68493, 68494, 68496, 68497, 68525, 68527, 68864, 68898, 68899, 68900,
   69315, 69317, 69318, 69328, 69424, 69427, 69428, 69445, 69457, 69460, 69488, 69492, 69494, 69506,
   69552, 69553, 69554, 69556, 69560, 69561, 69563, 69565, 69566, 69568, 69569, 69570, 69572, 69573,
   69578, 69600, 125218, 125252]

-- Letters that join the one before them.
def joinsPrevious : CodeSet :=
  [1568, 1569, 1570, 1600, 1601, 1611, 1646, 1648, 1649, 1652, 1657, 1748, 1749, 1750, 1774, 1776,
   1786, 1789, 1791, 1792, 1808, 1809, 1810, 1840, 1869, 1920, 1994, 2027, 2112, 2137, 2144, 2145,
   2146, 2150, 2151, 2179, 2182, 2183, 2185, 2199, 2208, 2221, 2222, 2249, 6151, 6152, 6176, 6272,
   6279, 6313, 6314, 6320, 43072, 43122, 68288, 68294, 68295, 68296, 68297, 68299, 68302, 68311,
   68312, 68322, 68324, 68325, 68331, 68336, 68480, 68505, 68521, 68527, 68865, 68900, 69314, 69317,
   69318, 69328, 69424, 69445, 69457, 69461, 69488, 69506, 69552, 69553, 69554, 69559, 69560, 69568,
   69569, 69573, 69577, 69579, 125218, 125252]

def isTransparent (c : Char) : Bool :=
  member nonspacing c || c.toNat == 125259

def mutes (c : Char) : Bool :=
  rank c == 9

-- The nearest character that is not transparent.
def neighbour? (s : List Char) : Option Char :=
  s.find? (!isTransparent ·)

-- A joiner may stand behind a sign that mutes a vowel or, if it keeps letters apart, between two
-- that would join.
def fits (before : List Char) (c : Char) (after : List Char) : Bool :=
  if c == '\u200d' then before.head?.any mutes
  else if c == '\u200c' then
    before.head?.any mutes ||
      (neighbour? before).any (member joinsNext) && (neighbour? after).any (member joinsPrevious)
  else true

-- What comes before stands in reverse.
def allFit (before : List Char) : List Char → Bool
  | []     => true
  | c :: r => fits before c r && allFit (c :: before) r

end ComponentCatalog.Text.Joiner
