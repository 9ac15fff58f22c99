import ComponentCatalog.Text.CodeSet

namespace ComponentCatalog.Text

def blanks : CodeSet :=
  [9, 14, 28, 33, 133, 134, 160, 161, 5760, 5761, 8192, 8203, 8232, 8234, 8239, 8240, 8287, 8288,
   12288, 12289]

-- The zero-width characters U+200B and U+FEFF are not blank.
def isBlank (c : Char) : Bool :=
  member blanks c

-- The text without the leading and trailing characters that satisfy `p`.
def trimBy (p : Char → Bool) (s : List Char) : List Char :=
  ((s.dropWhile p).reverse.dropWhile p).reverse

def trim (s : List Char) : List Char :=
  trimBy isBlank s

end ComponentCatalog.Text
