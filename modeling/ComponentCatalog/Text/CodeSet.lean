namespace ComponentCatalog.Text

-- A set of characters, given by the ascending code points at which membership flips.
abbrev CodeSet := List Nat

namespace CodeSet

def has : CodeSet → Nat → Bool
  | [], _        => false
  | b :: s, n => if n < b then false else !has s n

end CodeSet

def member (s : CodeSet) (c : Char) : Bool :=
  s.has c.toNat

end ComponentCatalog.Text
