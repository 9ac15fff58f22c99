import ComponentCatalog.Text.CodeSet

namespace ComponentCatalog.Text

-- The code points `first`, `first + stride`, … up to `last` move by `offset`.
structure CodeRun where
  first  : Nat
  last   : Nat
  stride : Nat
  offset : Int

def CodeRun.covers (r : CodeRun) (n : Nat) : Bool :=
  r.first ≤ n && n ≤ r.last && (n - r.first) % r.stride == 0

def shifted? (runs : List CodeRun) (n : Nat) : Option Nat :=
  (runs.find? (·.covers n)).map fun r => (Int.ofNat n + r.offset).toNat

-- The images of `first` and of the code points after it.
structure CodeBlock (α : Type) where
  first  : Nat
  images : List α

def CodeBlock.image? {α : Type} (b : CodeBlock α) (n : Nat) : Option α :=
  if n < b.first then none else b.images[n - b.first]?

def image? {α : Type} (blocks : List (CodeBlock α)) (n : Nat) : Option α :=
  blocks.findSome? (·.image? n)

end ComponentCatalog.Text
