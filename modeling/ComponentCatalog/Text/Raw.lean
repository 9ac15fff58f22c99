namespace ComponentCatalog.Text

-- A code point: a character, or a surrogate that stands alone, counted from the first surrogate.
inductive Point
  | char (c : Char)
  | lone (n : Fin 0x800)
deriving DecidableEq, Repr

namespace Point

def ofNat (n : Nat) : Point :=
  if h : 0xD800 ≤ n ∧ n < 0xE000 then .lone ⟨n - 0xD800, by omega⟩ else .char (Char.ofNat n)

def isChar : Point → Bool
  | .char _ => true
  | .lone _ => false

-- What stands for a surrogate where it makes no difference which one it is.
def replacement : Char := '\uFFFD'

def shown : Point → Char
  | .char c => c
  | .lone _ => replacement

end Point

-- A text as it was read. It can be encoded if there are only characters in it.
abbrev Raw := List Point

namespace Raw

def ofChars (cs : List Char) : Raw :=
  cs.map .char

def ofString (s : String) : Raw :=
  ofChars s.toList

def shown (t : Raw) : String :=
  String.ofList (t.map Point.shown)

def encodes (t : Raw) : Bool :=
  t.all Point.isChar

end Raw
end ComponentCatalog.Text
