import ComponentCatalog.Text.Composed.Pair
import ComponentCatalog.Text.Composed.Rank

namespace ComponentCatalog.Text.Composed

-- Syllables of two or three letters are computed.
def syllable : Nat := 0xAC00
def initial  : Nat := 0x1100
def vowel    : Nat := 0x1161
-- No syllable has this final letter; the ones after it are final letters.
def final    : Nat := 0x11A7

def initials : Nat := 19
def vowels   : Nat := 21
def finals   : Nat := 28

def syllables : Nat :=
  initials * vowels * finals

def isSyllable (n : Nat) : Bool :=
  syllable ≤ n && n < syllable + syllables

def letters (n : Nat) : List Nat :=
  let k := n - syllable
  let pair := [initial + k / finals / vowels, vowel + k / finals % vowels]
  if k % finals = 0 then pair else pair ++ [final + k % finals]

def joinSyllable? (a b : Nat) : Option Nat :=
  if initial ≤ a ∧ a < initial + initials ∧ vowel ≤ b ∧ b < vowel + vowels then
    some (syllable + ((a - initial) * vowels + (b - vowel)) * finals)
  else if isSyllable a ∧ (a - syllable) % finals = 0 ∧ final < b ∧ b < final + finals then
    some (a + (b - final))
  else none

-- The parts of a code point, by pairs that come before the pairs their parts are made of.
def expand : List Pair → Nat → List Nat
  | [], n      => [n]
  | p :: ps, n => if n = p.whole then expand ps p.base ++ expand ps p.mark else expand ps n

-- The characters that a character is made of.
def parts (c : Char) : List Char :=
  let n := c.toNat
  let ns := if isSyllable n then letters n else expand pairs ((image? equals n).getD n)
  ns.map Char.ofNat

-- A character moves behind the marks of lower rank that follow it.
def place (c : Char) : List Char → List Char
  | []     => [c]
  | d :: s => if 0 < rank d ∧ rank d < rank c then d :: place c s else c :: d :: s

def arrange (s : List Char) : List Char :=
  s.foldr place []

def join? (a b : Char) : Option Char :=
  let pair? := pairs.find? fun p => p.base = a.toNat ∧ p.mark = b.toNat ∧ !parted.has p.whole
  ((joinSyllable? a.toNat b.toNat).or (pair?.map (·.whole))).map Char.ofNat

-- `base` takes in what it can be joined with, unless a mark of the same or a higher rank has stayed
-- between them.
def joinAll (base : Char) (stayed : List Char) : List Char → List Char
  | []     => base :: stayed
  | c :: s =>
    match if stayed.all (rank · < rank c) then join? base c else none with
    | some whole => joinAll whole stayed s
    | none       =>
      if rank c = 0 then base :: stayed ++ joinAll c [] s
      else joinAll base (stayed ++ [c]) s

end Composed

open Composed

-- Takes all characters apart, puts marks of different ranks in order and joins what can be joined,
-- so that equal texts become the same.
def compose (s : List Char) : List Char :=
  match arrange (s.flatMap parts) with
  | []     => []
  | c :: r => joinAll c [] r

end ComponentCatalog.Text
