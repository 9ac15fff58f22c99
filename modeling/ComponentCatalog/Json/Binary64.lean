namespace ComponentCatalog

-- A floating-point number of 64 bits, as a bit pattern. A decimal numeral reads as the nearest
-- number, of two equally near the even one, and a number is written with the fewest digits that
-- read back.
structure Binary64 where
  bits : UInt64
deriving DecidableEq, Repr

namespace Binary64

def sign (negative : Bool) : UInt64 :=
  if negative then 0x8000000000000000 else 0

def zero (negative : Bool) : Binary64 :=
  ⟨sign negative⟩

def infinity (negative : Bool) : Binary64 :=
  ⟨sign negative + 0x7FF0000000000000⟩

def nan : Binary64 :=
  ⟨0x7FF8000000000000⟩

def isNegative (x : Binary64) : Bool :=
  x.bits.toNat / Nat.pow 2 63 == 1

-- The absolute value is `significand * 2 ^ exponent`, unless the number is not finite.
def biased (x : Binary64) : Nat :=
  x.bits.toNat / Nat.pow 2 52 % Nat.pow 2 11

def isFinite (x : Binary64) : Bool :=
  x.biased != 0x7FF

def significand (x : Binary64) : Nat :=
  x.bits.toNat % Nat.pow 2 52 + if x.biased == 0 then 0 else Nat.pow 2 52

def exponent (x : Binary64) : Int :=
  (max x.biased 1 : Nat) - 1075

-- Half a unit goes to the even neighbour.
def roundQuotient (n d : Nat) : Nat :=
  let q := n / d
  let r := 2 * (n % d)
  if d < r || (d == r && q % 2 == 1) then q + 1 else q

-- The number nearest to `n / d`, for positive `n` and `d`.
def ofRatio (negative : Bool) (n d : Nat) : Binary64 :=
  let q₀ : Int := n.log2 - d.log2 - 52
  let scaled (q : Int) : Nat × Nat :=
    if 0 ≤ q then (n, d * Nat.pow 2 q.toNat) else (n * Nat.pow 2 (-q).toNat, d)
  let q₁ := if (scaled q₀).1 / (scaled q₀).2 < Nat.pow 2 52 then q₀ - 1 else q₀
  let q := max q₁ (-1074)
  let m := roundQuotient (scaled q).1 (scaled q).2
  let magnitude := (q + 1074).toNat * Nat.pow 2 52 + m
  if 0x7FF0000000000000 ≤ magnitude then infinity negative
  else ⟨sign negative + magnitude.toUInt64⟩

def decimalLength (n : Nat) : Nat :=
  (Nat.toDigits 10 n).length

-- The number nearest to `n * 10 ^ e`.
def ofDecimal (negative : Bool) (n : Nat) (e : Int) : Binary64 :=
  if n == 0 || decimalLength n + e < -330 then zero negative
  else if 310 < decimalLength n + e then infinity negative
  else if 0 ≤ e then ofRatio negative (n * Nat.pow 10 e.toNat) 1
  else ofRatio negative n (Nat.pow 10 (-e).toNat)

def toInt? (x : Binary64) : Option Int :=
  let signed (n : Nat) : Int := if x.isNegative then -(n : Int) else n
  if !x.isFinite then none
  else if 0 ≤ x.exponent then some (signed (x.significand * Nat.pow 2 x.exponent.toNat))
  else
    let d := Nat.pow 2 (-x.exponent).toNat
    if x.significand % d == 0 then some (signed (x.significand / d)) else none

-- The integer next to a finite number, towards zero.
def truncate? (x : Binary64) : Option Int :=
  let n := if 0 ≤ x.exponent then x.significand * Nat.pow 2 x.exponent.toNat
    else x.significand / Nat.pow 2 (-x.exponent).toNat
  if x.isFinite then some (if x.isNegative then -(n : Int) else n) else none

-- The decimals of `k` digits around the absolute value that read back, as digits and power of ten.
def readBack (x : Binary64) (k : Nat) : List (Nat × Int) :=
  let (n, d) : Nat × Nat :=
    if 0 ≤ x.exponent then (x.significand * Nat.pow 2 x.exponent.toNat, 1)
    else (x.significand, Nat.pow 2 (-x.exponent).toNat)
  -- the power of ten of the leading digit, at most one too small
  let lead : Int := (decimalLength n : Int) - decimalLength d - 1
  let grid (e : Int) : Nat × Nat :=
    if 0 ≤ e then (n, d * Nat.pow 10 e.toNat) else (n * Nat.pow 10 (-e).toNat, d)
  let e₀ := lead - k + 1
  let e := if Nat.pow 10 k ≤ (grid e₀).1 / (grid e₀).2 then e₀ + 1 else e₀
  let below := (grid e).1 / (grid e).2
  let nearest := roundQuotient (grid e).1 (grid e).2
  let other := if nearest == below then below + 1 else below
  [nearest, other].filterMap fun m =>
    if ofDecimal x.isNegative m e == x then some (m, e) else none

def shortest? (x : Binary64) : Option (Nat × Int) :=
  (List.range 17).findSome? fun k => (x.readBack (k + 1)).head?

-- Positional from 0.0001 up to 10 ^ 16, else with an exponent of at least two digits.
def layout (digits : List Char) (point : Int) : List Char :=
  if -4 < point && point ≤ 0 then
    '0' :: '.' :: List.replicate (-point).toNat '0' ++ digits
  else if 0 < point && point ≤ 16 then
    let whole := digits.take point.toNat
    let rest := digits.drop point.toNat
    whole ++ List.replicate (point.toNat - whole.length) '0' ++
      '.' :: (if rest.isEmpty then ['0'] else rest)
  else
    let e := point - 1
    let power := Nat.toDigits 10 e.natAbs
    digits.take 1 ++ (if digits.length ≤ 1 then [] else '.' :: digits.drop 1) ++
      'e' :: (if e < 0 then '-' else '+') :: List.replicate (2 - power.length) '0' ++ power

-- Digits without trailing zeros.
def trimZeros (digits : List Char) : List Char :=
  (digits.reverse.dropWhile (· == '0')).reverse

def print (x : Binary64) : List Char :=
  if x.isFinite then
    let shown :=
      if x.significand == 0 then ['0', '.', '0']
      else
        match x.shortest? with
        | some (m, e) =>
          let digits := Nat.toDigits 10 m
          layout (trimZeros digits) (digits.length + e)
        | none => []
    if x.isNegative then '-' :: shown else shown
  else if x.bits.toNat % Nat.pow 2 52 != 0 then "NaN".toList
  else if x.isNegative then "-Infinity".toList
  else "Infinity".toList

end Binary64
end ComponentCatalog
