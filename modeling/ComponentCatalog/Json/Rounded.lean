import ComponentCatalog.Json.Binary64

namespace ComponentCatalog.Binary64

-- The absolute value of a finite number, as a quotient.
def ratio (x : Binary64) : Nat × Nat :=
  if 0 ≤ x.exponent then (x.significand * Nat.pow 2 x.exponent.toNat, 1)
  else (x.significand, Nat.pow 2 (-x.exponent).toNat)

-- The absolute value in units of `10 ^ e`.
def inUnits (x : Binary64) (e : Int) : Nat × Nat :=
  let (n, d) := x.ratio
  if 0 ≤ e then (n, d * Nat.pow 10 e.toNat) else (n * Nat.pow 10 (-e).toNat, d)

def rounded (x : Binary64) (e : Int) : Nat :=
  let (n, d) := x.inUnits e
  roundQuotient n d

def padded (count n : Nat) : List Char :=
  let digits := Nat.toDigits 10 n
  List.replicate (count - digits.length) '0' ++ digits

-- A point, unless nothing follows that needs one.
def withPoint (point : Bool) (whole fraction : List Char) : List Char :=
  if fraction.isEmpty && !point then whole else whole ++ '.' :: fraction

-- The digits before and after the point.
def fixedDigits (x : Binary64) (places : Nat) : List Char × List Char :=
  let digits := padded (places + 1) (x.rounded (-places))
  (digits.take (digits.length - places), digits.drop (digits.length - places))

-- The power of ten of the leading digit.
def leading (x : Binary64) : Int :=
  let (n, d) := x.ratio
  let e : Int := decimalLength n - decimalLength d
  let (n, d) := x.inUnits e
  if n < d then e - 1 else e

-- One digit before the point, those behind it, and the power of ten.
def scientificDigits (x : Binary64) (places : Nat) : List Char × List Char × Int :=
  if x.significand = 0 then (['0'], List.replicate places '0', 0)
  else
    let e := x.leading
    let n := x.rounded (e - places)
    let (n, e) := if decimalLength n = places + 1 then (n, e) else (n / 10, e + 1)
    let digits := Nat.toDigits 10 n
    (digits.take 1, digits.drop 1, e)

def power (e : Int) : List Char :=
  'e' :: (if e < 0 then '-' else '+') :: padded 2 e.natAbs

def fixed (x : Binary64) (places : Nat) (point : Bool) : List Char :=
  let (whole, fraction) := x.fixedDigits places
  withPoint point whole fraction

def scientific (x : Binary64) (places : Nat) (point : Bool) : List Char :=
  let (whole, fraction, e) := x.scientificDigits places
  withPoint point whole fraction ++ power e

-- The shorter of both forms, for a number of digits. Final zeros are kept only on demand.
def general (x : Binary64) (digits : Nat) (keep : Bool) : List Char :=
  let places := max digits 1 - 1
  let cut (fraction : List Char) := if keep then fraction else trimZeros fraction
  let (whole, fraction, e) := x.scientificDigits places
  if -4 ≤ e ∧ e ≤ places then
    let (whole, fraction) := x.fixedDigits (places - e).toNat
    withPoint keep whole (cut fraction)
  else withPoint keep whole (cut fraction) ++ power e

end ComponentCatalog.Binary64
