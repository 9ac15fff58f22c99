import ComponentCatalog.Text.Split

namespace ComponentCatalog.Text.Punycode

def firstCode : Nat := 0x80
def firstBias : Nat := 72

-- Numbers in codes that are read stay below it.
def limit : Nat := Nat.pow 2 32

def isBasic (c : Char) : Bool :=
  c.toNat < firstCode

def digit (d : Nat) : Char :=
  Char.ofNat (if d < 26 then 'a'.toNat + d else '0'.toNat + (d - 26))

def digitValue? (c : Char) : Option Nat :=
  if c.isLower then some (c.toNat - 'a'.toNat)
  else if c.isUpper then some (c.toNat - 'A'.toNat)
  else if c.isDigit then some (c.toNat - '0'.toNat + 26)
  else none

def base : Nat := 36

-- Numbers begin with their lowest digit and say where they end: a digit is the last one if it is
-- below a threshold that depends on its place. The bias moves the thresholds to where the numbers
-- so far let expect the next one to end.
def threshold (bias place : Nat) : Nat :=
  max 1 (min 26 (place - bias))

theorem threshold_pos (bias place : Nat) : 0 < threshold bias place := by
  simp only [threshold]; omega

def scale (step bias : Nat) : Nat :=
  if 455 < step then scale (step / 35) (bias + base) else bias + base * step / (step + 38)
termination_by step
decreasing_by exact Nat.div_lt_self (by omega) (by omega)

-- The bias after a step to the character that makes the text `size` characters long.
def adapt (step size : Nat) (isFirst : Bool) : Nat :=
  let step := if isFirst then step / 700 else step / 2
  scale (step + step / size) 0

def number (bias place n : Nat) : List Char :=
  let t := threshold bias place
  if n < t then [digit n]
  else digit (t + (n - t) % (base - t)) :: number bias (place + base) ((n - t) / (base - t))
termination_by n
decreasing_by
  have := threshold_pos bias place
  exact Nat.lt_of_le_of_lt (Nat.div_le_self _ _) (by omega)

-- For each character that is not basic, its code and its place among the characters that have been
-- written when it is.
def places (before : List Char) : List Char → List (Nat × Nat)
  | []     => []
  | c :: s =>
    let later := places (before ++ [c]) s
    if isBasic c then later else (c.toNat, before.countP (·.toNat ≤ c.toNat)) :: later

-- `code` and `place` are where the last step has led.
def steps (basics size code place bias : Nat) : List (Nat × Nat) → List Char
  | []          => []
  | (m, p) :: r =>
    let step := (m - code) * size + p - place
    number bias base step ++
      steps basics (size + 1) m (p + 1) (adapt step size (size = basics + 1)) r

-- The ASCII characters come first, and then, for each other character in the order of their codes,
-- how far it is from the one before it: a step through all codes, and for each code through all
-- places in the text so far.
def encode (s : List Char) : List Char :=
  let basics := s.filter isBasic
  let others := (places [] s).mergeSort fun a b => a.1 ≤ b.1
  (if basics.isEmpty then [] else basics ++ ['-']) ++
    steps basics.length (basics.length + 1) firstCode 0 firstBias others

structure Decoder where
  text   : List Char
  -- where the last step has led
  code   : Nat
  place  : Nat
  bias   : Nat
  -- the number so far, and what the next digit counts
  digits : Nat
  weight : Nat
  step   : Nat

namespace Decoder

-- Insert the character that is `step` away.
def insert? (d : Decoder) : Option Decoder := do
  let size := d.text.length + 1
  let code := d.code + (d.place + d.step) / size
  let place := (d.place + d.step) % size
  guard code.isValidChar
  return {
    text   := d.text.insertIdx place (Char.ofNat code)
    code
    place  := place + 1
    bias   := adapt d.step size (d.place = 0)
    digits := 0
    weight := 1
    step   := 0 }

def read? (d : Decoder) (c : Char) : Option Decoder := do
  let n ← digitValue? c
  let t := threshold d.bias (base * (d.digits + 1))
  let d := { d with step := d.step + n * d.weight }
  guard (d.place + d.step < limit)
  if n < t then d.insert?
  else
    guard (d.weight * (base - t) < limit)
    return { d with digits := d.digits + 1, weight := d.weight * (base - t) }

end Decoder

def decode? (s : List Char) : Option (List Char) := do
  let (basics, code) := match cutLast? '-' s with
    | some (a :: r, code) => (a :: r, code)
    | _                   => ([], s)
  guard (basics.all isBasic)
  let d ← code.foldlM Decoder.read?
    { text := basics, code := firstCode, place := 0, bias := firstBias,
      digits := 0, weight := 1, step := 0 }
  guard (d.digits = 0)
  return d.text

end ComponentCatalog.Text.Punycode
