import ComponentCatalog.Json.Display
import ComponentCatalog.Json.Rounded
import ComponentCatalog.Text.Hex

namespace ComponentCatalog.Log

inductive FillError
  | tooFew
  | tooMany
  -- a name, but the values have none
  | nameless
  | unknownName (name : String)
  | openName
  | openPlace
  | unknownLetter (letter : Char) (index : Nat)
  | notInteger (letter : Char) (kind : String)
  | notReal (letter : Char) (kind : String)
  | notFloat (kind : String)
  | notChar
  | noSuchChar
  | measureNotInteger
  -- a number from the values that no word of the given kind holds
  | measureTooBig (word : String)
  | widthTooBig
  | precisionTooBig
  | infinite
  | notANumber
  | beyondFloats
deriving DecidableEq, Repr

namespace FillError

def letterText (letter : Char) : String :=
  if ' ' ≤ letter ∧ letter ≤ '~' ∨ letter = '\x1f' then letter.toString else "?"

def message : FillError → String
  | .tooFew                => "not enough arguments for format string"
  | .tooMany               => "not all arguments converted during string formatting"
  | .nameless              => "format requires a mapping"
  | .unknownName name      => Text.quoted name
  | .openName              => "incomplete format key"
  | .openPlace             => "incomplete format"
  | .unknownLetter c i     =>
    "unsupported format character '" ++ letterText c ++ "' (0x" ++
      String.ofList (Nat.toDigits 16 c.toNat) ++ ") at index " ++ toString i
  | .notInteger c kind     =>
    "%" ++ c.toString ++ " format: an integer is required, not " ++ kind
  | .notReal c kind        =>
    "%" ++ c.toString ++ " format: a real number is required, not " ++ kind
  | .notFloat kind         => "must be real number, not " ++ kind
  | .notChar               => "%c requires int or char"
  | .noSuchChar            => "%c arg not in range(0x110000)"
  | .measureNotInteger     => "* wants int"
  | .measureTooBig word    => "Python int too large to convert to C " ++ word
  | .widthTooBig           => "width too big"
  | .precisionTooBig       => "precision too big"
  | .infinite              => "cannot convert float infinity to integer"
  | .notANumber            => "cannot convert float NaN to integer"
  | .beyondFloats          => "int too large to convert to float"

end FillError

-- The name of a value, if it is given and closed.
inductive Naming
  | absent
  | unclosed
  | named (name : String)

-- A width or a precision.
inductive Measure
  | absent
  | given (n : Nat)
  | taken

-- A percent sign, then the name of a value in parentheses, flags, a width, a precision after a
-- point, and a letter that says how the value is written. All but the letter may be missing, and a
-- star stands for a width or a precision that is taken from the values.
structure Place where
  naming    : Naming
  flags     : List Char
  width     : Measure
  precision : Measure
  -- none, if the text ends before
  letter    : Option Char
  -- where the letter stands in the text
  index     : Nat

-- Two percent signs stand for one.
inductive Piece
  | plain (c : Char)
  | place (p : Place)

namespace Place

-- The name up to the parenthesis that closes the first of `depth + 1` open ones.
def readName : Nat → List Char → List Char → Naming × List Char
  | _, _, []                   => (.unclosed, [])
  | 0, name, ')' :: s          => (.named (String.ofList name.reverse), s)
  | depth + 1, name, ')' :: s  => readName depth (')' :: name) s
  | depth, name, '(' :: s      => readName (depth + 1) ('(' :: name) s
  | depth, name, c :: s        => readName depth (c :: name) s

def readMeasure : List Char → Measure × List Char
  | '*' :: s => (.taken, s)
  | s        =>
    let digits := s.takeWhile Char.isDigit
    (if digits.isEmpty then .absent
      else .given (digits.foldl (fun n d => 10 * n + (d.toNat - '0'.toNat)) 0),
      s.drop digits.length)

-- A point alone stands for a precision of zero.
def readPrecision : List Char → Measure × List Char
  | '.' :: s =>
    match readMeasure s with
    | (.absent, s) => (.given 0, s)
    | m            => m
  | s        => (.absent, s)

def isFlag (c : Char) : Bool :=
  "-+ #0".toList.contains c

def dropSize : List Char → List Char
  | c :: s => if "hlL".toList.contains c then s else c :: s
  | []     => []

-- The place behind a percent sign, in a text of the given length, and what follows it.
def read (length : Nat) (s : List Char) : Place × List Char :=
  let (naming, s) := match s with
    | '(' :: s => readName 0 [] s
    | s        => (.absent, s)
  let flags := s.takeWhile isFlag
  let (width, s) := readMeasure (s.drop flags.length)
  let (precision, s) := readPrecision s
  let s := dropSize s
  ({ naming, flags, width, precision, letter := s.head?, index := length - s.length }, s.tail)

def has (p : Place) (flag : Char) : Bool :=
  p.flags.contains flag

end Place

def pieces (length : Nat) : Nat → List Char → List Piece
  | 0, _                => []
  | _, []               => []
  | fuel + 1, '%' :: '%' :: s => .plain '%' :: pieces length fuel s
  | fuel + 1, '%' :: s  =>
    let (place, s) := Place.read length s
    .place place :: pieces length fuel s
  | fuel + 1, c :: s    => .plain c :: pieces length fuel s

def Piece.ofText (s : List Char) : List Piece :=
  pieces s.length s.length s

-- The values that are left. Named values can also be taken as a whole.
structure Supply where
  names  : Option (List (String × Json))
  values : List Json

namespace Supply

def ofValues : List Json → Supply
  | [.object (m :: ms)] => { names := some (m :: ms), values := [.object (m :: ms)] }
  | values              => { names := none, values }

def take (s : Supply) : Except FillError (Json × Supply) :=
  match s.values with
  | v :: vs => .ok (v, { s with values := vs })
  | []      => .error .tooFew

def choose (s : Supply) : Naming → Except FillError Supply
  | .absent  => .ok s
  | naming   =>
    match s.names, naming with
    | none, _             => .error .nameless
    | some ms, .named name =>
      match ms.lookup name with
      | some v => .ok { s with values := [v] }
      | none   => .error (.unknownName name)
    | _, _                => .error .openName

-- A number from the values must be less than `bound` in either direction.
def measure (s : Supply) (bound : Nat) (word : String) :
    Measure → Except FillError (Option Int × Supply)
  | .absent  => .ok (none, s)
  | .given n => .ok (some n, s)
  | .taken   => do
    let (v, s) ← s.take
    let n ← match v with
      | .int n  => .ok n
      | .bool b => .ok (if b then 1 else 0)
      | _       => .error .measureNotInteger
    if n < -bound ∨ bound ≤ n then throw (.measureTooBig word)
    return (some n, s)

end Supply

-- Decimals, or digits in a base that is not ten, of at least a given number.
structure Written where
  negative : Bool
  base     : List Char
  digits   : List Char

def widthBound : Nat := Nat.pow 2 63

def precisionBound : Nat := Nat.pow 2 31

def checkGiven (bound : Nat) (e : FillError) : Measure → Except FillError Unit
  | .given n => if bound ≤ n then .error e else .ok ()
  | _        => .ok ()

def integer (letter : Char) (v : Json) : Except FillError Int :=
  let whole := "oxX".toList.contains letter
  match v with
  | .int n   => .ok n
  | .bool b  => .ok (if b then 1 else 0)
  | .float x =>
    if whole then .error (.notInteger letter v.kind)
    else
      match x.truncate? with
      | some n => .ok n
      | none   => .error (if x.bits.toNat % Nat.pow 2 52 = 0 then .infinite else .notANumber)
  | v        => .error (if whole then .notInteger letter v.kind else .notReal letter v.kind)

def real (v : Json) : Except FillError Binary64 :=
  match v with
  | .float x => .ok x
  | .bool b  => .ok (if b then .ofRatio false 1 1 else .zero false)
  | .int n   =>
    let x := Binary64.ofDecimal (n < 0) n.natAbs 0
    if x.isFinite then .ok x else .error .beyondFloats
  | v        => .error (.notFloat v.kind)

def character (v : Json) : Except FillError Char :=
  let ofNumber (n : Int) : Except FillError Char :=
    if 0 ≤ n ∧ n < 0x110000 then .ok (Char.ofNat n.toNat) else .error .noSuchChar
  match v with
  | .string s =>
    match s.toList with
    | [c] => .ok c
    | _   => .error .notChar
  | .int n    => ofNumber n
  | .bool b   => ofNumber (if b then 1 else 0)
  | _         => .error .notChar

def asciiEscape (c : Char) : List Char :=
  if c.toNat < 0x80 then [c]
  else if c.toNat < 0x100 then '\\' :: 'x' :: Text.hex 2 c.toNat
  else if c.toNat < 0x10000 then '\\' :: 'u' :: Text.hex 4 c.toNat
  else '\\' :: 'U' :: Text.hex 8 c.toNat

namespace Place

def writtenInteger (p : Place) (letter : Char) (precision : Nat) (n : Int) : Written :=
  let base := if letter = 'o' then 8 else if letter = 'x' ∨ letter = 'X' then 16 else 10
  let digits := Nat.toDigits base n.natAbs
  let digits := List.replicate (precision - digits.length) '0' ++ digits
  let upper (cs : List Char) := if letter = 'X' then cs.map Char.toUpper else cs
  { negative := n < 0
    base     := if base ≠ 10 ∧ p.has '#' then upper ['0', letter] else []
    digits   := upper digits }

def writtenReal (p : Place) (letter : Char) (precision : Nat) (x : Binary64) : Written :=
  let digits :=
    if !x.isFinite then (if x.bits.toNat % Nat.pow 2 52 = 0 then "inf" else "nan").toList
    else
      match letter.toLower with
      | 'e' => x.scientific precision (p.has '#')
      | 'f' => x.fixed precision (p.has '#')
      | _   => x.general precision (p.has '#')
  { negative := x.isNegative
    base     := []
    digits   := if letter.isUpper then digits.map Char.toUpper else digits }

def pad (p : Place) (width : Nat) (s : List Char) : List Char :=
  let spaces := List.replicate (width - s.length) ' '
  if p.has '-' then s ++ spaces else spaces ++ s

-- Zeros stand between the sign or the base and the digits.
def padNumber (p : Place) (width : Nat) (w : Written) : List Char :=
  let sign := if w.negative then ['-'] else if p.has '+' then ['+']
    else if p.has ' ' then [' '] else []
  let front := sign ++ w.base
  let zeros := if p.has '0' && !p.has '-' then width - (front.length + w.digits.length) else 0
  p.pad width (front ++ List.replicate zeros '0' ++ w.digits)

-- What stands for a value. `width` below zero means the same as the flag for the left side.
def write (p : Place) (letter : Char) (width precision : Option Int) (v : Json) :
    Except FillError (List Char) :=
  let p := if (width.getD 0) < 0 then { p with flags := '-' :: p.flags } else p
  let width := (width.getD 0).natAbs
  let cut (s : List Char) := match precision with
    | some n => s.take n.toNat
    | none   => s
  let places (default : Nat) : Nat := (precision.map Int.toNat).getD default
  match letter with
  | 's' => return p.pad width (cut v.plain.toList)
  | 'r' => return p.pad width (cut v.display.toList)
  | 'a' => return p.pad width (cut (v.display.toList.flatMap asciiEscape))
  | 'c' => return p.pad width [← character v]
  | c   =>
    if "diuoxX".toList.contains c then
      return p.padNumber width (p.writtenInteger c (places 0) (← integer c v))
    else if "eEfFgG".toList.contains c then
      return p.padNumber width (p.writtenReal c (places 6) (← real v))
    else .error (.unknownLetter c p.index)

def fill (p : Place) (s : Supply) : Except FillError (List Char × Supply) := do
  let s ← s.choose p.naming
  checkGiven widthBound .widthTooBig p.width
  let (width, s) ← s.measure widthBound "ssize_t" p.width
  checkGiven precisionBound .precisionTooBig p.precision
  let (precision, s) ← s.measure precisionBound "int" p.precision
  match p.letter with
  | none   => throw .openPlace
  | some c => do
    let (v, s) ← s.take
    return (← p.write c width precision v, s)

end Place

def fillPieces (s : Supply) : List Piece → Except FillError (List Char)
  | []             => if s.names.isNone && !s.values.isEmpty then .error .tooMany else .ok []
  | .plain c :: ps => return c :: (← fillPieces s ps)
  | .place p :: ps => do
    let (text, s) ← p.fill s
    return text ++ (← fillPieces s ps)

-- Fills the places in order. A single object with members gives its members by their names.
def fill (text : String) (values : List Json) : Except FillError String :=
  (fillPieces (.ofValues values) (Piece.ofText text.toList)).map String.ofList

end ComponentCatalog.Log
