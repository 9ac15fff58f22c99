import ComponentCatalog.Json.Basic
import ComponentCatalog.OrderedMap
import ComponentCatalog.Text.Digit
import ComponentCatalog.Text.Encoding
import ComponentCatalog.Text.Hex

namespace ComponentCatalog.Json

inductive ReadError
  | malformed
  -- with the kind of the container that is one too many
  | tooDeep (isObject : Bool)
  | tooManyDigits (count : Nat)
deriving DecidableEq, Repr

namespace ReadError

def message : ReadError → String
  | .malformed           => "not a JSON text"
  | .tooDeep isObject    =>
    "maximum recursion depth exceeded while decoding a JSON " ++
      (if isObject then "object" else "array") ++ " from a unicode string"
  | .tooManyDigits count =>
    s!"Exceeds the limit ({Text.digitLimit} digits) for integer string conversion: " ++
      s!"value has {count} digits; use sys.set_int_max_str_digits() to increase the limit"

end ReadError

-- JSON is read one code point at a time, with the containers that are still open on a stack. Beyond
-- the standard's grammar, `NaN`, `Infinity` and `-Infinity` are values. A repeated member keeps its
-- place and takes the later value.
namespace Read

open Text (Point Raw)

abbrev Members := List (Raw × RawJson)

-- How many containers may be open at once.
def depthLimit : Nat := 960

-- An open container, with its elements in reverse or with its members and the key in turn.
inductive Frame
  | array (elements : List RawJson)
  | object (members : Members) (key : Raw)

def Frame.isObject : Frame → Bool
  | .object _ _ => true
  | .array _    => false

structure Numeral where
  negative    : Bool
  mantissa    : Nat := 0
  wholeDigits : Nat := 0
  places      : Nat := 0
  descending  : Bool := false
  exponent    : Nat := 0

-- The part of a numeral that was read last.
inductive Part
  | sign | zero | whole | point | fraction | mark | markSign | exponent

-- Where a text stands: `high` is a high surrogate that waits for its partner.
inductive Escape
  | plain (high : Option Nat)
  | slash (high : Option Nat)
  | unicode (high : Option Nat) (left value : Nat)

-- What may follow.
inductive Mode
  | value
  | element
  | member
  | key (members : Members)
  | colon (members : Members) (key : Raw)
  | text (members : Option Members) (written : Raw) (escape : Escape)
  | numeral (part : Part) (n : Numeral)
  | word (left : List Char) (v : RawJson)
  | done (v : RawJson)

structure State where
  mode  : Mode
  stack : List Frame

def State.start : State where
  mode  := .value
  stack := []

def isSpace (c : Char) : Bool :=
  c == ' ' || c == '\t' || c == '\n' || c == '\r'

def digit? (c : Char) : Option Nat :=
  if '0' ≤ c ∧ c ≤ '9' then some (c.toNat - '0'.toNat) else none

namespace Numeral

def whole (n : Numeral) (d : Nat) : Numeral :=
  { n with mantissa := 10 * n.mantissa + d, wholeDigits := n.wholeDigits + 1 }

def fraction (n : Numeral) (d : Nat) : Numeral :=
  { n with mantissa := 10 * n.mantissa + d, places := n.places + 1 }

def power (n : Numeral) (d : Nat) : Numeral :=
  { n with exponent := 10 * n.exponent + d }

def integer (n : Numeral) : Except ReadError RawJson :=
  if Text.digitLimit < n.wholeDigits then .error (.tooManyDigits n.wholeDigits)
  else .ok (.int (if n.negative then -(n.mantissa : Int) else n.mantissa))

def float (n : Numeral) : RawJson :=
  let e : Int := if n.descending then -(n.exponent : Int) else n.exponent
  .float (.ofDecimal n.negative n.mantissa (e - n.places))

-- The numeral goes on with `c`, or ends before it.
def next? (n : Numeral) (part : Part) (c : Char) : Option (Part × Numeral) :=
  match part, digit? c with
  | .sign, some d     => some (if d = 0 then .zero else .whole, n.whole d)
  | .whole, some d    => some (.whole, n.whole d)
  | .point, some d    => some (.fraction, n.fraction d)
  | .fraction, some d => some (.fraction, n.fraction d)
  | .mark, some d     => some (.exponent, n.power d)
  | .markSign, some d => some (.exponent, n.power d)
  | .exponent, some d => some (.exponent, n.power d)
  | .zero, none       => pointOrMark
  | .whole, none      => pointOrMark
  | .fraction, none   => markOnly
  | .mark, none       =>
    if c == '-' then some (.markSign, { n with descending := true })
    else if c == '+' then some (.markSign, n)
    else none
  | _, _              => none
where
  markOnly := if c == 'e' || c == 'E' then some (.mark, n) else none
  pointOrMark := if c == '.' then some (.point, n) else markOnly

-- A numeral cut short is an integer that junk follows, and junk is refused after the integer.
def finish (n : Numeral) : Part → Except ReadError RawJson
  | .zero | .whole              => n.integer
  | .fraction | .exponent       => .ok n.float
  | .sign                       => .error .malformed
  | .point | .mark | .markSign  => do
    if n.places = 0 then discard n.integer
    .error .malformed

end Numeral

-- What is written so far, with the surrogate that has waited in vain.
def settle (written : Raw) : Option Nat → Raw
  | some h => .ofNat h :: written
  | none   => written

def unit (written : Raw) (high : Option Nat) (u : Nat) : Raw × Option Nat :=
  if 0xDC00 ≤ u ∧ u < 0xE000 then
    match high with
    | some h =>
      (.char (Char.ofNat (0x10000 + (h - 0xD800) * 0x400 + (u - 0xDC00))) :: written, none)
    | none   => (.ofNat u :: written, none)
  else if 0xD800 ≤ u ∧ u < 0xDC00 then (settle written high, some u)
  else (.char (Char.ofNat u) :: settle written high, none)

def shortEscape? : Char → Option Char
  | '"'  => some '"'
  | '\\' => some '\\'
  | '/'  => some '/'
  | 'b'  => some '\x08'
  | 'f'  => some '\x0c'
  | 'n'  => some '\n'
  | 'r'  => some '\r'
  | 't'  => some '\t'
  | _    => none

def insertMember (members : Members) (key : Raw) (v : RawJson) : Members :=
  OrderedMap.put key v members

def push (stack : List Frame) (f : Frame) (mode : Mode) : Except ReadError State :=
  if depthLimit ≤ stack.length then .error (.tooDeep f.isObject)
  else .ok { mode, stack := f :: stack }

def beginValue (stack : List Frame) (c : Char) : Except ReadError State :=
  match c with
  | '"' => .ok { mode := .text none [] (.plain none), stack }
  | '[' => push stack (.array []) .element
  | '{' => push stack (.object [] []) .member
  | 't' => word "rue" (.bool true)
  | 'f' => word "alse" (.bool false)
  | 'n' => word "ull" .null
  | 'N' => word "aN" (.float .nan)
  | 'I' => word "nfinity" (.float (.infinity false))
  | '-' => .ok { mode := .numeral .sign { negative := true }, stack }
  | c   =>
    match Numeral.next? { negative := false } .sign c with
    | some (part, n) => .ok { mode := .numeral part n, stack }
    | none           => .error .malformed
where
  word (left : String) (v : RawJson) : Except ReadError State :=
    .ok { mode := .word left.toList v, stack }

def afterValue (stack : List Frame) (v : RawJson) (c : Char) : Except ReadError State :=
  if isSpace c then .ok { mode := .done v, stack }
  else
    match stack, c with
    | .array es :: fs, ','    => .ok { mode := .value, stack := .array (v :: es) :: fs }
    | .array es :: fs, ']'    => .ok { mode := .done (.array (v :: es).reverse), stack := fs }
    | .object ms k :: fs, ',' =>
      .ok { mode := .key (insertMember ms k v), stack := .object ms k :: fs }
    | .object ms k :: fs, '}' => .ok { mode := .done (.object (insertMember ms k v)), stack := fs }
    | _, _                    => .error .malformed

def inText (stack : List Frame) (members : Option Members) (written : Raw) (p : Point) :
    Escape → Except ReadError State
  | .plain high =>
    if p.shown == '"' then
      let t := (settle written high).reverse
      match members with
      | some ms => .ok { mode := .colon ms t, stack }
      | none    => .ok { mode := .done (.string t), stack }
    else if p.shown == '\\' then text written (.slash high)
    else if p.shown.toNat < 0x20 then .error .malformed
    else text (p :: settle written high) (.plain none)
  | .slash high =>
    if p.shown == 'u' then text written (.unicode high 3 0)
    else
      match shortEscape? p.shown with
      | some e => text (.char e :: settle written high) (.plain none)
      | none   => .error .malformed
  | .unicode high left value =>
    match Text.hexValue? p.shown, left with
    | some d, 0        =>
      let (written, high) := unit written high (16 * value + d)
      text written (.plain high)
    | some d, left + 1 => text written (.unicode high left (16 * value + d))
    | none, _          => .error .malformed
where
  text (written : Raw) (escape : Escape) : Except ReadError State :=
    .ok { mode := .text members written escape, stack }

def setKey (key : Raw) (members : Members) : List Frame → List Frame
  | .object _ _ :: fs => .object members key :: fs
  | fs                => fs

-- Outside of texts a surrogate is as wrong as the character that stands for it.
def step (s : State) (p : Point) : Except ReadError State :=
  let c := p.shown
  let stay : Except ReadError State := .ok s
  match s.mode with
  | .value => if isSpace c then stay else beginValue s.stack c
  | .element =>
    if isSpace c then stay
    else if c == ']' then .ok { mode := .done (.array []), stack := s.stack.tail }
    else beginValue s.stack c
  | .member =>
    if isSpace c then stay
    else if c == '}' then .ok { mode := .done (.object []), stack := s.stack.tail }
    else beginKey [] c
  | .key members => if isSpace c then stay else beginKey members c
  | .colon members key =>
    if isSpace c then stay
    else if c == ':' then .ok { mode := .value, stack := setKey key members s.stack }
    else .error .malformed
  | .text members written escape => inText s.stack members written p escape
  | .numeral part n =>
    match n.next? part c with
    | some (part, n) => .ok { s with mode := .numeral part n }
    | none           =>
      match part, n.negative, c with
      | .sign, true, 'I' =>
        .ok { s with mode := .word "nfinity".toList (.float (.infinity true)) }
      | _, _, _          => do afterValue s.stack (← n.finish part) c
  | .word left v =>
    match left with
    | [l]     => if c == l then .ok { s with mode := .done v } else .error .malformed
    | l :: ls => if c == l then .ok { s with mode := .word ls v } else .error .malformed
    | []      => .error .malformed
  | .done v => afterValue s.stack v c
where
  beginKey (members : Members) (c : Char) : Except ReadError State :=
    if c == '"' then .ok { s with mode := .text (some members) [] (.plain none) }
    else .error .malformed

def finish (s : State) : Except ReadError RawJson :=
  match s.mode, s.stack with
  | .done v, []            => .ok v
  | .numeral part n, stack => do
    let v ← n.finish part
    if stack.isEmpty then .ok v else .error .malformed
  | _, _                   => .error .malformed

end Read

def readRaw (t : Text.Raw) : Except ReadError RawJson := do
  Read.finish (← t.foldlM Read.step .start)

def read (cs : List Char) : Except ReadError Json :=
  (readRaw (.ofChars cs)).map .shown

-- Reads bytes in the encoding that they show themselves.
def readBytes (bytes : ByteArray) : Except ReadError RawJson :=
  match Text.decodeDetected? bytes with
  | some t => readRaw t
  | none   => .error .malformed

end ComponentCatalog.Json
