import ComponentCatalog.Text.Raw

namespace ComponentCatalog.Text

-- How a text is written in bytes. It shows its own encoding by a byte order mark, or else by where
-- its first four bytes are zero.
inductive Encoding
  | utf8
  | utf16 (bigEndian : Bool)
  | utf32 (bigEndian : Bool)

namespace Encoding

def ofZeros : List UInt8 → Encoding
  | 0 :: b :: _ :: _ :: _ => if b == 0 then .utf32 true else .utf16 true
  | _ :: 0 :: c :: d :: _ => if c == 0 && d == 0 then .utf32 false else .utf16 false
  | [0, _]                => .utf16 true
  | [_, 0]                => .utf16 false
  | _                     => .utf8

-- The encoding and the bytes without the mark.
def detect : List UInt8 → Encoding × List UInt8
  | 0x00 :: 0x00 :: 0xFE :: 0xFF :: r => (.utf32 true, r)
  | 0xFF :: 0xFE :: 0x00 :: 0x00 :: r => (.utf32 false, r)
  | 0xFE :: 0xFF :: r                 => (.utf16 true, r)
  | 0xFF :: 0xFE :: r                 => (.utf16 false, r)
  | 0xEF :: 0xBB :: 0xBF :: r         => (.utf8, r)
  | bytes                             => (ofZeros bytes, bytes)

def halves? (bigEndian : Bool) : List UInt8 → Option (List Nat)
  | []          => some []
  | [_]         => none
  | a :: b :: r =>
    let n := if bigEndian then a.toNat * 256 + b.toNat else b.toNat * 256 + a.toNat
    (halves? bigEndian r).map (n :: ·)

def strict? (bytes : List UInt8) : Option Raw :=
  (String.fromUTF8? ⟨bytes.toArray⟩).map Raw.ofString

-- The bytes are cut where three of them stand for a surrogate. The bytes before the next cut come
-- in reverse.
def lenient? (before : List UInt8) : List UInt8 → Option Raw
  | 0xED :: b :: c :: r =>
    if 0xA0 ≤ b ∧ b < 0xC0 ∧ 0x80 ≤ c ∧ c < 0xC0 then do
      let surrogate := .ofNat (0xD000 + (b.toNat - 0x80) * 0x40 + (c.toNat - 0x80))
      return (← strict? before.reverse) ++ surrogate :: (← lenient? [] r)
    else lenient? (0xED :: before) (b :: c :: r)
  | b :: r              => lenient? (b :: before) r
  | []                  => strict? before.reverse

def ofUnits16 : List Nat → Raw
  | []          => []
  | [u]         => [.ofNat u]
  | u :: v :: r =>
    if 0xD800 ≤ u ∧ u < 0xDC00 ∧ 0xDC00 ≤ v ∧ v < 0xE000 then
      .char (Char.ofNat (0x10000 + (u - 0xD800) * 0x400 + (v - 0xDC00))) :: ofUnits16 r
    else
      .ofNat u :: ofUnits16 (v :: r)

def ofUnits32? (bigEndian : Bool) : List Nat → Option Raw
  | []          => some []
  | [_]         => none
  | u :: v :: r => do
    let n := if bigEndian then u * 0x10000 + v else v * 0x10000 + u
    guard (n < 0x110000)
    return .ofNat n :: (← ofUnits32? bigEndian r)

-- Surrogates are decoded like characters, in every encoding.
def decode? : Encoding → List UInt8 → Option Raw
  | .utf8, bytes            => (strict? bytes).or (lenient? [] bytes)
  | .utf16 bigEndian, bytes => (halves? bigEndian bytes).map ofUnits16
  | .utf32 bigEndian, bytes => (halves? bigEndian bytes).bind (ofUnits32? bigEndian)

end Encoding

-- The text in the encoding that its first bytes show.
def decodeDetected? (bytes : ByteArray) : Option Raw :=
  let (encoding, content) := Encoding.detect bytes.toList
  encoding.decode? content

end ComponentCatalog.Text
