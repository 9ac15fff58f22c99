import ComponentCatalog.Text.Hex

namespace ComponentCatalog.Text

def utf8Bytes (c : Char) : List UInt8 :=
  String.utf8EncodeChar c

def percentByte (b : UInt8) : List Char :=
  '%' :: (hex 2 b.toNat).map Char.toUpper

-- Characters that may not stand for themselves are written byte by byte.
def percentEncode (plain : Char → Bool) (s : List Char) : List Char :=
  s.flatMap fun c => if plain c then [c] else (utf8Bytes c).flatMap percentByte

def percentDecode : List Char → List UInt8
  | '%' :: a :: b :: r =>
    match hexValue? a, hexValue? b with
    | some x, some y => (16 * x + y).toUInt8 :: percentDecode r
    | _, _           => utf8Bytes '%' ++ percentDecode (a :: b :: r)
  | c :: r => utf8Bytes c ++ percentDecode r
  | []     => []

end ComponentCatalog.Text
