import ComponentCatalog.Json.Basic
import ComponentCatalog.Text.Hex

namespace ComponentCatalog.Json

-- Control characters, quotes and backslashes are always escaped. Whether other characters are is
-- the style's choice.
structure Style where
  -- how far each level is indented, if the text has several lines
  indent    : Option Nat
  asciiOnly : Bool

namespace Style

def compact : Style := ⟨none, false⟩

def indented : Style := ⟨some 2, false⟩

def indentedAscii : Style := ⟨some 2, true⟩

-- What separates the items `depth` levels down.
def newline (style : Style) (depth : Nat) : List Char :=
  match style.indent with
  | some n => '\n' :: List.replicate (n * depth) ' '
  | none   => []

def colon (style : Style) : List Char :=
  match style.indent with
  | some _ => [':', ' ']
  | none   => [':']

end Style

def escapeUnit (u : Nat) : List Char :=
  '\\' :: 'u' :: Text.hex 4 u

def escapeChar (asciiOnly : Bool) (c : Char) : List Char :=
  if c == '"' || c == '\\' then ['\\', c]
  else if c == '\n' then ['\\', 'n']
  else if c == '\r' then ['\\', 'r']
  else if c == '\t' then ['\\', 't']
  else if c == '\x08' then ['\\', 'b']
  else if c == '\x0c' then ['\\', 'f']
  else if c.toNat < 0x20 then escapeUnit c.toNat
  else if !asciiOnly || c.toNat < 0x7F then [c]
  else if c.toNat < 0x10000 then escapeUnit c.toNat
  else
    let n := c.toNat - 0x10000
    escapeUnit (0xD800 + n / 0x400) ++ escapeUnit (0xDC00 + n % 0x400)

def printString (asciiOnly : Bool) (s : String) : List Char :=
  '"' :: s.toList.flatMap (escapeChar asciiOnly) ++ ['"']

def printInt (n : Int) : List Char :=
  if n < 0 then '-' :: Nat.toDigits 10 n.natAbs else Nat.toDigits 10 n.natAbs

mutual

def print (style : Style) (depth : Nat) : Json → List Char
  | .null          => "null".toList
  | .bool true     => "true".toList
  | .bool false    => "false".toList
  | .int n         => printInt n
  | .float x       => x.print
  | .string s      => printString style.asciiOnly s
  | .array []      => ['[', ']']
  | .array (v :: vs) =>
    '[' :: style.newline (depth + 1) ++ print style (depth + 1) v ++
      printElements style (depth + 1) vs ++ style.newline depth ++ [']']
  | .object []     => ['{', '}']
  | .object ((k, v) :: ms) =>
    '{' :: style.newline (depth + 1) ++ printString style.asciiOnly k ++ style.colon ++
      print style (depth + 1) v ++ printMembers style (depth + 1) ms ++
      style.newline depth ++ ['}']

def printElements (style : Style) (depth : Nat) : List Json → List Char
  | []      => []
  | v :: vs => ',' :: style.newline depth ++ print style depth v ++ printElements style depth vs

def printMembers (style : Style) (depth : Nat) : List (String × Json) → List Char
  | []           => []
  | (k, v) :: ms =>
    ',' :: style.newline depth ++ printString style.asciiOnly k ++ style.colon ++
      print style depth v ++ printMembers style depth ms

end

def render (style : Style) (v : Json) : String :=
  String.ofList (print style 0 v)

end ComponentCatalog.Json
