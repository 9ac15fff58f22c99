import ComponentCatalog.Json.Basic
import ComponentCatalog.Text.Quoted

namespace ComponentCatalog

namespace Binary64

def display (x : Binary64) : String :=
  if x.isFinite then String.ofList x.print
  else if x.bits.toNat % Nat.pow 2 52 ≠ 0 then "nan"
  else if x.isNegative then "-inf" else "inf"

end Binary64

namespace Json

mutual

def display : Json → String
  | .null       => "None"
  | .bool true  => "True"
  | .bool false => "False"
  | .int n      => toString n
  | .float x    => x.display
  | .string s   => Text.quoted s
  | .array vs   => "[" ++ ", ".intercalate (displayElements vs) ++ "]"
  | .object ms  => "\x7b" ++ ", ".intercalate (displayMembers ms) ++ "\x7d"

def displayElements : List Json → List String
  | []      => []
  | v :: vs => display v :: displayElements vs

def displayMembers : List (String × Json) → List String
  | []           => []
  | (k, v) :: ms => (Text.quoted k ++ ": " ++ display v) :: displayMembers ms

end

-- A text by itself needs no quotes.
def plain : Json → String
  | .string s => s
  | v         => v.display

-- What a message calls the kind of a value.
def kind : Json → String
  | .null     => "NoneType"
  | .string _ => "str"
  | .array _  => "list"
  | .object _ => "dict"
  | .bool _   => "bool"
  | .int _    => "int"
  | .float _  => "float"

end Json
end ComponentCatalog
