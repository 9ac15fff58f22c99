import ComponentCatalog.Json.Binary64
import ComponentCatalog.Text.Raw

namespace ComponentCatalog

-- A JSON value over texts of some kind. Integers are exact and of any size, and numerals with a
-- point or an exponent are floating-point numbers. Objects keep the order of their members.
inductive JsonOf (τ : Type)
  | null
  | bool (b : Bool)
  | int (n : Int)
  | float (x : Binary64)
  | string (s : τ)
  | array (elements : List (JsonOf τ))
  | object (members : List (τ × JsonOf τ))
deriving Inhabited

abbrev Json := JsonOf String

-- JSON as it was read.
abbrev RawJson := JsonOf Text.Raw

namespace JsonOf

variable {τ σ : Type}

def member? [BEq τ] (members : List (τ × JsonOf τ)) (key : τ) : Option (JsonOf τ) :=
  members.lookup key

-- The member of an object, if the value is an object that has it.
def get? [BEq τ] (v : JsonOf τ) (key : τ) : Option (JsonOf τ) :=
  match v with
  | .object members => member? members key
  | _               => none

mutual

def map (f : τ → σ) : JsonOf τ → JsonOf σ
  | .null      => .null
  | .bool b    => .bool b
  | .int n     => .int n
  | .float x   => .float x
  | .string s  => .string (f s)
  | .array vs  => .array (mapElements f vs)
  | .object ms => .object (mapMembers f ms)

def mapElements (f : τ → σ) : List (JsonOf τ) → List (JsonOf σ)
  | []      => []
  | v :: vs => map f v :: mapElements f vs

def mapMembers (f : τ → σ) : List (τ × JsonOf τ) → List (σ × JsonOf σ)
  | []           => []
  | (k, v) :: ms => (f k, map f v) :: mapMembers f ms

end

def ofStrings (ss : List String) : Json :=
  .array (ss.map .string)

-- The value as far as it can be compared with texts: no name and no text that is asked for anywhere
-- holds the character that stands for surrogates.
def shown (v : RawJson) : Json :=
  v.map Text.Raw.shown

def namesEncode : RawJson → Bool
  | .object members => members.all (·.1.encodes)
  | _               => true

-- Whether the member is a text that has no encoding.
def tornAt (v : RawJson) (key : String) : Bool :=
  match v.get? (.ofString key) with
  | some (.string t) => !t.encodes
  | _                => false

end JsonOf
end ComponentCatalog
