import ComponentCatalog.Component.Check

namespace ComponentCatalog.Mcp

-- A shape of JSON values. A record has named members of which only some are required, and any
-- further ones. Numbers and truth values are read generously where a shape says so.
inductive Shape
  | any
  | string
  -- an integer in the strict sense
  | integer
  -- an integer, also written as an integral float or as a truth value
  | integral
  -- a truth value, also written as a number or as a word
  | truth
  | nullable (s : Shape)
  | either (s t : Shape)
  | list (s : Shape)
  -- an object whose members all have one shape
  | mapping (s : Shape)
  | record (fields : List (String × Bool × Shape))

namespace Shape

def integral? : Json → Option Int
  | .int n   => some n
  | .bool b  => some (if b then 1 else 0)
  | .float x => x.toInt?.filter (·.natAbs < Nat.pow 2 63)
  | _        => none

mutual

def fits : Shape → Json → Bool
  | .any, _               => true
  | .string, .string _    => true
  | .integer, .int _      => true
  | .integral, v          => (integral? v).isSome
  | .truth, v             => (Component.Check.bool [] v).isOk
  | .nullable s, v        =>
    match v with
    | .null => true
    | v     => fits s v
  | .either s t, v        => fits s v || fits t v
  | .list s, .array vs    => vs.all (fits s)
  | .mapping s, .object ms => ms.all fun m => fits s m.2
  | .record fs, .object ms => fitsFields fs ms
  | _, _                  => false

def fitsFields : List (String × Bool × Shape) → List (String × Json) → Bool
  | [], _                      => true
  | (name, required, s) :: fs, ms =>
    (match ms.lookup name with
      | some v => fits s v
      | none   => !required) && fitsFields fs ms

end

def object : Shape := .record []

def needed (name : String) (s : Shape) : String × Bool × Shape := (name, true, s)

-- A member that may be absent or null.
def optional (name : String) (s : Shape) : String × Bool × Shape := (name, false, .nullable s)

end Shape
end ComponentCatalog.Mcp
