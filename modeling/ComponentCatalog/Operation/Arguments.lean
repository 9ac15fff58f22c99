import ComponentCatalog.Component.Check
import ComponentCatalog.Json.Display
import ComponentCatalog.Operation.Basic
import ComponentCatalog.Query

namespace ComponentCatalog

-- Why a value does not give an object.
inductive PairError
  | notIterable (kind : String)
  | notSequence (index : Nat)
  | wrongLength (index length : Nat)
  | unhashable (kind : String)
deriving DecidableEq, Repr

namespace PairError

def message : PairError → String
  | .notIterable kind => s!"'{kind}' object is not iterable"
  | .notSequence i    => s!"cannot convert dictionary update sequence element #{i} to a sequence"
  | .wrongLength i n  => s!"dictionary update sequence element #{i} has length {n}; 2 is required"
  | .unhashable kind  => s!"unhashable type: '{kind}'"

end PairError

-- What is given to a call.
structure Arguments where
  members  : List (String × Json)
  -- the names that are no texts, each once
  misnamed : List Json

namespace Arguments

abbrev Members := List (String × Json)

def ofMembers (members : Members) : Arguments where
  members  := members
  misnamed := []

-- What a list element consists of, if it can be a pair.
def items? : Json → Option (List Json)
  | .array vs  => some vs
  | .string s  => some (s.toList.map fun c => .string c.toString)
  | .object ms => some (ms.map fun (k, _) => .string k)
  | _          => none

def integer? : Json → Option Int
  | .int n   => some n
  | .bool b  => some (if b then 1 else 0)
  | .float x => x.toInt?
  | _        => none

-- Names are the same if they are equal as numbers, however they are written.
def sameName (v w : Json) : Bool :=
  match integer? v, integer? w with
  | some m, some n => m == n
  | none, none     =>
    match v, w with
    | .float x, .float y => x == y
    | .null, .null       => true
    | _, _               => false
  | _, _           => false

def put (k v : Json) (given : Arguments) : Except PairError Arguments :=
  match k with
  | .string s => .ok { given with members := OrderedMap.put s v given.members }
  | .array _  => .error (.unhashable k.kind)
  | .object _ => .error (.unhashable k.kind)
  | k         =>
    .ok (if given.misnamed.any (sameName k) then given
      else { given with misnamed := given.misnamed ++ [k] })

def ofPairs (i : Nat) (given : Arguments) : List Json → Except PairError Arguments
  | []      => .ok given
  | v :: vs =>
    match items? v with
    | none        => .error (.notSequence i)
    | some [k, w] => do ofPairs (i + 1) (← given.put k w) vs
    | some items  => .error (.wrongLength i items.length)

-- An object is taken as it is, a list as the pairs of names and values of an object, and whatever
-- counts as false as no arguments.
def ofJson? (v : Json) : Except PairError Arguments :=
  let empty := ofMembers []
  match v with
  | .null      => .ok empty
  | .bool b    => if b then .error (.notIterable v.kind) else .ok empty
  | .int n     => if n = 0 then .ok empty else .error (.notIterable v.kind)
  | .float x   => if x.toInt? = some 0 then .ok empty else .error (.notIterable v.kind)
  | .string s  => if s = "" then .ok empty else .error (.wrongLength 0 1)
  | .array vs  => ofPairs 0 empty vs
  | .object ms => .ok (ofMembers ms)

-- Where an argument is whose name is no text.
def label : Json → String
  | .bool b => if b then "1" else "0"
  | v       => v.display

def misnamings (given : Arguments) : List Issue :=
  given.misnamed.map fun k => ⟨[label k], .misnamed⟩

-- The arguments that no parameter takes.
def extras (params : List String) (given : Arguments) : List Issue :=
  (given.members.filter fun (k, _) => !params.contains k).map fun (k, _) => ⟨[k], .unexpected⟩

def closed (params : List String) (given : Arguments) (checked : Checked α) : Checked α :=
  match given.misnamings ++ extras params given, checked with
  | [], checked       => checked
  | issues, .ok _     => .error issues
  | issues, .error es => .error (es ++ issues)

def category (v : Json) : Checked Category :=
  match v with
  | .string s =>
    match Category.ofName? s with
    | some c => .ok c
    | none   => .fail ["category"] .unknownCategory
  | _ => .fail ["category"] .unknownCategory

def leastName : Nat := 2

def mostName : Nat := 100

def componentName (v : Json) : Checked String :=
  match v with
  | .string s =>
    if s.length < leastName then .fail ["name"] (.tooShort leastName)
    else if mostName < s.length then .fail ["name"] (.tooLong mostName)
    else .ok s
  | _ => .fail ["name"] .notString

end Arguments

-- A call with its arguments.
inductive Request
  | components (category : Category)
  | componentByName (name : String)
  | designTokens
deriving DecidableEq, Repr

namespace Request

open Arguments

def check? (given : Arguments) : Operation → Checked Request
  | .components      =>
    closed ["category"] given
      (((given.members.lookup "category").elim (.ok .all) category).map .components)
  | .componentByName =>
    closed ["name"] given
      (((given.members.lookup "name").elim (.fail ["name"] .missing) componentName).map
        .componentByName)
  | .designTokens    => closed [] given (.ok .designTokens)

end Request
end ComponentCatalog
