import ComponentCatalog.Component.Basic
import ComponentCatalog.Json.Basic
import ComponentCatalog.Text.Lowercase

namespace ComponentCatalog

-- What a check yields: a value, or all that is wrong.
abbrev Checked (α : Type) := Except (List Issue) α

namespace Checked

def fail (location : List String) (fault : Fault) : Checked α :=
  .error [⟨location, fault⟩]

-- Both values, or the issues of both.
def both (a : Checked α) (b : Checked β) : Checked (α × β) :=
  match a, b with
  | .ok x, .ok y         => .ok (x, y)
  | .ok _, .error f      => .error f
  | .error e, .ok _      => .error e
  | .error e, .error f   => .error (e ++ f)

def all : List (Checked α) → Checked (List α)
  | []      => .ok []
  | c :: cs => (both c (all cs)).map fun (x, xs) => x :: xs

end Checked

namespace PropInfo

def toJson (info : PropInfo) : Json :=
  .object [("type", .string info.type), ("optional", .bool info.optional)]

end PropInfo

namespace Component

def toJson (c : Component) : Json :=
  .object [
    ("name", .string c.name),
    ("path", .string c.path),
    ("props", .object (c.props.entries.map fun (name, info) => (name, info.toJson))),
    ("usage", .string c.usage),
    ("dependencies", .ofStrings c.dependencies)]

namespace Check

def trueWords : List String := ["1", "on", "t", "true", "y", "yes"]

def falseWords : List String := ["0", "off", "f", "false", "n", "no"]

-- Integers of more than 64 bits are not even tried, nor floats that are no integers of that size.
def ofNumber (location : List String) (n : Int) (tried : Bool) : Checked Bool :=
  if n = 0 then .ok false
  else if n = 1 then .ok true
  else if tried then .fail location .unreadableBool
  else .fail location .notBool

-- Numbers count as truth values if they are 0 or 1, and texts if they are one of the usual words.
def bool (location : List String) : Json → Checked Bool
  | .bool b   => .ok b
  | .int n    => ofNumber location n (-9223372036854775808 ≤ n ∧ n ≤ 9223372036854775807)
  | .float x  =>
    x.toInt?.elim (.fail location .notBool) fun n => ofNumber location n (n.natAbs < Nat.pow 2 63)
  | .string s =>
    let word := Text.lowercase s
    if trueWords.contains word then .ok true
    else if falseWords.contains word then .ok false
    else .fail location .unreadableBool
  | _         => .fail location .notBool

def string (location : List String) (least : Nat) : Json → Checked String
  | .string s => if s.length < least then .fail location (.tooShort least) else .ok s
  | _         => .fail location .notString

def field (location : List String) (members : List (String × Json)) (key : String)
    (check : List String → Json → Checked α) : Checked α :=
  match members.lookup key with
  | some v => check (location ++ [key]) v
  | none   => .fail (location ++ [key]) .missing

def prop (location : List String) : Json → Checked PropInfo
  | .object ms =>
    ((field location ms "type" (string · 0)).both (field location ms "optional" bool)).map
      fun (type, optional) => { type, optional }
  | _          => .fail location .notProp

def props (location : List String) : Json → Checked Props
  | .object ms =>
    (Checked.all (ms.map fun (name, v) => (prop (location ++ [name]) v).map (name, ·))).map .ofList
  | _          => .fail location .notObject

def strings (location : List String) : Json → Checked (List String)
  | .array vs => .all (vs.mapIdx fun i v => string (location ++ [toString i]) 0 v)
  | _         => .fail location .notList

end Check

-- Unknown members are ignored, and all that is wrong with a value is reported at once.
def ofJson? : Json → Checked Component
  | .object ms =>
    let text (key : String) (least : Nat) := Check.field [] ms key (Check.string · least)
    let props := (JsonOf.member? ms "props").elim (.ok ∅) (Check.props ["props"])
    let dependencies :=
      (JsonOf.member? ms "dependencies").elim (.ok []) (Check.strings ["dependencies"])
    (text "name" 1 |>.both (text "path" 1) |>.both props |>.both (text "usage" 0)
      |>.both dependencies).map
      fun ((((name, path), props), usage), dependencies) =>
        { name, path, props, usage, dependencies }
  | _          => .fail [] .notComponent

end Component
end ComponentCatalog
