namespace ComponentCatalog

inductive Fault
  | missing
  | unexpected
  -- a member whose name is no text
  | misnamed
  | unknownCategory
  | notString
  | tooShort (least : Nat)
  | tooLong (most : Nat)
  | notBool
  | unreadableBool
  | notList
  | notObject
  | notProp
  | notComponent
deriving DecidableEq, Repr

namespace Fault

def message : Fault → String
  | .missing         => "Field required"
  | .unexpected      => "Extra inputs are not permitted"
  | .misnamed        => "Keys should be strings"
  | .unknownCategory => "Input should be 'ui', 'layout', 'forms' or 'all'"
  | .notString       => "Input should be a valid string"
  | .tooShort 1      => "String should have at least 1 character"
  | .tooShort n      => s!"String should have at least {n} characters"
  | .tooLong n       => s!"String should have at most {n} characters"
  | .notBool         => "Input should be a valid boolean"
  | .unreadableBool  => "Input should be a valid boolean, unable to interpret input"
  | .notList         => "Input should be a valid list"
  | .notObject       => "Input should be a valid dictionary"
  | .notProp         => "Input should be a valid dictionary or instance of PropInfo"
  | .notComponent    => "Input should be a valid dictionary or instance of ComponentRecord"

end Fault

-- Where a value does not fit, and why.
structure Issue where
  -- member names and list positions, the outermost first
  location : List String
  fault    : Fault
deriving DecidableEq, Repr

end ComponentCatalog
