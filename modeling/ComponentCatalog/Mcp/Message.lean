import ComponentCatalog.Json.Read
import ComponentCatalog.Mcp.Params
import ComponentCatalog.Text.Digit
import ComponentCatalog.Text.Split

namespace ComponentCatalog.Mcp

abbrev Members := List (String × Json)

inductive RequestId
  | number (n : Int)
  | text (s : String)
deriving DecidableEq, Repr

namespace RequestId

def toJson : RequestId → Json
  | .number n => .int n
  | .text s   => .string s

def ofJson? : Json → Option RequestId
  | .int n    => some (.number n)
  | .string s => some (.text s)
  | _         => none

-- Replies with an error may also write the number as a float or as a truth value.
def ofReply? : Json → Option RequestId
  | .string s => some (.text s)
  | v         => (Shape.integral? v).map .number

end RequestId

-- A request, a notification, or a reply to a request of the server. Where a value could be several
-- of these, the one with the most recognised members counts.
inductive Envelope
  | request (id : RequestId) (method : String) (params : Option Members)
  | notification (method : String)
  | reply (id : RequestId)

namespace Envelope

def version : String := "2.0"

def string? (ms : Members) (key : String) : Option String :=
  match ms.lookup key with
  | some (.string s) => some s
  | _                => none

def hasVersion (ms : Members) : Bool :=
  string? ms "jsonrpc" == some version

-- An object, null or nothing.
def params? (ms : Members) : Option (Option Members) :=
  match ms.lookup "params" with
  | none | some .null => some none
  | some (.object ps) => some (some ps)
  | _                 => none

def present (ms : Members) (keys : List String) : Nat :=
  keys.countP fun k => (ms.lookup k).isSome

-- A reading of an object, with the number of members that it recognises.
abbrev Candidate := Option (Nat × Envelope)

def asRequest? (ms : Members) : Candidate := do
  guard (hasVersion ms)
  let id ← (ms.lookup "id").bind RequestId.ofJson?
  let method ← string? ms "method"
  let params ← params? ms
  return (3 + present ms ["params"], .request id method params)

def asNotification? (ms : Members) : Candidate := do
  guard (hasVersion ms)
  let method ← string? ms "method"
  discard (params? ms)
  return (2 + present ms ["params"], .notification method)

def asResult? (ms : Members) : Candidate := do
  guard (hasVersion ms)
  let id ← (ms.lookup "id").bind RequestId.ofJson?
  match ms.lookup "result" with
  | some (.object _) => return (3, .reply id)
  | _                => none

-- A numeral from its first digit on that is not a leading zero, of which one stays before a point
-- or at the end.
def dropZeros : List Char → Option (List Char)
  | '0' :: s => afterZero '0' s
  | c :: s   => if ('1' ≤ c ∧ c ≤ '9') ∨ c = '-' then some (c :: s) else none
  | []       => none
where
  afterZero (last : Char) : List Char → Option (List Char)
    | []     => some [last]
    | c :: s =>
      if c = '0' ∨ c = '_' then afterZero c s
      else if ('1' ≤ c ∧ c ≤ '9') ∨ c = '-' then some (c :: s)
      else if c = '.' then some (last :: c :: s)
      else none

-- The part before a point, behind which there must be zeros and nothing else.
def dropFraction (s : List Char) : Option (List Char) :=
  match s.span (· != '.') with
  | (whole, _ :: fraction) =>
    if !fraction.isEmpty && fraction.all (· == '0') then some whole else none
  | (whole, [])            => some whole

-- Single underscores inside a numeral do not count.
def dropUnderscores (s : List Char) : Option (List Char) :=
  if s.head? = some '_' ∨ s.getLast? = some '_' ∨ Text.occurs "__".toList s then none
  else some (s.filter (· != '_'))

def isDecimal (s : List Char) : Bool :=
  let digits := match s with
    | '-' :: r => r
    | s        => s
  digits == ['0'] ||
    (!digits.isEmpty && digits.all Char.isDigit && digits.head? != some '0' &&
      digits.length ≤ Text.digitLimit)

-- Error codes may also be written as decimal texts, and with a fraction of zeros.
def isCodeText (s : List Char) : Bool :=
  let digits? : Option (List Char) := do
    let s := Text.trimBy Text.surroundsNumber s
    let s ← match s with
      | '+' :: '-' :: _ => none
      | '+' :: s        => some s
      | s               => some s
    dropUnderscores (← dropFraction (← dropZeros s))
  digits?.any isDecimal

def isCode : Json → Bool
  | .string s => isCodeText s.toList
  | v         => (Shape.integral? v).isSome

def asError? (ms : Members) : Candidate := do
  guard (hasVersion ms)
  let id ← (ms.lookup "id").bind RequestId.ofReply?
  match ms.lookup "error" with
  | some (.object es) =>
    let code ← es.lookup "code"
    guard (isCode code)
    discard (string? es "message")
    return (5 + present es ["data"], .reply id)
  | _ => none

-- The candidate that recognises the most, of equals the first.
def best : List Candidate → Candidate
  | []              => none
  | none :: cs      => best cs
  | some (n, e) :: cs =>
    match best cs with
    | some (m, e') => if n < m then some (m, e') else some (n, e)
    | none         => some (n, e)

def ofMembers? (ms : Members) : Option Envelope :=
  (best [asRequest? ms, asNotification? ms, asResult? ms, asError? ms]).map Prod.snd

def ofJson? : Json → Option Envelope
  | .object ms => ofMembers? ms
  | _          => none

end Envelope

-- What a request body holds: null, unless it is JSON. Only limits of the reader are errors.
def decodeBody (body : ByteArray) : Except Json.ReadError RawJson :=
  match Json.readBytes body with
  | .error .malformed => .ok .null
  | result            => result

-- What the models of messages see. They keep the members that they do not know, and take no message
-- with a name that has no encoding. What a session makes of other texts without an encoding is left
-- out: in those it sees the character that stands for surrogates.
def seen (v : RawJson) : Json :=
  if v.namesEncode then v.shown else .null

-- Whether a reply that repeats the method and the id of the message would have no encoding.
def torn (v : RawJson) : Bool :=
  v.tornAt "method" || v.tornAt "id"

-- Requests are sorted by their methods.
inductive Message
  | lifecycle (method : String) (id : RequestId) (params : Option Members)
  | operation (method : String) (id : RequestId) (tool : Json)
  | resource (method : String) (id : RequestId) (uri : Json)
  | notification (method : String)
  | reply (id : RequestId)
  | unsupported (method : String) (id : RequestId)
  | malformed

namespace Message

def lifecycleMethods : List String := ["initialize", "ping"]

def operationMethods : List String := ["tools/list", "tools/call"]

def resourceMethods : List String :=
  ["resources/list", "resources/templates/list", "resources/read"]

def ofEnvelope : Envelope → Message
  | .request id method params =>
    let param (key : String) := ((params.getD []).lookup key).getD .null
    if lifecycleMethods.contains method then .lifecycle method id params
    else if operationMethods.contains method then .operation method id (param "name")
    else if resourceMethods.contains method then .resource method id (param "uri")
    else .unsupported method id
  | .notification method => .notification method
  | .reply id            => .reply id

def classify (v : Json) : Message :=
  (Envelope.ofJson? v).elim .malformed ofEnvelope

end Message

def isInitialize (v : Json) : Bool :=
  match Message.classify v with
  | .lifecycle "initialize" _ params => Params.opening.fits (.object (params.getD []))
  | _                                => false

def response (id : Json) (result : Json) : Json :=
  .object [("jsonrpc", .string Envelope.version), ("id", id), ("result", result)]

def errorResponse (id : Json) (code : Int) (message : String) (data : Option Json) : Json :=
  .object [("jsonrpc", .string Envelope.version), ("id", id),
    ("error", .object ([("code", .int code), ("message", .string message)] ++
      (data.map ("data", ·)).toList))]

def methodNotFound (method : String) (id : RequestId) : Json :=
  errorResponse id.toJson (-32601) ("Method not found: " ++ method) none

def badSession : Json :=
  errorResponse .null (-32000) "Bad Request: No valid session ID provided" none

end ComponentCatalog.Mcp
