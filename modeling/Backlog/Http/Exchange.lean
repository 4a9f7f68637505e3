import Backlog.Http.Form
import Backlog.Http.Literal
import Backlog.Json.Reader
/-!
# Requests and replies

A request to the tracker, what comes back, and the pair of the two.
-/

namespace Backlog

namespace Http

/-- A request. -/
structure Request where
  /-- The method. -/
  method : Method
  /-- Where it goes. -/
  url : Url
  /-- The JSON body, if there is one. -/
  body : Option Value
  /-- The token that it is sent with. -/
  token : String

namespace Request

/-- The type of the body that a request announces. -/
def contentType : String := "application/json"

/-- The named values in the query, the last of each. -/
def params (request : Request) : Table String String :=
  Table.ofList (Form.decode (request.url.query.getD []))

/-- Whether the request has a query that is not empty. -/
def hasQuery (request : Request) : Bool := !(request.url.query.getD []).isEmpty

end Request

/-- What a request leads to. -/
inductive Reply where
  /-- An answer with a status and a body. -/
  | answer (status : Nat) (body : List UInt8)
  /-- No answer, for the reason given. -/
  | unreachable (reason : String)
  /-- A breakdown of something other than the transport. -/
  | broken (text : String)

/-- A request and what it led to. -/
structure Exchange where
  /-- The number of the client that sent it. -/
  client : Nat
  /-- The request. -/
  request : Request
  /-- What it led to. -/
  reply : Reply

/-- Whether a status tells of success. -/
def isSuccess (status : Nat) : Bool := 200 ≤ status && status ≤ 299

/-- The text of a body that explains a failure. -/
def detail (body : List UInt8) : String :=
  String.ofList (Text.stripChars (Text.Utf8.decodeLossy body))

/-- The value that an answer brings. A missing entity may be no failure, and
an empty body is no value. -/
def valueOf (method : Method) (path : String) (allowMissing : Bool) (status : Nat)
    (body : List UInt8) : Except Fault Value :=
  if allowMissing && status = 404 then .ok .null
  else if !isSuccess status then .error (.api (.status status method path (detail body)))
  else if body.isEmpty then .ok .null
  else
    match Json.ofBytes body with
    | .ok v => .ok v
    | .error .malformed => .error (.api (.notJson method path))
    | .error (.tooDeep inList) => .error (.tooDeep inList)

/-- Checks that what was answered has an address with a scheme and with
brackets only where they belong. -/
def checkAnswered (url : Url) : Except Fault Unit :=
  if url.startsLikeScheme then (Literal.checkBrackets url.apparentAuthority).mapError .refused
  else .error (.refused (.noScheme (String.ofList url.displayWithoutBareMark)))

/-- The value that a reply to a request to an address brings. `path` is what
was asked for. -/
def Reply.value (reply : Reply) (method : Method) (url : Url) (path : String)
    (allowMissing : Bool) : Except Fault Value :=
  match reply with
  | .answer status body => do
    checkAnswered url
    valueOf method path allowMissing status body
  | .unreachable reason => .error (.api (.unreachable method path reason))
  | .broken text => .error (.broken text)

end Http

end Backlog
