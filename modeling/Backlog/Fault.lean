import Backlog.Date
import Backlog.Http.Domain.Fault
import Backlog.Http.Method
import Backlog.Kind
/-!
# Faults

Everything that can stop an operation, by cause, and the wording of each.
-/

namespace Backlog

/-- What stands in the way of writing a text: its first run of characters that
cannot be written. -/
def obstacle (isWritable : Char → Bool) (text : String) : String :=
  let position := (text.toList.takeWhile isWritable).length
  match (text.toList.dropWhile isWritable).takeWhile (!isWritable ·) with
  | [] => ""
  | [c] =>
    "character '" ++ String.ofList (Text.codeEscape c) ++ "' in position " ++ toString position
  | run =>
    "characters in position " ++ toString position ++ "-" ++ toString (position + run.length - 1)

/-- What keeps a text from being written in UTF-8: halves of pairs. -/
def utf8Obstacle (text : String) : String :=
  "'utf-8' codec can't encode " ++ obstacle (!Text.isHalf ·) text ++ ": surrogates not allowed"

/-- What keeps a text from being written in ASCII. -/
def asciiObstacle (text : String) : String :=
  "'ascii' codec can't encode " ++ obstacle (·.toNat < 0x80) text ++
    ": ordinal not in range(128)"

/-- Why the tracker's answer to a request is of no use. -/
inductive ApiFault where
  /-- The request got no answer. -/
  | unreachable (method : Http.Method) (path reason : String)
  /-- The answer has a status outside 200 to 299. -/
  | status (code : Nat) (method : Http.Method) (path detail : String)
  /-- The answer is not JSON. -/
  | notJson (method : Http.Method) (path : String)
  /-- A list was asked for and something else came. -/
  | notAList (kind : Kind)
  /-- The answer to a search has no list of results. -/
  | searchFailed (kind : Kind) (query : Value)
  /-- Creating an entity gave nothing back. -/
  | createFailed (kind : Kind)
  /-- Changing an entity gave nothing back. -/
  | updateFailed (kind : Kind) (id : Value)
  /-- Commenting gave nothing back. -/
  | commentFailed (story : Value)
  /-- The tracker does not say who the current user is. -/
  | noCurrentUser
  /-- The entity that a tool is about does not exist. -/
  | missingEntity (singular : String) (id : Value)

namespace ApiFault

/-- A short code for programs. -/
def code : ApiFault → String
  | .unreachable .. => "unavailable"
  | .status .. => "http_error"
  | .noCurrentUser | .missingEntity .. => "not_found"
  | _ => "invalid_response"

/-- The status of the answer, where it is the cause. -/
def statusCode? : ApiFault → Option Nat
  | .status code .. => some code
  | .missingEntity .. => some 404
  | _ => none

/-- The wording for people. -/
def message : ApiFault → String
  | .unreachable method path reason =>
    "Shortcut API request " ++ method.name ++ " " ++ path ++ " failed: " ++ reason
  | .status code method path detail =>
    "Shortcut API returned " ++ toString code ++ " for " ++ method.name ++ " " ++ path ++
      (if detail = "" then "" else ": " ++ detail)
  | .notJson method path =>
    "Shortcut API returned invalid JSON for " ++ method.name ++ " " ++ path
  | .notAList kind => "Expected a list of " ++ kind.name
  | .searchFailed kind query =>
    "Failed to search for " ++ kind.name ++ " matching your query: " ++ query.displayQuoted
  | .createFailed kind => "Failed to create the " ++ kind.name ++ " entity"
  | .updateFailed kind id => "Failed to update " ++ kind.name ++ " " ++ id.display
  | .commentFailed story => "Failed to comment on story " ++ story.display
  | .noCurrentUser => "Failed to retrieve current user."
  | .missingEntity singular id =>
    "Failed to retrieve Shortcut " ++ singular ++ " with public ID: " ++ id.display

end ApiFault

/-- Why an argument or a setting is refused. -/
inductive Refusal where
  /-- The tracker has no such kind at this place. -/
  | unsupportedKind (kind : Kind)
  /-- No clause kind has this name. -/
  | unknownClauseKind (name : Value)
  /-- A client was asked for without a token. -/
  | tokenMissing
  /-- The environment holds no token. -/
  | tokenUnset
  /-- A text is no integer. -/
  | notAnInteger (text : String)
  /-- An integer in text has too many digits. -/
  | integerTooLong (digits : Nat)
  /-- NaN was to become an integer. -/
  | nanAsInteger
  /-- A text is no number. -/
  | notANumber (text : String)
  /-- The type of a story is none of those allowed. -/
  | storyType (allowed : List String)
  /-- A story needs a team or a workflow. -/
  | noTeamOrWorkflow
  /-- The team of a story has no workflow. -/
  | noWorkflowOfTeam
  /-- Some names are no fields of a story. -/
  | unknownStoryFields (names accepted : List String)
  /-- No field of a story is to change. -/
  | nothingToUpdate
  /-- A comment without text. -/
  | emptyComment
  /-- An entry that is not a pair. -/
  | notAPair (position length : Nat)
  /-- A body with a number that JSON cannot hold. -/
  | bodyNotFinite
  /-- A reply to a request whose address has no scheme. -/
  | noScheme (address : String)
  /-- A bracket that is not one of a pair around a host. -/
  | looseBracket
  /-- A host in brackets that is no numeric address. -/
  | notNumeric (host : String)
  /-- A host in brackets that is an address of version 4. -/
  | bracketedAddress4
  /-- A host in brackets that starts as an address of a version to come and is
  none. -/
  | futureAddress

/-- How much is shown of a quoted text that is no integer. -/
def maxQuote : Nat := 200

/-- The wording of a refusal. -/
def Refusal.message : Refusal → String
  | .unsupportedKind kind => "Unsupported entity kind: " ++ kind.name
  | .unknownClauseKind name => name.displayQuoted ++ " is not a valid ClauseKind"
  | .tokenMissing => "A Shortcut API token is required"
  | .tokenUnset => "SHORTCUT_API_TOKEN must be set"
  | .notAnInteger text =>
    "invalid literal for int() with base 10: " ++
      String.ofList ((Text.quoted text).toList.take maxQuote)
  | .integerTooLong digits =>
    "Exceeds the limit (4300 digits) for integer string conversion: value has " ++
      toString digits ++ " digits; use sys.set_int_max_str_digits() to increase the limit"
  | .nanAsInteger => "cannot convert float NaN to integer"
  | .notANumber text => "could not convert string to float: " ++ Text.quoted text
  | .storyType allowed => "Story type must be one of: " ++ ", ".intercalate allowed
  | .noTeamOrWorkflow => "Team or Workflow has to be specified"
  | .noWorkflowOfTeam => "Failed to find workflow for team"
  | .unknownStoryFields names accepted =>
    "Unknown story fields: " ++ ", ".intercalate names ++ ". Accepted fields: " ++
      ", ".intercalate accepted
  | .nothingToUpdate => "No story fields to update"
  | .emptyComment => "Story comment text is required"
  | .notAPair position length =>
    "dictionary update sequence element #" ++ toString position ++ " has length " ++
      toString length ++ "; 2 is required"
  | .bodyNotFinite => "Out of range float values are not JSON compliant"
  | .noScheme address => "unknown url type: " ++ Text.quoted address
  | .looseBracket => "Invalid IPv6 URL"
  | .notNumeric host => Text.quoted host ++ " does not appear to be an IPv4 or IPv6 address"
  | .bracketedAddress4 => "An IPv4 address cannot be in brackets"
  | .futureAddress => "IPvFuture address is invalid"

/-- Why a text is no address. -/
inductive UrlFault where
  /-- The whole is too long. -/
  | tooLong
  /-- A control character. -/
  | unprintable (c : Char) (position : Nat)
  /-- One part is too long. -/
  | partTooLong (part : String)
  /-- The port is no integer. -/
  | badPort (port : String)
  /-- The host looks like an address of version 4 and is none. -/
  | badAddress4 (host : String)
  /-- The host looks like an address of version 6 and is none. -/
  | badAddress6 (host : String)
  /-- The host is no name that can be written in ASCII. -/
  | badName (host : String)
  /-- A host is followed by a path that does not start with a slash. -/
  | pathNotRooted
  /-- A path by itself starts with two slashes. -/
  | pathDoubleSlash
  /-- A path by itself starts with a colon. -/
  | pathColon
  /-- A character that is half of a pair. -/
  | half (c : Char)

/-- The wording of a fault in an address. -/
def UrlFault.message : UrlFault → String
  | .tooLong => "URL too long"
  | .unprintable c position =>
    "Invalid non-printable ASCII character in URL, " ++ Text.quoted (String.singleton c) ++
      " at position " ++ toString position ++ "."
  | .partTooLong part => "URL component '" ++ part ++ "' too long"
  | .badPort port => "Invalid port: " ++ Text.quoted port
  | .badAddress4 host => "Invalid IPv4 address: " ++ Text.quoted host
  | .badAddress6 host => "Invalid IPv6 address: " ++ Text.quoted host
  | .badName host => "Invalid IDNA hostname: " ++ Text.quoted host
  | .pathNotRooted => "For absolute URLs, path must be empty or begin with '/'"
  | .pathDoubleSlash => "Relative URLs cannot have a path starting with '//'"
  | .pathColon => "Relative URLs cannot have a path starting with ':'"
  | .half c => utf8Obstacle (String.singleton c)

/-- What stops an operation. -/
inductive Fault where
  /-- A date expression is refused. -/
  | date (fault : Date.Fault)
  /-- An argument or a setting is refused. -/
  | refused (reason : Refusal)
  /-- An object lacks a field, or a collection a key. -/
  | missingKey (key : Atom)
  /-- No cache is kept under a name. -/
  | notCached (name : String)
  /-- The tracker's answer is of no use. -/
  | api (fault : ApiFault)
  /-- Something outside broke down, in its own words. -/
  | broken (text : String)
  /-- The client has been closed. -/
  | closed
  /-- A text is no address. -/
  | url (fault : UrlFault)
  /-- A value lacks what is asked of its type, such as fields or a text's
  operations. -/
  | noSuchMember
  /-- A value cannot be used the way it is: walked through, indexed, made a
  key. -/
  | wrongType
  /-- The first element of an empty list is asked for. -/
  | emptyList
  /-- An infinity was to become an integer. -/
  | infinityAsInteger
  /-- An integer beyond the range of doubles met a double. -/
  | integerTooLarge
  /-- JSON that is nested too deeply, in a list or in an object. -/
  | tooDeep (inList : Bool)
  /-- A text that goes into the head of a request is not ASCII. -/
  | notAscii (text : String)
  /-- A text that goes into a request holds half of a pair. -/
  | notUtf8 (text : String)
  /-- The host that a request goes to is in ASCII form and stands for no
  name. -/
  | hostName (fault : Http.Domain.NameFault)

/-- The wording of a fault. Faults of a value's type have none. -/
def Fault.message : Fault → String
  | .date fault => fault.message
  | .refused reason => reason.message
  | .missingKey key => key.display
  | .notCached name => "'" ++ name ++ "' is not a cached reference kind"
  | .api fault => fault.message
  | .broken text => text
  | .closed => "Cannot send a request, as the client has been closed."
  | .url fault => fault.message
  | .noSuchMember | .wrongType | .emptyList => ""
  | .infinityAsInteger => "cannot convert float infinity to integer"
  | .integerTooLarge => "int too large to convert to float"
  | .tooDeep inList =>
    "maximum recursion depth exceeded while decoding a JSON " ++
      (if inList then "array" else "object") ++ " from a unicode string"
  | .notAscii text => asciiObstacle text
  | .notUtf8 text => utf8Obstacle text
  | .hostName fault => fault.message

end Backlog
