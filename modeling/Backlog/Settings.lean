import Backlog.Decimal.Numeral
import Backlog.Value.Access
/-!
# Settings

Where the tracker is and how long an answer may take. What is not given, or
counts as nothing, is taken from the environment, and what is not there either
has a default.
-/

namespace Backlog

/-- The environment: values of variables by name. -/
abbrev Environment := Table String String

/-- The settings of a client. -/
structure Settings where
  /-- The token that requests are sent with. -/
  token : Value
  /-- The base address without slashes at its end. -/
  baseUrl : String
  /-- How long an answer may take, in seconds. -/
  timeout : Value

namespace Settings

/-- Where the tracker is when nobody says otherwise. -/
def defaultUrl : String := "https://api.app.shortcut.com/api/v3"

/-- How long an answer may take when nobody says otherwise. -/
def defaultTimeout : String := "30.0"

/-- A text without the slashes at its end. -/
def withoutFinalSlashes (s : String) : String :=
  String.ofList (s.toList.reverse.dropWhile (· = '/')).reverse

/-- The base address that the environment gives. -/
def urlOf (env : Environment) : String := (env.get? "SHORTCUT_API_URL").getD defaultUrl

/-- The base address: the one given unless it counts as nothing. -/
def chooseUrl (given : Value) (env : Environment) : Except Fault String :=
  (given.orElse (.text (urlOf env))).asText

/-- The time limit that the environment gives. -/
def timeoutOf (env : Environment) : Except Fault Value :=
  let text := (env.get? "SHORTCUT_HTTP_TIMEOUT_SECONDS").getD defaultTimeout
  match Decimal.double? text with
  | some d => .ok (.num (.float d))
  | none => .error (.refused (.notANumber text))

/-- The time limit: the one given unless it counts as nothing. -/
def chooseTimeout (given : Value) (env : Environment) : Except Fault Value :=
  if given.truthy then .ok given else timeoutOf env

/-- The settings of a client with a token. -/
def resolve (token baseUrl timeout : Value) (env : Environment) : Except Fault Settings :=
  if !token.truthy then .error (.refused .tokenMissing)
  else do
    let url ← chooseUrl baseUrl env
    let timeout ← chooseTimeout timeout env
    pure ⟨token, withoutFinalSlashes url, timeout⟩

end Settings

end Backlog
