import Backlog.Cache
import Backlog.Http.Exchange
import Backlog.Run
import Backlog.Settings
/-!
# Sessions

The state that work with the tracker runs over: a client, the caches, the
clock, what has been exchanged and what has been logged.

No time passes while work runs: the clock is read as often as need be, but only
what happens between two pieces of work moves it. That is an assumption. A
reply that takes long can make a snapshot too old in the middle of a call, which
is left out here, so the age of a snapshot in a call is that at its start.
-/

namespace Backlog

/-- A client of the tracker. -/
structure Client where
  /-- The number of the client among all that were opened. -/
  serial : Nat
  /-- The settings. -/
  settings : Settings
  /-- The token that requests are sent with. -/
  token : String
  /-- The base address, which ends in a slash. -/
  base : Http.Url
  /-- Whether the client can still send. -/
  isOpen : Bool := true
  /-- The current user, null while the tracker has not named one. -/
  currentUser : Value := .null

/-- A value as it goes into the head of a request: an ASCII text. -/
def headText : Value → Except Fault String
  | .text s => if s.toList.all Http.Host.isAscii then .ok s else .error (.notAscii s)
  | _ => .error .wrongType

/-- Opens a client. It is assumed of the library that requests are sent with that it
refuses a base address that cannot be read and a token that is not ASCII, in this
order, and nothing else. -/
def Client.connect (serial : Nat) (settings : Settings) : Except Fault Client := do
  let url ← (Http.Url.ofChars settings.baseUrl.toList).mapError .url
  let base ← url.withFinalSlash.mapError .url
  let token ← headText settings.token
  pure { serial, settings, token, base }

/-- How grave a log line is. -/
inductive Level where
  /-- Something was done. -/
  | info
  /-- Something is missing that can be done without. -/
  | warning
  /-- Something failed. -/
  | error
  deriving DecidableEq

/-- The name of a level. -/
def Level.name : Level → String
  | .info => "INFO"
  | .warning => "WARNING"
  | .error => "ERROR"

/-- A line of the log. -/
structure LogLine where
  /-- How grave it is. -/
  level : Level
  /-- What it says. -/
  text : String

/-- The state of work with the tracker. -/
structure Session where
  /-- The client. -/
  client : Client
  /-- The caches of reference data. -/
  caches : Caches
  /-- The time in seconds, which stands still while work runs. -/
  clock : Number
  /-- What has been exchanged, in order. -/
  exchanges : List Http.Exchange := []
  /-- What has been logged, in order. -/
  log : List LogLine := []

/-- Work with the tracker. -/
abbrev Action (α : Type) : Type := Run Session α

namespace Action

/-- Adds a line to the log. -/
def log (level : Level) (text : String) : Action Unit :=
  Run.modify fun s => { s with log := s.log ++ [⟨level, text⟩] }

/-- Sends a request and waits for what it leads to, which is assumed to take no
time. A closed client sends nothing, and nothing is sent to a host in ASCII form
that stands for no name. -/
def send (request : Http.Request) : Action Http.Reply := fun remote s =>
  if !s.client.isOpen then (.error .closed, s)
  else
    match request.url.plainHost with
    | .error fault => (.error (.hostName fault), s)
    | .ok _ =>
      let reply := remote s.exchanges request
      (.ok reply, { s with exchanges := s.exchanges ++ [⟨s.client.serial, request, reply⟩] })

end Action

end Backlog
