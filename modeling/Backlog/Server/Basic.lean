import Backlog.Server.Tool
/-!
# The server

The server opens a client when one is first needed, keeps one set of caches
for its lifetime, and forgets the client when it shuts down. Every client
and every set of caches that was ever made has a number, so that which one
is in use can be told.
-/

namespace Backlog

/-- Which client and which caches the tools work with. -/
structure Handle where
  /-- The number of the client. -/
  client : Nat
  /-- The number of the set of caches. -/
  caches : Nat
  deriving DecidableEq

/-- The state of a server. -/
structure Server where
  /-- The clients that were opened, by number. -/
  clients : List Client := []
  /-- The sets of caches that were made, by number. -/
  cacheSets : List Caches := []
  /-- The client in use. -/
  client? : Option Nat := none
  /-- The set of caches in use. -/
  caches? : Option Nat := none
  /-- What the tools work with, once they have been needed. -/
  tools? : Option Handle := none
  /-- The environment that settings are taken from. -/
  environment : Environment := []
  /-- Whether tools that write are left out. -/
  readOnly : Bool := false
  /-- The time in seconds. -/
  clock : Number := .int 0
  /-- What has been exchanged, in order. -/
  exchanges : List Http.Exchange := []
  /-- What has been logged, in order. -/
  log : List LogLine := []

namespace Server

/-- Why a call of a tool failed. -/
inductive CallFault where
  /-- No tool has the name. -/
  | unknownTool (name : String)
  /-- The arguments do not fit the tool. -/
  | badArguments (tool : String)
  /-- The tool ended in a fault. -/
  | failed (tool : String) (cause : Fault)

/-- The wording of a fault inside a longer message: a missing key stands in
quotes. -/
def causeText : Fault → String
  | .missingKey key => key.displayQuoted
  | .notCached name => Text.quoted (Fault.notCached name).message
  | fault => fault.message

/-- The wording of a failed call. -/
def CallFault.message : CallFault → String
  | .unknownTool name => "Unknown tool: " ++ name
  | .badArguments tool => "Error executing tool " ++ tool
  | .failed tool cause => "Error executing tool " ++ tool ++ ": " ++ causeText cause

/-! ## What the server keeps -/

/-- The session of a handle. A handle always names a client and caches that
exist; for one that does not, there is no session. -/
def session? (server : Server) (handle : Handle) : Option Session := do
  let client ← server.clients[handle.client]?
  let caches ← server.cacheSets[handle.caches]?
  pure { client, caches, clock := server.clock, exchanges := server.exchanges, log := server.log }

/-- Puts what a session has become back in its place. -/
def restore (server : Server) (handle : Handle) (s : Session) : Server :=
  { server with
    clients := server.clients.set handle.client s.client
    cacheSets := server.cacheSets.set handle.caches s.caches
    clock := s.clock
    exchanges := s.exchanges
    log := s.log }

/-- Work with the client and the caches of a handle. -/
def within {α : Type} (handle : Handle) (work : Action α) : Run Server α := fun remote server =>
  match server.session? handle with
  | some s =>
    match work remote s with
    | (result, s) => (result, server.restore handle s)
  | none => (.error .closed, server)

/-- The token that the environment gives. -/
def tokenOf (env : Environment) : String := (env.get? "SHORTCUT_API_TOKEN").getD ""

/-- Opens a client with the settings of the environment. -/
def connect (serial : Nat) (env : Environment) : Except Fault Client :=
  if tokenOf env = "" then .error (.refused .tokenUnset)
  else do
    let settings ← Settings.resolve (.text (tokenOf env)) .null .null env
    Client.connect serial settings

/-- The number of the client in use. One is opened if there is none. -/
def getClient : Run Server Nat := do
  let server ← Run.state
  match server.client? with
  | some serial => pure serial
  | none =>
    let serial := server.clients.length
    let client ← connect serial server.environment
    Run.modify fun server =>
      { server with clients := server.clients ++ [client], client? := some serial }
    pure serial

/-- The number of the set of caches in use. One is made if there is none. -/
def getCaches : Run Server Nat := do
  let server ← Run.state
  match server.caches? with
  | some number => pure number
  | none =>
    let number := server.cacheSets.length
    Run.modify fun server =>
      { server with cacheSets := server.cacheSets ++ [{}], caches? := some number }
    pure number

/-- What the tools work with. -/
def getTools : Run Server Handle := do
  let server ← Run.state
  match server.tools? with
  | some handle => pure handle
  | none =>
    let client ← getClient
    let caches ← getCaches
    let handle : Handle := ⟨client, caches⟩
    Run.modify fun server => { server with tools? := some handle }
    pure handle

/-- Closes a client. -/
def closeClient (server : Server) (serial : Nat) : Server :=
  { server with
    clients := server.clients.modify serial fun client => { client with isOpen := false } }

/-- Closes the client in use and forgets it together with the tools. -/
def shutdown (server : Server) : Server :=
  let closed :=
    match server.client? with
    | some serial => server.closeClient serial
    | none => server
  { closed with client? := none, tools? := none }

/-! ## Calls -/

/-- Describes the caches in use. -/
def health : Run Server Value := do
  let number ← getCaches
  let server ← Run.state
  let caches := server.cacheSets[number]?.getD {}
  caches.describe server.clock

/-- Does the work of a tool. -/
def perform (work : Work) (args : Arguments) : Run Server Value :=
  match work with
  | .health => health
  | .session run => do
    let handle ← getTools
    within handle (run args)

/-- Calls a tool by its name. What it gives is sent as strict JSON, which has
null in place of infinities and NaN. -/
def call (remote : Remote) (server : Server) (name : String) (given : Table String Value) :
    Except CallFault Value × Server :=
  match Tool.find? server.readOnly name with
  | none => (.error (.unknownTool name), server)
  | some tool =>
    match Arguments.bind? tool.parameters given with
    | none => (.error (.badArguments name), server)
    | some args =>
      let (result, server) := perform tool.work args remote server
      ((result.map Value.withFiniteNumbers).mapError (.failed name), server)

end Server

end Backlog
