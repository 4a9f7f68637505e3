import Backlog.Http.PageToken
import Backlog.Session
import Backlog.Value.Integer
/-!
# Asking the tracker

The requests that the tracker knows: bulk lists of reference data, single
entities, searches, and the few writes that the tools need. A reply that is
of no use becomes a fault.
-/

namespace Backlog

namespace Kind

/-- Where the whole list of a kind is, for the kinds that have one. -/
def listPath? : Kind → Option String
  | .users => some "/members"
  | .workflows => some "/workflows"
  | .teams => some "/groups"
  | _ => none

/-- Where the entities of a kind are. -/
def entityPath? : Kind → Option String
  | .stories => some "/stories"
  | .epics => some "/epics"
  | .iterations => some "/iterations"
  | .objectives => some "/objectives"
  | .users => some "/members"
  | .workflows => some "/workflows"
  | .teams => some "/groups"
  | .other _ => none

/-- Where a kind is searched, for the kinds that can be. -/
def searchPath? : Kind → Option String
  | .stories => some "/search/stories"
  | .epics => some "/search/epics"
  | .iterations => some "/search/iterations"
  | .objectives => some "/search/objectives"
  | _ => none

/-- A path of a kind, or the fault that the kind has none. -/
def require (kind : Kind) (path : Option String) : Except Fault String :=
  match path with
  | some path => .ok path
  | none => .error (.refused (.unsupportedKind kind))

end Kind

/-- One page of search results. -/
structure SearchPage where
  /-- The results on the page. -/
  items : List Value
  /-- The number of all results. -/
  total : Int
  /-- The token for the next page. -/
  nextPageToken : Option String

namespace Api

/-- The named values of a query, none when there is no query. -/
abbrev Params := List (String × Value)

/-- The text of one value in a query. -/
def paramText : Value → String
  | .null => ""
  | .bool true => "true"
  | .bool false => "false"
  | v => v.display

/-- The texts of a value in a query, one for each element of a list. -/
def paramTexts : Value → List String
  | .list items => items.map paramText
  | v => [paramText v]

/-- The named texts of a query. -/
def paramPairs (params : Params) : List (String × String) :=
  params.flatMap fun (name, v) => (paramTexts v).map fun text => (name, text)

/-- Checks that a text can go into a request: it holds no half of a pair. -/
def checkText (text : String) : Except Fault Unit :=
  if Text.hasHalf text then .error (.notUtf8 text) else .ok ()

/-- The query of a request. -/
def queryOf (params : Params) : Except Fault (List Char) := do
  let pairs := paramPairs params
  pairs.forM fun (name, text) => do
    checkText name
    checkText text
  pure (Http.Form.encode pairs)

/-- Where a request for a path goes. -/
def address (client : Client) (path : String) (params : Params) : Except Fault Http.Url := do
  let reference ← (Http.Url.ofChars path.toList).mapError .url
  let url ← (client.base.append reference).mapError .url
  if params.isEmpty then pure url
  else
    let query ← queryOf params
    (url.withQuery query).mapError .url

/-- Checks that JSON can hold a body and that it can be written. -/
def checkBody (body : Option Value) : Except Fault Unit :=
  match body with
  | none => .ok ()
  | some v =>
    if !v.numbersFinite then .error (.refused .bodyNotFinite)
    else
      match v.brokenText? with
      | some text => .error (.notUtf8 text)
      | none => .ok ()

/-- Checks that the head of a request can name where it goes. -/
def checkHost (url : Http.Url) : Except Fault Unit :=
  if url.hostLine.all Http.Host.isAscii then .ok ()
  else .error (.notAscii (String.ofList url.hostLine))

/-- Sends a request for a path and gives the value that comes back. -/
def request (method : Http.Method) (path : String) (params : Params) (body : Option Value)
    (allowMissing : Bool) : Action Value := do
  let s ← Run.state
  let url ← address s.client path params
  checkBody body
  checkHost url
  let reply ← Action.send { method, url, body, token := s.client.token }
  reply.value method url path allowMissing

/-- Reads from a path. -/
def get (path : String) (params : Params := []) : Action Value :=
  request .get path params none false

/-- Reads from a path; what is missing is null. -/
def getIfThere (path : String) : Action Value := request .get path [] none true

/-- The body of a request, none for null. -/
def bodyOf (payload : Value) : Option Value := if payload.isNull then none else some payload

/-- The whole list of a kind. -/
def listEntities (kind : Kind) : Action (List Value) := do
  let path ← kind.require kind.listPath?
  match ← get path with
  | .list entities => pure entities
  | _ => Run.fail (.api (.notAList kind))

/-- The path of one entity. -/
def entityPath (kind : Kind) (id : Value) : Except Fault String := do
  let path ← kind.require kind.entityPath?
  pure (path ++ "/" ++ id.display)

/-- One entity, null when there is none with the id. -/
def getEntity (kind : Kind) (id : Value) : Action Value := do
  let path ← entityPath kind id
  getIfThere path

/-- The number of results on a page. -/
def defaultPageSize : Value := .int 25

/-- The named values of a search. -/
def searchParams (query pageSize token : Value) : Params :=
  [("query", query), ("page_size", pageSize), ("detail", .text "slim")] ++
    if token.truthy then [("next", token)] else []

/-- Reads a page of search results. -/
def readPage (kind : Kind) (query reply : Value) : Except Fault SearchPage :=
  let failed : Except Fault SearchPage := .error (.api (.searchFailed kind query))
  match reply with
  | .object fields =>
    match Value.fieldOf fields "data" with
    | .list items => do
      let total ← ((Value.fieldOf fields "total").orElse (.int 0)).toInteger
      let nextPageToken ← Http.pageToken? (Value.fieldOf fields "next")
      pure { items, total, nextPageToken }
    | _ => failed
  | _ => failed

/-- Searches a kind. -/
def search (kind : Kind) (query : Value) (pageSize : Value := defaultPageSize)
    (token : Value := .null) : Action SearchPage := do
  let path ← kind.require kind.searchPath?
  let reply ← get path (searchParams query pageSize token)
  readPage kind query reply

/-- Remembers the current user. -/
def rememberUser (user : Value) : Action Unit :=
  Run.modify fun s => { s with client := { s.client with currentUser := user } }

/-- The current user, asked for until the tracker names one. Null when it
does not. -/
def currentUser : Action Value := do
  let s ← Run.state
  if s.client.currentUser.isNull then
    let user ← getIfThere "/member"
    rememberUser user
    pure user
  else pure s.client.currentUser

/-- The value if it counts as something, else a fault. -/
def expect (v : Value) (fault : ApiFault) : Except Fault Value :=
  if v.truthy then .ok v else .error (.api fault)

/-- Creates an entity. -/
def createEntity (kind : Kind) (payload : Value) : Action Value := do
  let path ← kind.require kind.entityPath?
  let created ← request .post path [] (bodyOf payload) false
  expect created (.createFailed kind)

/-- Changes an entity. -/
def updateEntity (kind : Kind) (id payload : Value) : Action Value := do
  let path ← entityPath kind id
  let updated ← request .put path [] (bodyOf payload) false
  expect updated (.updateFailed kind id)

/-- Comments on a story. -/
def commentOnStory (story text : Value) : Action Value := do
  let path := "/stories/" ++ story.display ++ "/comments"
  let comment ← request .post path [] (some (.object [("text", text)])) false
  expect comment (.commentFailed story)

/-- The stories of an iteration. -/
def iterationStories (iteration : Value) : Action Value := do
  let path := "/iterations/" ++ iteration.display ++ "/stories"
  let stories ← get path [("includes_description", .text "false")]
  pure stories.orNoItems

end Api

end Backlog
