import Backlog.Query.Compile
import Backlog.Report
import Backlog.Resolver
/-!
# Searching

A search tool checks the dates it is given, looks up what the query needs
and asks for one page of results. What it finds is hydrated and reported.
-/

namespace Backlog

namespace Tools

/-- Adds a team under one of its labels, unless the label is taken. The id
is needed only when there is a label. -/
def addTeamLabel (team : Value) (ids : Table String Value) (label : Value) :
    Except Fault (Table String Value) :=
  if label.truthy then do
    let id ← team.required "id"
    pure (ids.insertIfNew (Query.teamLabel label) id)
  else pure ids

/-- Adds a team under its name and under the name it is mentioned by. -/
def addTeam (ids : Table String Value) (team : Value) : Except Fault (Table String Value) := do
  let name ← team.field "name"
  let mention ← team.field "mention_name"
  [name, mention].foldlM (addTeamLabel team) ids

/-- The ids of teams by label. -/
def teamIdsOf (teams : List Value) : Except Fault (Table String Value) :=
  teams.foldlM addTeam []

/-- The ids of the teams in the cache by label. -/
def teamIds : Action (Table String Value) := do
  let teams ← Resolver.referenceValues .teams false
  teamIdsOf teams

/-- The current user, if the parameters name them. -/
def userForQuery (fields : Query.Fields) (params : Table String Value) : Action Value :=
  if Query.needsCurrentUser fields params then Api.currentUser else pure .null

/-- The ids of teams, if the parameters name one. -/
def teamIdsForQuery (fields : Query.Fields) (params : Table String Value) :
    Action (Table String Value) :=
  if Query.needsTeamIds fields params then teamIds else pure []

/-- The query of a search, with what it needs looked up. `negate` names the
filters that are inverted. -/
def compile (kind : Kind) (params : Table String Value) (negate : Value) : Action String := do
  match kind.searchFields? with
  | none => Run.fail (.missingKey (.text kind.name))
  | some fields =>
    Query.checkDates fields params
    let user ← userForQuery fields params
    let ids ← teamIdsForQuery fields params
    let negated ← Query.namesIn negate.orNoItems
    Query.compile fields params negated user (.object ids)

/-- The token of a page as a value. -/
def tokenValue (token : Option String) : Value :=
  match token with
  | some token => .text token
  | none => .null

/-- Searches a kind and reports one page. -/
def search (kind : Kind) (params : Table String Value) (negate token : Value) :
    Action String := do
  let query ← compile kind params negate
  let page ← Api.search kind (.text query) Api.defaultPageSize token
  if page.items.isEmpty then pure (Report.render ("Result: No " ++ kind.name ++ " found."))
  else
    let hydrated ← Resolver.resolveMany kind page.items
    pure (Report.render
      ("Result (" ++ toString page.items.length ++ " shown of " ++ toString page.total ++
        " total " ++ kind.name ++ " found):")
      hydrated.toValue (tokenValue page.nextPageToken))

end Tools

end Backlog
