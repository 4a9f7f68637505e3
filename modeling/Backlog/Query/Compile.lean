import Backlog.Query.Field
import Backlog.Text.LowerCase
import Backlog.Value.Access
/-!
# Compiling a search

A search is a table of parameters. Each field of the kind that has a
parameter becomes one clause `[!]operator:value`, and the clauses, in the
order of the fields, joined by spaces, are the query. `checkDates`,
`needsCurrentUser` and `needsTeamIds` tell in advance whether compiling can
fail and what has to be looked up for it.
-/

namespace Backlog

namespace Query

/-- The word for the current user. -/
def currentUserWord : String := "me"

/-- A value inside a clause, in double quotes when it holds a blank. -/
def clauseValue (v : Value) : String :=
  if Text.hasBlank v.display then "\"" ++ v.display ++ "\"" else v.display

/-- Whether a parameter is there in name only: null or a blank text. -/
def isAbsent : Value → Bool
  | .null => true
  | .text s => Text.strip s = ""
  | _ => false

/-- The name by which a user is mentioned, null when there is none. It
stands in the user or in the user's profile. -/
def mentionName (user : Value) : Except Fault Value :=
  if user.truthy then do
    let name ← user.field "mention_name"
    if name.isNull then
      let profile ← user.field "profile"
      let name ← profile.orNoFields.field "mention_name"
      pure (name.orElse .null)
    else pure (name.orElse .null)
  else pure .null

/-- The form in which names of teams are compared. -/
def teamLabel (v : Value) : String := Text.lower (Text.strip v.display)

/-- The sign in front of an inverted clause. -/
def negation (negated : Bool) : String := if negated then "!" else ""

/-- The names among the parts of a value. A part that can be no id is a
fault; an id that is no text is no name. -/
def namesIn (v : Value) : Except Fault (List String) := do
  let parts ← v.elements
  let ids ← parts.mapM Value.asId
  pure (ids.filterMap fun
    | .text name => some name
    | _ => none)

/-- The id of the team that a value names, null when none is known. -/
def teamId (teamIds v : Value) : Except Fault Value :=
  if teamIds.truthy then teamIds.field (teamLabel v) else pure .null

/-- Whether a value is the word for the current user. -/
def isCurrentUser (v : Value) : Bool := v == .text currentUserWord

/-- The user that a value names. -/
def resolvedUser (currentUser v : Value) : Except Fault Value :=
  if isCurrentUser v then do
    let name ← mentionName currentUser
    pure (name.orElse v)
  else pure v

/-- The clause of a field with a value. -/
def clause (field : Field) (v : Value) (negated : Bool) (currentUser teamIds : Value) :
    Except Fault String :=
  match field.kind with
  | .flag => pure (negation (v.truthy == negated) ++ field.operator)
  | .date => (Date.clause field.operator v.display negated).mapError .date
  | .user => do
    let v ← resolvedUser currentUser v
    pure (negation negated ++ field.operator ++ ":" ++ clauseValue v)
  | .team => do
    let id ← teamId teamIds v
    if id.truthy then pure (negation negated ++ "group:" ++ id.display)
    else pure (negation negated ++ field.operator ++ ":" ++ clauseValue v)
  | .value => pure (negation negated ++ field.operator ++ ":" ++ clauseValue v)

/-- The clauses of the fields that have a parameter, in the order of the
fields. -/
def clauses (params : Table String Value) (negated : List String) (currentUser teamIds : Value) :
    Fields → Except Fault (List String)
  | [] => pure []
  | (name, field) :: rest =>
    let v := Value.fieldOf params name
    if isAbsent v then clauses params negated currentUser teamIds rest
    else do
      let first ← clause field v (negated.contains name) currentUser teamIds
      let others ← clauses params negated currentUser teamIds rest
      pure (first :: others)

/-- The query of a search. -/
def compile (fields : Fields) (params : Table String Value) (negated : List String)
    (currentUser teamIds : Value) : Except Fault String := do
  let all ← clauses params negated currentUser teamIds fields
  pure (" ".intercalate all)

/-- The parameters that a value holds for some fields. What is no object holds
none, and must not hold the name of a field among its parts. -/
def paramsIn (fields : Fields) (v : Value) : Except Fault (Table String Value) :=
  match v with
  | .object params => .ok params
  | v => do
    if ← fields.anyM fun (name, _) => v.has name then throw .wrongType else pure []

/-- The parameters that a value holds for the fields of a clause kind. Where
there are such fields, it must be an object. -/
def paramsFor (kind : ClauseKind) (fields : Fields) (v : Value) :
    Except Fault (Table String Value) :=
  match v with
  | .object params => .ok params
  | _ => if fields.any fun (_, field) => field.kind = kind then .error .noSuchMember else .ok []

/-- Checks the date parameters. -/
def checkDates (fields : Fields) (params : Table String Value) : Except Fault Unit :=
  match fields with
  | [] => pure ()
  | (name, field) :: rest =>
    let v := Value.fieldOf params name
    if field.kind = .date ∧ ¬ isAbsent v then
      match Date.validate v.display with
      | .ok _ => checkDates rest params
      | .error fault => .error (.date fault)
    else checkDates rest params

/-- Whether a parameter names the current user. -/
def needsCurrentUser (fields : Fields) (params : Table String Value) : Bool :=
  fields.any fun (name, field) => field.kind = .user && isCurrentUser (Value.fieldOf params name)

/-- Whether a parameter may name a team. -/
def needsTeamIds (fields : Fields) (params : Table String Value) : Bool :=
  fields.any fun (name, field) => field.kind = .team && !isAbsent (Value.fieldOf params name)

end Query

end Backlog
