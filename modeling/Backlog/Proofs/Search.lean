import Backlog.Proofs.Http.Target
import Backlog.Proofs.Orderly
import Backlog.Proofs.Query.Clauses
/-!
# How a search goes

A search checks its dates, asks for the current user if the query names them
and they are not known, sees to the team cache if the query names a team, and
then asks for one page (`Tools.Searched`). What comes after that page is
hydration and the report (`Tools.reported`).
-/

namespace Backlog

/-- A client can send what a search of a kind asks for apart from its filters:
the current user, the list of teams, and a search without filters. -/
structure Client.CanSearch (client : Client) (kind : Kind) : Prop where
  /-- It can ask for the current user. -/
  member : ∃ request, Api.outgoing client .get "/member" [] none = .ok request
  /-- It can ask for the list of teams. -/
  teams : ∃ request, (Ask.list .teams).request client = .ok request
  /-- It can search without filters. -/
  search : ∃ path request, kind.searchPath? = some path ∧
    Api.outgoing client .get path (Api.searchParams (.text "") Api.defaultPageSize .null) none =
      .ok request

namespace Tools

/-- Whether a search asks for the current user: a filter names them, and they are
not known. -/
def asksMember (fields : Query.Fields) (params : Table String Value) (s : Session) : Bool :=
  Query.needsCurrentUser fields params && s.client.currentUser.isNull

/-- Whether a search asks for the list of teams: a filter names one, and the cache
of teams is stale. -/
def asksTeams (fields : Query.Fields) (params : Table String Value) (s : Session) : Bool :=
  Query.needsTeamIds fields params && s.knownStale .teams

/-- The named texts of a search. -/
def searchTexts (query : String) (token : Value) : List (String × String) :=
  [("query", query), ("page_size", "25"), ("detail", "slim")] ++
    if token.truthy then [("next", token.display)] else []

/-- What a search does with the reply to its question for a page. -/
def reported (kind : Kind) (query : String) (reply : Except Fault Value) : Action String := do
  let reply ← reply
  let page ← Api.readPage kind (.text query) reply
  if page.items.isEmpty then pure (Report.render ("Result: No " ++ kind.name ++ " found."))
  else
    let hydrated ← Resolver.resolveMany kind page.items
    pure (Report.render
      ("Result (" ++ toString page.items.length ++ " shown of " ++ toString page.total ++
        " total " ++ kind.name ++ " found):")
      hydrated.toValue (tokenValue page.nextPageToken))

section

variable (remote : Remote) (fields : Query.Fields) (params : Table String Value)

/-- Where the current user of a query comes from, and what that leaves of a
session. -/
inductive UserFound (s : Session) : Value → Session → Prop where
  /-- No filter names them: nothing is asked, and there is none. -/
  | unneeded (hneeds : Query.needsCurrentUser fields params = false) : UserFound s .null s
  /-- They are known: nothing is asked. -/
  | known (hneeds : Query.needsCurrentUser fields params = true)
      (hknown : s.client.currentUser.isNull = false) : UserFound s s.client.currentUser s
  /-- They are not known: the tracker is asked once, and its answer is
  remembered. -/
  | asked {request : Http.Request} {user : Value}
      (hneeds : Query.needsCurrentUser fields params = true)
      (hunknown : s.client.currentUser.isNull = true)
      (hrequest : Api.outgoing s.client .get "/member" [] none = .ok request)
      (hanswer : (remote s.exchanges request).value .get request.url "/member" true = .ok user) :
      UserFound s user
        { s.received request (remote s.exchanges request) with
          client := { s.client with currentUser := user } }

/-- The current user is asked for, and that fails. -/
structure UserMissing (s : Session) (request : Http.Request) (fault : Fault) : Prop where
  /-- A filter names them, and they are not known. -/
  asks : asksMember fields params s = true
  /-- The request for them. -/
  asked : Api.outgoing s.client .get "/member" [] none = .ok request
  /-- What it leads to. -/
  failed : (remote s.exchanges request).value .get request.url "/member" true = .error fault

/-- Where the ids of teams of a query come from, and what that leaves of a
session. -/
inductive TeamsFound (s : Session) : Table String Value → Session → Prop where
  /-- No filter names a team: nothing is asked, and there are none. -/
  | unneeded (hneeds : Query.needsTeamIds fields params = false) : TeamsFound s [] s
  /-- The cache of teams is fresh: nothing is asked. -/
  | fresh {ids : Table String Value} {log : List LogLine}
      (hneeds : Query.needsTeamIds fields params = true) (hfresh : s.isStale .teams = .ok false)
      (hids : teamIdsOf (s.cacheOf .teams).values = .ok ids) : TeamsFound s ids { s with log }
  /-- The cache of teams is stale: the list of teams is asked for once, and the
  cache is what a refill makes of it, or as it was when that fails. -/
  | refilled {request : Http.Request} {ids : Table String Value} {log : List LogLine}
      (hneeds : Query.needsTeamIds fields params = true) (hstale : s.isStale .teams = .ok true)
      (hrequest : (Ask.list .teams).request s.client = .ok request)
      (hids : teamIdsOf ((s.refilled remote .teams).cacheOf .teams).values = .ok ids) :
      TeamsFound s ids { s.refilled remote .teams with log }

/-- What a search looks up before it compiles its query: the requests for it, in
order. -/
def lookups (s : Session) : List Http.Request :=
  (if asksMember fields params s then
    (Api.outgoing s.client .get "/member" [] none).toOption.toList else []) ++
  if asksTeams fields params s then ((Ask.list .teams).request s.client).toOption.toList else []

end

section

variable {remote : Remote} {fields : Query.Fields} {params : Table String Value}
variable {s m n : Session} {user : Value} {ids : Table String Value}

/-! ## The current user -/

/-- **Looking up the current user.** -/
theorem userForQuery_apply (fields : Query.Fields) (params : Table String Value)
    (hsend : ∃ request, Api.outgoing s.client .get "/member" [] none = .ok request) :
    (∃ user m, userForQuery fields params remote s = (.ok user, m) ∧
        UserFound remote fields params s user m) ∨
      ∃ request fault, UserMissing remote fields params s request fault ∧
        userForQuery fields params remote s =
          (.error fault, s.received request (remote s.exchanges request)) := by
  rw [userForQuery]
  cases hneeds : Query.needsCurrentUser fields params with
  | false => exact .inl ⟨.null, s, rfl, .unneeded hneeds⟩
  | true =>
    rw [if_pos rfl]
    cases hunknown : s.client.currentUser.isNull with
    | false => exact .inl ⟨_, s, Api.currentUser_of_known hunknown, .known hneeds hunknown⟩
    | true =>
      obtain ⟨request, hrequest⟩ := hsend
      have hasked := Api.request_apply .get "/member" [] none true remote s
      rw [hrequest] at hasked
      dsimp only at hasked
      rw [Api.currentUser_of_unknown hunknown, Run.bind_apply, Api.getIfThere, hasked]
      cases hanswer : (remote s.exchanges request).value .get request.url "/member" true with
      | ok user => exact .inl ⟨user, _, rfl, .asked hneeds hunknown hrequest hanswer⟩
      | error fault =>
        refine .inr ⟨request, fault, ⟨?_, hrequest, hanswer⟩, rfl⟩
        rw [asksMember, hneeds, hunknown]
        rfl

namespace UserFound

/-- Caches and clock have no part in it. -/
theorem caches_eq (h : UserFound remote fields params s user m) :
    m.caches = s.caches ∧ m.clock = s.clock := by
  cases h <;> exact ⟨rfl, rfl⟩

/-- The client goes on sending what it sent. -/
theorem outgoing_eq (h : UserFound remote fields params s user m) (method : Http.Method)
    (path : String) (query : Api.Params) (body : Option Value) :
    Api.outgoing m.client method path query body =
      Api.outgoing s.client method path query body := by
  cases h <;> rfl

theorem request_eq (h : UserFound remote fields params s user m) (ask : Ask) :
    ask.request m.client = ask.request s.client := by
  cases h <;> rfl

/-- The request for the current user is sent when it is needed. -/
theorem requests_eq (h : UserFound remote fields params s user m) :
    m.exchanges.map (·.request) = s.exchanges.map (·.request) ++
      if asksMember fields params s then
        (Api.outgoing s.client .get "/member" [] none).toOption.toList else [] := by
  cases h with
  | unneeded hneeds => simp [asksMember, hneeds]
  | known hneeds hknown => simp [asksMember, hneeds, hknown]
  | asked hneeds hunknown hrequest hanswer =>
    simp [asksMember, hneeds, hunknown, hrequest, Except.toOption, Session.received]

/-- What is found can be read as a user. -/
theorem isUserIfAny (h : UserFound remote fields params s user m) (hremote : remote.NamesUsers)
    (hs : s.Orderly) : user.IsUserIfAny := by
  cases h with
  | unneeded hneeds => exact Value.isUserIfAny_null
  | known hneeds hknown => exact hs.user
  | @asked request user hneeds hunknown hrequest hanswer =>
    refine hremote s user (s.received request (remote s.exchanges request)) ?_
    rw [Api.getIfThere, Api.request_apply, hrequest]
    dsimp only
    rw [hanswer]

/-- The session stays orderly. -/
theorem orderly (h : UserFound remote fields params s user m) (hremote : remote.NamesUsers)
    (hs : s.Orderly) : m.Orderly := by
  have huser := h.isUserIfAny hremote hs
  cases h with
  | unneeded hneeds => exact hs
  | known hneeds hknown => exact hs
  | asked hneeds hunknown hrequest hanswer => exact ⟨hs.clock, hs.loadedAt, hs.keyed, huser⟩

end UserFound

/-! ## The ids of teams -/

/-- **Ids can be told from teams that are objects with ids.** -/
theorem exists_teamIdsOf {teams : List Value}
    (h : ∀ team ∈ teams, ∃ fields own, team = .object fields ∧
      Table.get? fields "id" = some (.atom own)) : ∃ ids, teamIdsOf teams = .ok ids := by
  refine Except.exists_foldlM_eq_ok (fun ids team hteam => ?_) []
  obtain ⟨fields, own, rfl, hid⟩ := h team hteam
  have hrequired : (Value.object fields).required "id" = .ok (.atom own) := by
    rw [Value.required, hid]
  have hlabel : ∀ ids label, ∃ ids', addTeamLabel (.object fields) ids label = .ok ids' := by
    intro ids label
    rw [addTeamLabel]
    split
    · exact ⟨_, Except.bind_eq_ok.2 ⟨_, hrequired, rfl⟩⟩
    · exact ⟨ids, rfl⟩
  obtain ⟨ids', hids'⟩ := Except.exists_foldlM_eq_ok
    (l := [Value.fieldOf fields "name", Value.fieldOf fields "mention_name"])
    (fun ids label _ => hlabel ids label) ids
  exact ⟨ids', hids'⟩

theorem exists_teamIdsOf_values {cache : Cache} (h : cache.KeyedById) :
    ∃ ids, teamIdsOf cache.values = .ok ids := by
  exact exists_teamIdsOf fun team hteam => h.of_mem_values hteam

/-- **Looking up the ids of teams.** -/
theorem teamIdsForQuery_apply (fields : Query.Fields) (params : Table String Value)
    (hs : s.Orderly)
    (hsend : ∃ request, (Ask.list .teams).request s.client = .ok request) :
    ∃ ids n, teamIdsForQuery fields params remote s = (.ok ids, n) ∧
      TeamsFound remote fields params s ids n := by
  have hteams : Kind.teams ∈ Kind.cached := by simp [Kind.cached]
  rw [teamIdsForQuery]
  cases hneeds : Query.needsTeamIds fields params with
  | false => exact ⟨[], s, rfl, .unneeded hneeds⟩
  | true =>
    have hdecided := hs.isStale_eq hteams
    obtain ⟨log, hvalues⟩ := Resolver.referenceValues_apply hteams remote hdecided
    obtain ⟨request, hrequest⟩ := hsend
    have hread : ∀ ids,
        teamIdsOf ((s.seenTo remote .teams).cacheOf .teams).values = .ok ids →
          teamIds remote s = (.ok ids, { s.seenTo remote .teams with log }) := by
      intro ids hids
      rw [teamIds, Run.bind_of_ok _ hvalues, Run.lift_apply, hids]
    rw [if_pos rfl]
    rw [Session.seenTo] at hread
    cases hstale : s.knownStale .teams with
    | false =>
      rw [hstale] at hread hdecided
      obtain ⟨ids, hids⟩ := exists_teamIdsOf_values (hs.keyed .teams hteams)
      exact ⟨ids, _, hread ids hids, .fresh hneeds hdecided hids⟩
    | true =>
      rw [hstale] at hread hdecided
      have hkeyed : ((s.refilled remote .teams).cacheOf .teams).KeyedById :=
        Session.keyedById_refilled hteams (hs.keyed .teams hteams)
      obtain ⟨ids, hids⟩ := exists_teamIdsOf_values hkeyed
      exact ⟨ids, _, hread ids hids, .refilled hneeds hdecided hrequest hids⟩

namespace TeamsFound

/-- The client has no part in it. -/
theorem client_eq (h : TeamsFound remote fields params s ids n) : n.client = s.client := by
  cases h with
  | unneeded hneeds => rfl
  | fresh hneeds hfresh hids => rfl
  | refilled hneeds hstale hrequest hids => exact Session.client_refilled remote .teams s

/-- The request for the list of teams is sent when it is needed. -/
theorem requests_eq (h : TeamsFound remote fields params s ids n) :
    n.exchanges.map (·.request) = s.exchanges.map (·.request) ++
      if asksTeams fields params s then
        ((Ask.list .teams).request s.client).toOption.toList else [] := by
  have hknown : ∀ stale, s.isStale .teams = .ok stale → s.knownStale .teams = stale := by
    intro stale hstale
    rw [Session.knownStale, hstale]
    rfl
  cases h with
  | unneeded hneeds => simp [asksTeams, hneeds]
  | fresh hneeds hfresh hids => simp [asksTeams, hneeds, hknown false hfresh]
  | refilled hneeds hstale hrequest hids =>
    simp [asksTeams, hneeds, hknown true hstale, hrequest, Except.toOption,
      Session.exchanges_refilled, Ask.exchanges]

end TeamsFound

/-- **What is looked up, in order.** -/
theorem lookups_sent (huser : UserFound remote fields params s user m)
    (hteams : TeamsFound remote fields params m ids n) :
    n.exchanges.map (·.request) =
      s.exchanges.map (·.request) ++ lookups fields params s := by
  obtain ⟨hcaches, hclock⟩ := huser.caches_eq
  have hstale : m.knownStale .teams = s.knownStale .teams := by
    rw [Session.knownStale, Session.isStale_congr (Session.cacheOf_congr hcaches .teams) hclock,
      Session.knownStale]
  have hasks : asksTeams fields params m = asksTeams fields params s := by
    rw [asksTeams, asksTeams, hstale]
  rw [hteams.requests_eq, huser.requests_eq, hasks, huser.request_eq, lookups, List.append_assoc]

end

/-! ## The question for a page -/

section

variable (remote : Remote) (kind : Kind) (fields : Query.Fields) (params : Table String Value)
variable (negated : List String) (token : Value)

/-- **How a search goes**: what it ends in, and what it leaves of a session. -/
inductive Searched (s : Session) : Except Fault String → Session → Prop where
  /-- A date is invalid: nothing is asked and nothing changes. -/
  | badDate {fault : Date.Fault} (hdates : Query.checkDates fields params = .error (.date fault)) :
      Searched s (.error (.date fault)) s
  /-- The current user is asked for, and that fails: nothing else is asked. -/
  | noUser {request : Http.Request} {fault : Fault}
      (hdates : Query.checkDates fields params = .ok ())
      (hmissing : UserMissing remote fields params s request fault) :
      Searched s (.error fault) (s.received request (remote s.exchanges request))
  /-- The query does not fit into an address: nothing is asked beyond what is
  looked up for it. -/
  | unfit {user : Value} {ids : Table String Value} {query : String} {fault : Fault}
      {m n : Session} (hdates : Query.checkDates fields params = .ok ())
      (huser : UserFound remote fields params s user m)
      (hteams : TeamsFound remote fields params m ids n)
      (hlookups : n.exchanges.map (·.request) =
        s.exchanges.map (·.request) ++ lookups fields params s)
      (hquery : Query.compile fields params negated user (.object ids) = .ok query)
      (hunfit : Api.Unfit (searchTexts query token) fault) : Searched s (.error fault) n
  /-- A page is asked for, and reported. -/
  | asked {user : Value} {ids : Table String Value} {query path : String} {m n : Session}
      {request : Http.Request} (hdates : Query.checkDates fields params = .ok ())
      (huser : UserFound remote fields params s user m)
      (hteams : TeamsFound remote fields params m ids n)
      (hlookups : n.exchanges.map (·.request) =
        s.exchanges.map (·.request) ++ lookups fields params s)
      (hquery : Query.compile fields params negated user (.object ids) = .ok query)
      (hfits : Api.Fits (searchTexts query token)) (hpath : kind.searchPath? = some path)
      (hrequest : Api.outgoing n.client .get path
        (Api.searchParams (.text query) Api.defaultPageSize token) none = .ok request)
      (hparams : request.params = searchTexts query token) :
      Searched s
        (reported kind query ((remote n.exchanges request).value .get request.url path false)
          remote (n.received request (remote n.exchanges request))).1
        (reported kind query ((remote n.exchanges request).value .get request.url path false)
          remote (n.received request (remote n.exchanges request))).2

end

section

variable {remote : Remote} {kind : Kind} {fields : Query.Fields} {params : Table String Value}
variable {negated : List String} {token : Value} {s : Session}

/-- The named texts of a search, as they are put into the request. -/
theorem paramPairs_searchParams (query : String)
    (htoken : token = .null ∨ ∃ text, token = .text text) :
    Api.paramPairs (Api.searchParams (.text query) Api.defaultPageSize token) =
      searchTexts query token := by
  rcases htoken with rfl | ⟨text, rfl⟩
  · rfl
  · rw [Api.searchParams, searchTexts]
    split <;> rfl

/-- The tracker reads what is searched for. -/
theorem ofList_searchTexts (query : String) (token : Value) :
    Table.ofList (searchTexts query token) = searchTexts query token := by
  rw [searchTexts]
  split <;> rfl

/-- **A token that is too long is not asked for**, whatever is searched for. -/
theorem not_fits_of_long {query text : String} (hlong : Http.Url.maxLength < text.length) :
    ¬ Api.Fits (searchTexts query (.text text)) := by
  intro hfits
  have htruthy : Value.truthy (.text text) = true := by
    cases htext : Value.truthy (.text text) with
    | true => rfl
    | false =>
      have hempty : text = "" := by simpa [Value.truthy] using htext
      rw [hempty] at hlong
      exact absurd hlong (Nat.not_lt_zero _)
  have hmem : ("next", text) ∈ searchTexts query (.text text) := by
    rw [searchTexts, if_pos htruthy]
    exact List.mem_append_right _ List.mem_cons_self
  have hlength : text.length ≤ Http.Url.maxLength :=
    Nat.le_trans (Http.Form.length_le_encode hmem) hfits.short
  omega

/-! ### Compiling -/

section

variable {negate : Value} (hfields : kind.searchFields? = some fields)
include hfields

theorem compile_of_badDate {fault : Fault}
    (hdates : Query.checkDates fields params = .error fault) :
    compile kind params negate remote s = (.error fault, s) := by
  rw [compile, hfields]
  dsimp only
  rw [Run.bind_apply, Run.lift_apply, hdates]

theorem compile_of_noUser {fault : Fault} {m : Session}
    (hdates : Query.checkDates fields params = .ok ())
    (huser : userForQuery fields params remote s = (.error fault, m)) :
    compile kind params negate remote s = (.error fault, m) := by
  rw [compile, hfields]
  dsimp only
  rw [Run.bind_apply, Run.lift_apply, hdates]
  dsimp only
  rw [Run.bind_apply, huser]

theorem compile_of_found {user : Value} {ids : Table String Value} {m n : Session}
    (hdates : Query.checkDates fields params = .ok ())
    (huser : userForQuery fields params remote s = (.ok user, m))
    (hteams : teamIdsForQuery fields params remote m = (.ok ids, n))
    (hnegated : Query.namesIn negate.orNoItems = .ok negated) :
    compile kind params negate remote s =
      (Query.compile fields params negated user (.object ids), n) := by
  rw [compile, hfields]
  dsimp only
  rw [Run.bind_apply, Run.lift_apply, hdates]
  dsimp only
  rw [Run.bind_of_ok _ huser, Run.bind_of_ok _ hteams, Run.bind_apply, Run.lift_apply, hnegated]
  rfl

end

/-! ### Asking for the page -/

/-- Once its query is compiled, a search asks for a page and reports what comes of
that. -/
theorem search_of_compiled {negate : Value} {query path : String} {n t : Session}
    {reply : Except Fault Value} (hcompiled : compile kind params negate remote s = (.ok query, n))
    (hpath : kind.searchPath? = some path)
    (hget : Api.get path (Api.searchParams (.text query) Api.defaultPageSize token) remote n =
      (reply, t)) :
    search kind params negate token remote s = reported kind query reply remote t := by
  rw [search, Run.bind_of_ok _ hcompiled, Api.search, hpath, Run.bind_apply, Run.bind_apply,
    Run.lift_apply, Kind.require]
  dsimp only
  rw [Run.bind_apply, hget, reported, Run.bind_apply, Run.lift_apply]
  cases reply with
  | error fault => rfl
  | ok reply =>
    dsimp only
    rw [Run.lift_apply, Run.bind_apply, Run.lift_apply]

/-- A page that is asked for is reported. -/
theorem search_of_asked {negate : Value} {query path : String} {n : Session}
    {request : Http.Request} (hcompiled : compile kind params negate remote s = (.ok query, n))
    (hpath : kind.searchPath? = some path)
    (hrequest : Api.outgoing n.client .get path
      (Api.searchParams (.text query) Api.defaultPageSize token) none = .ok request) :
    search kind params negate token remote s =
      reported kind query ((remote n.exchanges request).value .get request.url path false)
        remote (n.received request (remote n.exchanges request)) := by
  refine search_of_compiled hcompiled hpath ?_
  rw [Api.get, Api.request_apply, hrequest]

/-- A page that cannot be asked for is not. -/
theorem search_of_unfit {negate : Value} {query path : String} {n : Session} {fault : Fault}
    (hcompiled : compile kind params negate remote s = (.ok query, n))
    (hpath : kind.searchPath? = some path)
    (hrequest : Api.outgoing n.client .get path
      (Api.searchParams (.text query) Api.defaultPageSize token) none = .error fault) :
    search kind params negate token remote s = (.error fault, n) := by
  have hget : Api.get path (Api.searchParams (.text query) Api.defaultPageSize token) remote n =
      (.error fault, n) := by
    rw [Api.get, Api.request_apply, hrequest]
  rw [search_of_compiled hcompiled hpath hget]
  rfl

/-- A search has named texts. -/
theorem searchParams_ne_nil (query pageSize token : Value) :
    Api.searchParams query pageSize token ≠ [] := List.cons_ne_nil _ _

/-- A client that can search without filters can search with filters that fit. -/
theorem exists_outgoing_of_fits {client : Client} {path query : String} {plain : Http.Request}
    (hplain : Api.outgoing client .get path
      (Api.searchParams (.text "") Api.defaultPageSize .null) none = .ok plain)
    (htoken : token = .null ∨ ∃ text, token = .text text)
    (hfits : Api.Fits (searchTexts query token)) :
    ∃ request, Api.outgoing client .get path
        (Api.searchParams (.text query) Api.defaultPageSize token) none = .ok request ∧
      request.params = searchTexts query token := by
  have hpairs := paramPairs_searchParams query htoken
  have hrequest := Api.outgoing_of_fits hplain (searchParams_ne_nil _ _ _)
    (searchParams_ne_nil (.text query) Api.defaultPageSize token) (hpairs.symm ▸ hfits)
  rw [hpairs] at hrequest
  refine ⟨_, hrequest, ?_⟩
  rw [Api.params_of_query rfl, ofList_searchTexts]

/-- It cannot search with filters that do not. -/
theorem exists_fault_of_not_fits {client : Client} {path query : String} {plain : Http.Request}
    (hplain : Api.outgoing client .get path
      (Api.searchParams (.text "") Api.defaultPageSize .null) none = .ok plain)
    (htoken : token = .null ∨ ∃ text, token = .text text)
    (hfits : ¬ Api.Fits (searchTexts query token)) :
    ∃ fault, Api.outgoing client .get path
        (Api.searchParams (.text query) Api.defaultPageSize token) none = .error fault ∧
      Api.Unfit (searchTexts query token) fault := by
  rw [← paramPairs_searchParams query htoken] at hfits ⊢
  exact Api.outgoing_of_not_fits hplain (searchParams_ne_nil _ _ _) (searchParams_ne_nil _ _ _)
    hfits

variable (params) in
/-- **A search goes as it should.** -/
theorem search_goes {negate : Value} (hremote : remote.NamesUsers) (hs : s.Orderly)
    (hsend : s.client.CanSearch kind) (hfields : kind.searchFields? = some fields)
    (hnegated : Query.namesIn negate.orNoItems = .ok negated)
    (htoken : token = .null ∨ ∃ text, token = .text text) :
    ∃ result t, search kind params negate token remote s = (result, t) ∧
      Searched remote kind fields params negated token s result t := by
  cases hdates : Query.checkDates fields params with
  | error fault =>
    obtain ⟨date, rfl⟩ := Query.of_checkDates_eq_error hdates
    refine ⟨_, _, ?_, .badDate hdates⟩
    rw [search, Run.bind_apply, compile_of_badDate hfields hdates]
  | ok checked =>
    rcases userForQuery_apply fields params hsend.member with
      ⟨user, m, hfound, huser⟩ | ⟨request, fault, hmissing, hfound⟩
    · have hm := huser.orderly hremote hs
      have hteamsSend : ∃ request, (Ask.list .teams).request m.client = .ok request := by
        rw [huser.request_eq]
        exact hsend.teams
      obtain ⟨ids, n, hids, hteams⟩ := teamIdsForQuery_apply fields params hm hteamsSend
      obtain ⟨query, hquery⟩ := Query.exists_compile hdates negated
        (huser.isUserIfAny hremote hs) (Value.isObjectIfAny_object ids)
      have hcompiled : compile kind params negate remote s = (.ok query, n) := by
        rw [compile_of_found hfields hdates hfound hids hnegated, hquery]
      have hlookups := lookups_sent huser hteams
      -- the client that asks for the page is the one that could search before
      obtain ⟨path, plain, hpath, hplain⟩ := hsend.search
      rw [← huser.outgoing_eq, ← hteams.client_eq] at hplain
      by_cases hfits : Api.Fits (searchTexts query token)
      · obtain ⟨request, hrequest, hparams⟩ := exists_outgoing_of_fits hplain htoken hfits
        exact ⟨_, _, search_of_asked hcompiled hpath hrequest,
          .asked hdates huser hteams hlookups hquery hfits hpath hrequest hparams⟩
      · obtain ⟨fault, hrequest, hunfit⟩ := exists_fault_of_not_fits hplain htoken hfits
        exact ⟨_, _, search_of_unfit hcompiled hpath hrequest,
          .unfit hdates huser hteams hlookups hquery hunfit⟩
    · refine ⟨_, _, ?_, .noUser hdates hmissing⟩
      rw [search, Run.bind_apply, compile_of_noUser hfields hdates hfound]

end

end Tools

end Backlog
