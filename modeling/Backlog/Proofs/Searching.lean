import Backlog.Proofs.Binding
import Backlog.Proofs.Calling
import Backlog.Proofs.Search
/-!
# Calling a search tool

The four search tools differ in their filters only. The arguments of a call are
bound to the parameters of its tool, and the filters that come out other than
null are what the query is compiled from (`Server.Tool.givenFilters`); the rest
of the arguments names the filters that are inverted and the page. What has to
be looked up for the query is told from the arguments (`Server.Tool.Told`). What a
call does is then how its search goes (`Tools.Searched`), in the session of the
server (`Server.search_call_goes`). Not every search gets as far as its page:
what is too long for an address is not asked for
(`Server.far_page_not_asked`).
-/

namespace Backlog

namespace Server

namespace Tool

/-! ## The controls of a search -/

/-- **The page and the inverted filters of a call.** What is bound to the
parameters of a search besides its filters is a token or null, and a list of names
or null. -/
theorem of_bind?_searchControls {given : Table String Value} {args : Arguments}
    (h : Arguments.bind? searchControls given = some args) :
    ∃ negate token, args = [("negate", negate), ("next_page_token", token)] ∧
      (negate = .null ∨ ∃ names, negate = Value.texts names) ∧
      (token = .null ∨ ∃ text, token = .text text) := by
  obtain ⟨negate, rest, hnegate, hrest, rfl⟩ := Arguments.bind?_cons_eq_some_iff.1 h
  obtain ⟨token, none, htoken, hnone, rfl⟩ := Arguments.bind?_cons_eq_some_iff.1 hrest
  cases hnone
  exact ⟨negate, token, rfl,
    (Parameter.of_bind?_optional hnegate).imp_right exists_texts_of_accepts,
    (Parameter.of_bind?_optional htoken).imp_right exists_text_of_accepts⟩

/-- The names in a list of texts are those texts. -/
theorem namesIn_texts (names : List String) :
    Query.namesIn (Value.texts names).orNoItems = .ok names := by
  have hids : (names.map Value.text).mapM Value.asId = .ok (names.map Atom.text) := by
    rw [← Value.mapM_asId_atoms (names.map .text), List.map_map]
    rfl
  have hlist : (Value.texts names).orNoItems = .list (names.map .text) := by
    cases names <;> rfl
  rw [Query.namesIn, hlist]
  refine Except.bind_eq_ok.2 ⟨_, rfl, Except.bind_eq_ok.2 ⟨_, hids, ?_⟩⟩
  rw [List.filterMap_map]
  exact congrArg Except.ok List.filterMap_some

/-! ## The search tools -/

/-- A search tool. -/
structure Searcher where
  /-- The name it is called by. -/
  name : String
  /-- What it searches. -/
  kind : Kind
  /-- What it can be searched by. -/
  filters : List Parameter

/-- The search tools. -/
def searchers : List Searcher :=
  [⟨"stories_search", .stories, storyFilters⟩, ⟨"epics_search", .epics, epicFilters⟩,
   ⟨"iterations_search", .iterations, iterationFilters⟩,
   ⟨"objectives_search", .objectives, objectiveFilters⟩]

/-- The tool of a searcher. -/
def Searcher.tool (searcher : Searcher) : Tool :=
  search searcher.name searcher.kind searcher.filters

/-- The filters of a search that a call gives a value other than null. A filter
that is not given has its default. -/
def givenFilters (filters : List Parameter) (given : Table String Value) : Table String Value :=
  filters.filterMap fun p =>
    ((p.bind? given).filter fun v => !v.isNull).map fun v => (p.name, v)

variable {searcher : Searcher}

/-- **Every server offers the search tools**, also a read-only one. -/
theorem find?_searcher (h : searcher ∈ searchers) (readOnly : Bool) :
    find? readOnly searcher.name = some searcher.tool := by
  have hall : ∀ searcher ∈ searchers, ∀ readOnly,
      find? readOnly searcher.name = some searcher.tool := by
    simp only [searchers, List.forall_mem_cons]
    refine ⟨?_, ?_, ?_, ?_, fun _ h => absurd h List.not_mem_nil⟩ <;>
      rintro (_ | _) <;> rfl
  exact hall searcher h readOnly

/-- **Every filter has its field**, and every field its filter. -/
theorem exists_fields (h : searcher ∈ searchers) :
    ∃ fields, searcher.kind.searchFields? = some fields ∧
      fields.keys = searcher.filters.map (·.name) := by
  simp only [searchers, List.mem_cons, List.not_mem_nil, or_false] at h
  rcases h with rfl | rfl | rfl | rfl <;> exact ⟨_, rfl, rfl⟩

/-- The names of the other parameters name no filter. -/
theorem not_mem_controls (h : searcher ∈ searchers) {name : String}
    (hname : name ∈ ["negate", "next_page_token"]) :
    name ∉ searcher.filters.map (·.name) := by
  have hall : ∀ searcher ∈ searchers, ∀ name ∈ ["negate", "next_page_token"],
      name ∉ searcher.filters.map (·.name) := by decide +kernel
  exact hall searcher h name hname

/-- The arguments that are not null, but for those of some other parameters. -/
theorem without_eq_givenFilters {filters : List Parameter} {names : List String}
    (hnames : ∀ name ∈ names, name ∉ filters.map (·.name)) {given : Table String Value}
    {args : Arguments} (h : Arguments.bind? filters given = some args) :
    args.without names = givenFilters filters given := by
  induction filters generalizing args with
  | nil =>
    cases h
    rfl
  | cons p filters ih =>
    obtain ⟨v, rest, hv, hrest, rfl⟩ := Arguments.bind?_cons_eq_some_iff.1 h
    have hothers : ∀ name ∈ names, name ∉ filters.map (·.name) := fun name hname hmem =>
      hnames name hname (List.mem_cons_of_mem _ hmem)
    have hfree : p.name ∉ names := fun hmem => hnames p.name hmem List.mem_cons_self
    have htail := ih hothers hrest
    rw [Arguments.without] at htail ⊢
    rw [List.filter_cons, htail, givenFilters, givenFilters, List.filterMap_cons, hv]
    cases hnull : v.isNull <;> simp [hnull, hfree, Option.filter]

/-- **The arguments of a search tool**, taken apart: the filters that are given, the
names of those that are inverted, and the page. -/
theorem of_bind?_searcher (h : searcher ∈ searchers) {given : Table String Value}
    {args : Arguments} (hargs : Arguments.bind? searcher.tool.parameters given = some args) :
    args.without ["negate", "next_page_token"] = givenFilters searcher.filters given ∧
      Query.namesIn (args.get "negate").orNoItems = .ok (args.texts "negate") ∧
      (args.get "next_page_token" = .null ∨
        ∃ text, args.get "next_page_token" = .text text) := by
  obtain ⟨filters, controls, hfilters, hcontrols, rfl⟩ :=
    Arguments.bind?_append_eq_some_iff.1 hargs
  obtain ⟨negate, token, rfl, hnegate, htoken⟩ := of_bind?_searchControls hcontrols
  have hkeys := Arguments.keys_eq_of_bind? hfilters
  have hget : ∀ name ∈ ["negate", "next_page_token"],
      Arguments.get (filters ++ [("negate", negate), ("next_page_token", token)]) name =
        Arguments.get [("negate", negate), ("next_page_token", token)] name := by
    intro name hname
    refine Arguments.get_append ?_
    rw [hkeys]
    exact not_mem_controls h hname
  have hnegateGet := hget "negate" (by simp)
  have htokenGet := hget "next_page_token" (by simp)
  refine ⟨?_, ?_, ?_⟩
  · rw [← without_eq_givenFilters (fun name hname => not_mem_controls h hname) hfilters,
      Arguments.without, Arguments.without, List.filter_append]
    simp
  · rcases hnegate with rfl | ⟨names, rfl⟩
    · rw [Arguments.texts, hnegateGet]
      rfl
    · rw [Arguments.texts_of_get hnegateGet, hnegateGet]
      exact namesIn_texts names
  · rw [htokenGet]
    exact htoken

/-! ## What a search needs -/

/-- The arguments of searches that are dates. -/
def dateNames : List String :=
  ["created", "updated", "completed", "due", "start_date", "end_date"]

/-- What a search needs, told from the arguments of its call. -/
structure Told (fields : Query.Fields) (params : Table String Value) (args : Arguments) :
    Prop where
  /-- It fails for a date that is there and is no date expression. -/
  dates : (∃ fault, Query.checkDates fields params = .error (.date fault)) ↔
    ∃ name ∈ dateNames, Query.isAbsent (args.get name) = false ∧
      ∃ fault, Date.validate (args.get name).display = .error fault
  /-- It needs the current user if the owner or the requester is to be them. -/
  user : Query.needsCurrentUser fields params = true ↔
    args.get "owner" = .text "me" ∨ args.get "requester" = .text "me"
  /-- It needs the teams if a team is named. -/
  teams : Query.needsTeamIds fields params = true ↔ Query.isAbsent (args.get "team") = false

/-- The fields of each kind of clause that is special to the parameters of a
search are known by their names. -/
theorem kind_iff_mem (h : searcher ∈ searchers) {fields : Query.Fields}
    (hfields : searcher.kind.searchFields? = some fields) :
    ∀ entry ∈ fields, (entry.2.kind = .date ↔ entry.1 ∈ dateNames) ∧
      (entry.2.kind = .user ↔ entry.1 ∈ ["owner", "requester"]) ∧
      (entry.2.kind = .team ↔ entry.1 ∈ ["team"]) := by
  simp only [searchers, List.mem_cons, List.not_mem_nil, or_false] at h
  rcases h with rfl | rfl | rfl | rfl <;> cases hfields <;> decide +kernel

/-- The parameters of a search have different names. -/
theorem distinct_parameters (h : searcher ∈ searchers) :
    Distinct (searcher.tool.parameters.map (·.name)) := by
  have hall : ∀ searcher ∈ searchers, Distinct (searcher.tool.parameters.map (·.name)) := by
    decide +kernel
  exact hall searcher h

/-- A filter of some kind of clause has a property exactly when the argument of
one of their names has it. -/
theorem exists_field_iff (h : searcher ∈ searchers) {fields : Query.Fields}
    (hfields : searcher.kind.searchFields? = some fields) {given : Table String Value}
    {args : Arguments} (hargs : Arguments.bind? searcher.tool.parameters given = some args)
    {kind : Query.ClauseKind} {names : List String}
    (hkind : ∀ entry ∈ fields, entry.2.kind = kind ↔ entry.1 ∈ names)
    (hcontrols : ∀ name ∈ names, name ∉ ["negate", "next_page_token"]) {P : Value → Prop}
    (hnull : ¬ P .null) :
    (∃ entry ∈ fields, entry.2.kind = kind ∧
        P (Value.fieldOf (givenFilters searcher.filters given) entry.1)) ↔
      ∃ name ∈ names, P (args.get name) := by
  have hkeys := Arguments.keys_eq_of_bind? hargs
  have hread : ∀ name ∈ names,
      Value.fieldOf (givenFilters searcher.filters given) name = args.get name := by
    intro name hname
    rw [← (of_bind?_searcher h hargs).1]
    exact Arguments.fieldOf_without (hkeys ▸ distinct_parameters h) (hcontrols name hname)
  constructor
  · rintro ⟨entry, hentry, hof, hP⟩
    have hname := (hkind entry hentry).1 hof
    exact ⟨entry.1, hname, hread entry.1 hname ▸ hP⟩
  · rintro ⟨name, hname, hP⟩
    -- an argument that is not null is one of a filter, which has its field
    have hmem : name ∈ Table.keys args := by
      by_contra habsent
      rw [Arguments.get_of_not_mem habsent] at hP
      exact hnull hP
    obtain ⟨others, hothers, hfilters⟩ := exists_fields h
    rw [hfields] at hothers
    cases hothers
    have hparameters : searcher.tool.parameters.map (·.name) =
        searcher.filters.map (·.name) ++ ["negate", "next_page_token"] :=
      List.map_append
    rw [hkeys, hparameters, ← hfilters, List.mem_append] at hmem
    obtain ⟨entry, hentry, rfl⟩ := List.mem_map.1 (hmem.resolve_right (hcontrols name hname))
    exact ⟨entry, hentry, (hkind entry hentry).2 hname, (hread entry.1 hname).symm ▸ hP⟩

/-- **What a search needs is told from the arguments of its call.** -/
theorem told (h : searcher ∈ searchers) {fields : Query.Fields}
    (hfields : searcher.kind.searchFields? = some fields) {given : Table String Value}
    {args : Arguments} (hargs : Arguments.bind? searcher.tool.parameters given = some args) :
    Told fields (givenFilters searcher.filters given) args where
  dates := by
    rw [Query.checkDates_fails_iff]
    exact exists_field_iff (P := fun v => Query.isAbsent v = false ∧
        ∃ fault, Date.validate v.display = .error fault) h hfields hargs
      (fun entry hentry => (kind_iff_mem h hfields entry hentry).1) (by decide)
      (fun hnull => by cases hnull.1)
  user := by
    rw [Query.needsCurrentUser_iff,
      exists_field_iff (P := fun v => v = .text Query.currentUserWord) h hfields hargs
        (fun entry hentry => (kind_iff_mem h hfields entry hentry).2.1) (by decide)
        (fun hnull => by cases hnull)]
    simp [Query.currentUserWord]
  teams := by
    rw [Query.needsTeamIds_iff,
      exists_field_iff (P := fun v => Query.isAbsent v = false) h hfields hargs
        (fun entry hentry => (kind_iff_mem h hfields entry hentry).2.2) (by decide)
        (fun hnull => by cases hnull)]
    simp

end Tool

/-! ## Calls -/

variable {remote : Remote} {server ready : Server}

/-- **What a call of a search tool does** is what its search does in the session of
the server. -/
theorem call_searcher {searcher : Tool.Searcher} (h : searcher ∈ Tool.searchers)
    {given : Table String Value} {args : Arguments}
    (hargs : Arguments.bind? searcher.tool.parameters given = some args) {handle : Handle}
    (htools : getTools remote server = (.ok handle, ready)) {s t : Session}
    (hs : ready.session? handle = some s) {result : Except Fault String}
    (hsearch : Tools.search searcher.kind (args.without ["negate", "next_page_token"])
      (args.get "negate") (args.get "next_page_token") remote s = (result, t)) :
    server.call remote searcher.name given =
      ((result.map .text).mapError (.failed searcher.name), ready.restore handle t) :=
  call_reporting (Tool.find?_searcher h server.readOnly) rfl hargs htools hs hsearch

/-- **How a call of a search tool goes**, in every state that a server can be in.
After any operations from the start, with any replies that name users if anyone,
and with any arguments that its tool takes: the search goes as `Tools.Searched`
says, with the filters that the call gives, and its end is the end of the call.
That the tools are got ready for it sends nothing and loads nothing. -/
theorem search_call_goes (hremote : remote.NamesUsers) {start : Server} (hstart : start.Unused)
    (hclock : start.clock.fitsDouble = true) {operations : List Operation}
    (hclocks : ∀ now, .setClock now ∈ operations → now.fitsDouble = true)
    (hrun : start.runAll remote operations = server) {searcher : Tool.Searcher}
    (hsearcher : searcher ∈ Tool.searchers) {given : Table String Value} {args : Arguments}
    (hargs : Arguments.bind? searcher.tool.parameters given = some args) {handle : Handle}
    (htools : getTools remote server = (.ok handle, ready)) {s : Session}
    (hs : ready.session? handle = some s) (havailable : s.client.CanSearch searcher.kind) :
    Untouched server (ready.restore handle s) ∧ ∃ fields result t,
      searcher.kind.searchFields? = some fields ∧
      fields.keys = searcher.filters.map (·.name) ∧
      Tool.Told fields (Tool.givenFilters searcher.filters given) args ∧
      Tools.Searched remote searcher.kind fields (Tool.givenFilters searcher.filters given)
        (args.texts "negate") (args.get "next_page_token") s result t ∧
      server.call remote searcher.name given =
        ((result.map .text).mapError (.failed searcher.name), ready.restore handle t) := by
  have horderly : server.Orderly := hrun ▸ (hstart.orderly hclock).runAll hremote hclocks
  -- getting the tools ready keeps that, so their session is orderly, too
  have hready : (getTools remote server).2.Orderly := idle_getTools.keeps server horderly
  have huntouched := idle_getTools remote server
  rw [htools] at hready huntouched
  obtain ⟨fields, hfields, hkeys⟩ := Tool.exists_fields hsearcher
  obtain ⟨hfilters, hnegated, htoken⟩ := Tool.of_bind?_searcher hsearcher hargs
  obtain ⟨result, t, hsearch, hsearched⟩ :=
    Tools.search_goes (args.without ["negate", "next_page_token"]) hremote (hready.session hs)
      havailable hfields hnegated htoken
  rw [hfilters] at hsearched
  refine ⟨?_, fields, result, t, hfields, hkeys, Tool.told hsearcher hfields hargs, hsearched, ?_⟩
  · rw [restore_self hs]
    exact huntouched
  · exact call_searcher hsearcher hargs htools hs hsearch

/-! ### A search for the stories of a team -/

namespace Sample

/-- What a tracker answers that gives the name of the current user and finds
nothing. -/
def nothingFound : List UInt8 :=
  [123, 34, 100, 97, 116, 97, 34, 58, 91, 93, 44,
   34, 109, 101, 110, 116, 105, 111, 110, 95, 110, 97, 109, 101, 34, 58, 34, 97, 100, 97, 34, 125]

/-- A tracker that answers everything with that. -/
def emptyTracker : Remote := fun _ _ => .answer 200 nothingFound

/-- A search for the stories of a team that the current user owns. -/
def ownStories : Table String Value :=
  [("owner", .text "me"), ("team", .text "core"), ("created", .text "today")]

/-- The one answer of this tracker names a user. -/
theorem namesUsers_emptyTracker : emptyTracker.NamesUsers := by
  intro s user t hasked
  rw [Api.getIfThere, Api.request_apply] at hasked
  cases houtgoing : Api.outgoing s.client .get "/member" [] none with
  | error fault =>
    rw [houtgoing] at hasked
    cases hasked
  | ok request =>
    rw [houtgoing] at hasked
    dsimp only at hasked
    have hvalue := congrArg Prod.fst hasked
    dsimp only at hvalue
    cases hnull : user.isNull with
    | true =>
      rw [Value.eq_null_of_isNull hnull]
      exact Value.isUserIfAny_null
    | false =>
      obtain ⟨status, body, hreply, -, hbody⟩ := Http.Reply.of_value_eq_ok hvalue hnull
      cases hreply
      have hread : Json.ofBytes nothingFound =
          .ok (.object [("data", .list []), ("mention_name", .text "ada")]) := by rfl
      rw [hread] at hbody
      cases hbody
      exact fun _ => ⟨_, rfl, Value.isObjectIfAny_null⟩

theorem unused_prepared : prepared.Unused where
  caches := by
    intro caches hmem kind hk
    cases List.mem_singleton.1 hmem
    cases kind <;> exact ⟨rfl, rfl⟩
  users := by
    intro client hmem
    cases List.mem_singleton.1 hmem
    rfl

theorem canSearch_session : session.client.CanSearch .stories where
  member := ⟨_, rfl⟩
  teams := ⟨_, rfl⟩
  search := ⟨_, _, rfl, rfl⟩

/-- The search for stories. -/
def storySearcher : Tool.Searcher := ⟨"stories_search", .stories, Tool.storyFilters⟩

/-- The arguments of the search for the stories of a team. -/
def ownArguments : Arguments :=
  (Arguments.bind? storySearcher.tool.parameters ownStories).get rfl

theorem bind?_ownStories :
    Arguments.bind? storySearcher.tool.parameters ownStories = some ownArguments := rfl

end Sample

/-- The tracker is asked for the current user, for the teams, and for one page; the
query has the name of the user, and the name of the team, which no team in the
cache has. -/
theorem own_stories_searched :
    ((Sample.prepared.call Sample.emptyTracker "stories_search"
        Sample.ownStories).2.exchanges.map (·.request.params) =
      [[], [],
       [("query", "owner:ada team:core !is:archived created:today"), ("page_size", "25"),
        ("detail", "slim")]]) ∧
      ∃ result t, Tools.Searched Sample.emptyTracker .stories Query.storyFields
        (Tool.givenFilters Tool.storyFilters Sample.ownStories)
        (Sample.ownArguments.texts "negate") (Sample.ownArguments.get "next_page_token")
        Sample.session result t := by
  have hsearcher : Sample.storySearcher ∈ Tool.searchers := List.mem_cons_self
  have hrun : Sample.prepared.runAll Sample.emptyTracker [] = Sample.prepared := rfl
  obtain ⟨-, fields, result, t, hfields, -, -, hsearched, -⟩ :=
    search_call_goes Sample.namesUsers_emptyTracker Sample.unused_prepared (by decide)
      (fun now h => absurd h List.not_mem_nil) hrun hsearcher Sample.bind?_ownStories
      (Sample.tools_prepared _) Sample.session_prepared Sample.canSearch_session
  cases hfields
  exact ⟨by decide +kernel, result, t, hsearched⟩

/-! ### A page that cannot be asked for -/

namespace Sample

/-- A search for all stories, from some page on. -/
def page (token : String) : Table String Value := [("next_page_token", .text token)]

/-- Its arguments. -/
def pageArguments (token : String) : Arguments :=
  (Arguments.bind? storySearcher.tool.parameters (page token)).get rfl

theorem bind?_page (token : String) :
    Arguments.bind? storySearcher.tool.parameters (page token) = some (pageArguments token) := rfl

/-- It has the filter that every search for stories has. -/
theorem filters_page (token : String) :
    Tool.givenFilters Tool.storyFilters (page token) = [("is_archived", .bool false)] := rfl

theorem checkDates_page :
    Query.checkDates Query.storyFields [("is_archived", .bool false)] = .ok () := rfl

/-- **A search from a page whose token is too long** fails, and sends nothing. -/
theorem page_not_asked {token : String} (hlong : Http.Url.maxLength < token.length) :
    ∃ fault, prepared.call emptyTracker "stories_search" (page token) =
      (.error (.failed "stories_search" fault), prepared) := by
  have hsearcher : storySearcher ∈ Tool.searchers := List.mem_cons_self
  have hargs := bind?_page token
  have horderly : session.Orderly :=
    (unused_prepared.orderly (by decide)).session session_prepared
  have hparams : (pageArguments token).without ["negate", "next_page_token"] =
      [("is_archived", .bool false)] :=
    (Tool.of_bind?_searcher hsearcher hargs).1.trans (filters_page token)
  obtain ⟨result, t, hsearch, hsearched⟩ :=
    Tools.search_goes ((pageArguments token).without ["negate", "next_page_token"])
      namesUsers_emptyTracker horderly canSearch_session rfl
      (Tool.of_bind?_searcher hsearcher hargs).2.1 (.inr ⟨token, rfl⟩)
  have hcall := call_searcher hsearcher hargs (tools_prepared _) session_prepared hsearch
  rw [hparams] at hsearched
  -- no filter is a date, and none names a user or a team
  have huser : ¬ Query.needsCurrentUser Query.storyFields [("is_archived", .bool false)] = true :=
    Bool.false_ne_true
  have hteams : ¬ Query.needsTeamIds Query.storyFields [("is_archived", .bool false)] = true :=
    Bool.false_ne_true
  cases hsearched with
  | badDate hdates =>
    rw [checkDates_page] at hdates
    cases hdates
  | noUser hdates hmissing =>
    exact absurd (Bool.and_eq_true_iff.1 hmissing.asks).1 huser
  | asked hdates hfound hids hlookups hquery hfits hpath hrequest hasked =>
    exact absurd hfits (Tools.not_fits_of_long hlong)
  | @unfit user ids query fault m n hdates hfound hids hlookups hquery hunfit =>
    have hm : m = session := by
      cases hfound with
      | unneeded hneeds => rfl
      | known hneeds hknown => exact absurd hneeds huser
      | asked hneeds hunknown hrequest hanswer => exact absurd hneeds huser
    have ht : t = m := by
      cases hids with
      | unneeded hneeds => rfl
      | fresh hneeds hfresh hids => exact absurd hneeds hteams
      | refilled hneeds hstale hrequest hids => exact absurd hneeds hteams
    rw [ht, hm, restore_self session_prepared] at hcall
    exact ⟨fault, hcall⟩

/-- The token of a page, longer than the query of an address may be. -/
def longToken : String := String.ofList (List.replicate 70000 'a')

end Sample

/-- **A search that asks for nothing although its dates are valid**: its arguments
are of their types and its client can search, but the token of its page is too
long for an address. -/
theorem far_page_not_asked :
    Sample.emptyTracker.NamesUsers ∧ Sample.prepared.Unused ∧
      Arguments.bind? Sample.storySearcher.tool.parameters (Sample.page Sample.longToken) =
        some (Sample.pageArguments Sample.longToken) ∧
      getTools Sample.emptyTracker Sample.prepared = (.ok ⟨0, 0⟩, Sample.prepared) ∧
      Sample.prepared.session? ⟨0, 0⟩ = some Sample.session ∧
      Sample.session.client.CanSearch .stories ∧
      Query.checkDates Query.storyFields
        (Tool.givenFilters Tool.storyFilters (Sample.page Sample.longToken)) = .ok () ∧
      (Sample.prepared.call Sample.emptyTracker "stories_search"
        (Sample.page Sample.longToken)).2.exchanges = [] := by
  have hlength : Sample.longToken.length = 70000 :=
    String.length_ofList.trans List.length_replicate
  have hmax : Http.Url.maxLength = 65536 := rfl
  have hlong : Http.Url.maxLength < Sample.longToken.length := by omega
  obtain ⟨fault, hcall⟩ := Sample.page_not_asked hlong
  refine ⟨Sample.namesUsers_emptyTracker, Sample.unused_prepared, Sample.bind?_page _,
    Sample.tools_prepared _, Sample.session_prepared, Sample.canSearch_session, ?_, ?_⟩
  · rw [Sample.filters_page]
    exact Sample.checkDates_page
  · rw [hcall]
    rfl

end Server

end Backlog
