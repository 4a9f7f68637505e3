import Backlog.Proofs.Hydration
import Backlog.Proofs.Search
/-!
# Teams by their labels

A search may name a team by any of its labels, in any case and with blanks
around it. The ids of the teams in the cache are written under the labels of the
teams, the first writer of a label keeping it, and the clause of a team reads
what is written under its own label.

Here both are said without the table between them: among the labels of the teams,
in the order of the cache and of each team its name first, the first that stands
for the same as the parameter tells the group (`Tools.groupOf`). Every cache that
refills lead to has its ids told without a fault, and a clause shows the group of
its parameter (`Tools.ResolvesLabels`). A search reads the cache as it leaves it
(`Tools.labels_resolve`).
-/

namespace Backlog

namespace Cache

/-- What refills make of an empty cache. A refill that fails leaves the cache as
it is. -/
inductive Reached : Cache → Prop where
  /-- Nothing was loaded yet. -/
  | unfilled (ttl : Number) : Reached { ttl }
  /-- A list of entities was loaded. -/
  | refilled {old new : Cache} (h : Reached old) (entities : List Value) (now : Number)
      (hrefill : old.refill now (entityEntries entities) = .ok new) : Reached new

/-- **Refills key a cache by ids.** -/
theorem Reached.keyedById {cache : Cache} (h : cache.Reached) : cache.KeyedById := by
  cases h with
  | unfilled ttl => exact fun key v hmem => absurd hmem List.not_mem_nil
  | refilled hold entities now hrefill =>
    obtain ⟨table, hstored, ⟨⟩⟩ := Except.bind_eq_ok.1 hrefill
    exact keyedById_of_entries (snapshot?_entityEntries hstored)

/-- A cache that is loaded from an exchange is loaded by a refill. -/
theorem KeptOrLoaded.reached {kind : Kind} {exchanges : List Http.Exchange} {now : Number}
    {old new : Cache} (h : KeptOrLoaded kind exchanges now old new) (hold : old.Reached) :
    new.Reached := by
  rcases h with rfl | ⟨_, -, _, -, -, _, _, -, -, entities, -, hstored, rfl⟩
  · exact hold
  · refine hold.refilled entities now ?_
    rw [refill, hstored]
    rfl

end Cache

/-- **Work leads from reached caches to reached caches.** -/
theorem Session.Steps.reached {remote : Remote} {may : Deed → Prop} {s t : Session}
    (h : Steps remote may s t) {kind : Kind} (hkind : kind ∈ Kind.cached)
    (hs : (s.cacheOf kind).Reached) : (t.cacheOf kind).Reached := by
  obtain ⟨_, -, hcaches⟩ := h.exists_keptOrLoaded
  exact (hcaches kind hkind).reached hs

/-- **In a run from empty caches every cache is as refills make it.** -/
theorem Server.CachesEmpty.reached_runAll {start : Server} (h : start.CachesEmpty)
    (remote : Remote) (operations : List Operation) (number : Nat) {kind : Kind}
    (hkind : kind ∈ Kind.cached) :
    ((start.runAll remote operations).cacheAt number kind).Reached := by
  refine cacheAt_runAll hkind (fun hloaded hold => hloaded.reached hold) remote operations ?_
  obtain ⟨hentries, hloaded⟩ := h.cacheAt_empty number hkind
  generalize start.cacheAt number kind = cache at hentries hloaded
  obtain ⟨ttl, entries, loadedAt⟩ := cache
  cases hentries
  cases hloaded
  exact .unfilled ttl

namespace Tools

open Query (negation teamLabel isAbsent clause compileAlone)

/-! ## Labels and groups -/

/-- A field of an entity, null if there is none. -/
def partOf (entity : Value) (name : String) : Value :=
  (entity.field name).toOption.getD .null

/-- The labels of a team, each with the id of the team. -/
def labelsOf (team : Value) : List (Value × Value) :=
  [(partOf team "name", partOf team "id"), (partOf team "mention_name", partOf team "id")]

/-- Whether a label is there and is a name, but for case and blanks around it. -/
def answersTo (key : String) (pair : Value × Value) : Bool :=
  pair.1.truthy && teamLabel pair.1 == key

/-- The id of the first team that answers to a name. -/
def firstAnswering (teams : List Value) (key : String) : Option Value :=
  ((teams.flatMap labelsOf).find? (answersTo key)).map (·.2)

/-- The group that a parameter names, null if it names none. -/
def groupOf (teams : List Value) (v : Value) : Value :=
  (firstAnswering teams (teamLabel v)).getD .null

/-- What stands for a team in a query, behind the sign: its group, or, if that is
not known, the parameter as it is, in quotes if it holds a blank. -/
def teamText (teams : List Value) (v : Value) : String :=
  if (groupOf teams v).truthy then "group:" ++ (groupOf teams v).display
  else if Text.hasBlank v.display then "team:\"" ++ v.display ++ "\""
  else "team:" ++ v.display

section Labels

variable {teams : List Value} {ids ids' : Table String Value}

/-- A label is written unless it is taken. -/
theorem get?_addTeamLabel {team label : Value} (h : addTeamLabel team ids label = .ok ids')
    (key : String) :
    ids'.get? key = (ids.get? key).or
      (if answersTo key (label, partOf team "id") then some (partOf team "id") else none) := by
  rw [addTeamLabel] at h
  split at h
  · next htruthy =>
    obtain ⟨id, hid, ⟨⟩⟩ := Except.bind_eq_ok.1 h
    have hpart : partOf team "id" = id := by
      cases team with
      | atom a => cases hid
      | list items => cases hid
      | object fields =>
        rw [Value.required] at hid
        split at hid
        · next found hfound =>
          cases hid
          show (Table.get? fields "id").getD .null = id
          rw [hfound]
          rfl
        · cases hid
    rw [Table.get?_insertIfNew, answersTo, htruthy, hpart]
    rfl
  · next hfalsy =>
    cases h
    have hnot : answersTo key (label, partOf team "id") = false := by
      rw [answersTo, Bool.eq_false_iff.2 hfalsy]
      rfl
    rw [hnot, if_neg Bool.false_ne_true, Option.or_none]

/-- **A team writes its labels** unless they are taken, its name first. -/
theorem get?_addTeam {team : Value} (h : addTeam ids team = .ok ids') (key : String) :
    ids'.get? key =
      (ids.get? key).or (((labelsOf team).find? (answersTo key)).map (·.2)) := by
  obtain ⟨name, hname, h⟩ := Except.bind_eq_ok.1 h
  obtain ⟨mention, hmention, h⟩ := Except.bind_eq_ok.1 h
  obtain ⟨named, hnamed, h⟩ := Except.bind_eq_ok.1 h
  obtain ⟨mentioned, hmentioned, ⟨⟩⟩ := Except.bind_eq_ok.1 h
  have hfirst : partOf team "name" = name := by rw [partOf, hname]; rfl
  have hsecond : partOf team "mention_name" = mention := by rw [partOf, hmention]; rfl
  rw [get?_addTeamLabel hmentioned, get?_addTeamLabel hnamed, Option.or_assoc, labelsOf, hfirst,
    hsecond, List.find?_cons, List.find?_cons, List.find?_nil]
  cases answersTo key (name, partOf team "id") with
  | true => rfl
  | false => cases answersTo key (mention, partOf team "id") <;> rfl

/-- **The table of ids reads the first team** that answers to the key. -/
theorem get?_teamIdsOf (h : teamIdsOf teams = .ok ids) (key : String) :
    ids.get? key = firstAnswering teams key := by
  refine Except.foldlM_invariant (fun done ids => ids.get? key = firstAnswering done key) ?_ h rfl
  intro done ids team ids' hdone hadd
  rw [get?_addTeam hadd, hdone, firstAnswering, firstAnswering, List.flatMap_append,
    List.flatMap_singleton, List.find?_append, Option.map_or]

/-- The group that a parameter names is read from the table of ids. -/
theorem teamId_teamIdsOf (h : teamIdsOf teams = .ok ids) (v : Value) :
    Query.teamId (.object ids) v = .ok (groupOf teams v) := by
  have hread : Value.fieldOf ids (teamLabel v) = groupOf teams v := by
    rw [Value.fieldOf, get?_teamIdsOf h, groupOf]
  rw [Query.teamId]
  split
  · exact congrArg Except.ok hread
  · next hempty =>
    cases ids with
    | nil => exact congrArg Except.ok hread
    | cons entry rest => exact absurd rfl hempty

/-- **The clause of a team** is its sign and what stands for the team. -/
theorem clause_team (h : teamIdsOf teams = .ok ids) (v : Value) (inverted : Bool) (user : Value) :
    clause (Query.teamField "team") v inverted user (.object ids) =
      .ok (negation inverted ++ teamText teams v) := by
  rw [clause, Query.teamField]
  dsimp only
  rw [teamId_teamIdsOf h, teamText]
  show (if (groupOf teams v).truthy = true then _ else _) = _
  split
  · rw [String.append_assoc]
    rfl
  · rw [Query.clauseValue]
    split <;> simp [String.append_assoc] <;> rfl

/-- What stands for a team is a group exactly when that group is known. -/
theorem teamText_eq_group_iff {v : Value} {id : String} :
    teamText teams v = "group:" ++ id ↔
      (groupOf teams v).truthy = true ∧ (groupOf teams v).display = id := by
  have hother (shown : String) : "team:" ++ shown ≠ "group:" ++ id := by
    intro heq
    have hhead := congrArg (fun text : String => text.toList.head?) heq
    simp at hhead
  rw [teamText]
  split
  · next htruthy => simp [htruthy]
  · next hfalsy =>
    constructor
    · intro heq
      split at heq
      · exact absurd (by rw [← heq, String.append_assoc]; rfl) (hother ("\"" ++ v.display ++ "\""))
      · exact absurd heq (hother _)
    · exact fun h => absurd h.1 hfalsy

/-- The fields of every kind have one for the team. -/
theorem team_mem_searchFields {kind : Kind} {fields : Query.Fields}
    (h : kind.searchFields? = some fields) : ("team", Query.teamField "team") ∈ fields := by
  match kind, h with
  | .stories, rfl => decide +kernel
  | .epics, rfl => decide +kernel
  | .iterations, rfl => decide +kernel
  | .objectives, rfl => decide +kernel

/-- The query of a team alone is the clause of the team. -/
theorem compileAlone_team (h : teamIdsOf teams = .ok ids) {kind : Kind} {fields : Query.Fields}
    {params : Table String Value} (hfields : kind.searchFields? = some fields)
    (hteam : isAbsent (Value.fieldOf params "team") = false) (negated : List String)
    (user : Value) :
    compileAlone fields params negated user (.object ids) "team" =
      .ok (negation (negated.contains "team") ++
        teamText teams (Value.fieldOf params "team")) := by
  have hgiven : ("team", Query.teamField "team") ∈ Query.given fields params :=
    List.mem_filter.2 ⟨team_mem_searchFields hfields, congrArg not hteam⟩
  exact (Query.compileAlone_eq_ok_iff (Query.wellFormed hfields).names hgiven).2
    (clause_team h _ _ user)

end Labels

/-! ## Searches by team -/

/-- What the ids that are told from a cache of teams make of the team in a
search. -/
structure ResolvesLabels (cache : Cache) (ids : Table String Value) : Prop where
  /-- They are told from the teams in the cache. -/
  told : teamIdsOf cache.values = .ok ids
  /-- The clause of the team is that of the first team with the label. -/
  clause_eq : ∀ kind fields params negated user, Kind.searchFields? kind = some fields →
    isAbsent (Value.fieldOf params "team") = false →
      compileAlone fields params negated user (.object ids) "team" =
        .ok (negation (negated.contains "team") ++
          teamText cache.values (Value.fieldOf params "team"))
  /-- Parameters that differ in case and in the blanks around them name the same
  group. -/
  same_group : ∀ kind fields params others negated user group,
    Kind.searchFields? kind = some fields →
    isAbsent (Value.fieldOf params "team") = false →
    isAbsent (Value.fieldOf others "team") = false →
    teamLabel (Value.fieldOf params "team") = teamLabel (Value.fieldOf others "team") →
      (compileAlone fields params negated user (.object ids) "team" =
          .ok (negation (negated.contains "team") ++ ("group:" ++ group)) ↔
        compileAlone fields others negated user (.object ids) "team" =
          .ok (negation (negated.contains "team") ++ ("group:" ++ group)))

/-- **The labels of a cache are resolved** by the ids that are told from it. -/
theorem resolvesLabels {cache : Cache} {ids : Table String Value}
    (h : teamIdsOf cache.values = .ok ids) : ResolvesLabels cache ids where
  told := h
  clause_eq _ _ _ negated user hfields hteam := compileAlone_team h hfields hteam negated user
  same_group _ fields params others negated user group hfields hteam hteam' hsame := by
    have hgroup : groupOf cache.values (Value.fieldOf params "team") =
        groupOf cache.values (Value.fieldOf others "team") := by
      rw [groupOf, hsame, groupOf]
    rw [compileAlone_team h hfields hteam, compileAlone_team h hfields hteam', Except.ok.injEq,
      Except.ok.injEq, String.append_right_inj, String.append_right_inj, teamText_eq_group_iff,
      teamText_eq_group_iff, hgroup]

section Searches

variable {remote : Remote} {s t : Session}

theorem teams_mem_cached : Kind.teams ∈ Kind.cached := Kind.mem_cached_iff.2 (.inr (.inr rfl))

/-- It cannot be told whether a cache is stale only where its age is too large a
number. -/
theorem of_isStale_eq_error {kind : Kind} {fault : Fault} (h : s.isStale kind = .error fault) :
    fault = .integerTooLarge := by
  rw [Session.isStale, Cache.isStale] at h
  rcases Except.bind_eq_error.1 h with h | ⟨age, -, h⟩
  · rw [Cache.age] at h
    split at h
    · cases h
    · split at h
      · cases h
      · cases h
        rfl
  · cases age <;> cases h

/-- **Looking up the ids of teams** tells them from the cache as it leaves it, or
fails for the clock. -/
theorem teamIds_apply (remote : Remote) (h : (s.cacheOf .teams).Reached) :
    ∃ t, (t.cacheOf .teams).Reached ∧
      (teamIds remote s = (.error .integerTooLarge, t) ∨
        ∃ ids, teamIds remote s = (.ok ids, t) ∧
          teamIdsOf (t.cacheOf .teams).values = .ok ids) := by
  cases hstale : s.isStale .teams with
  | error fault =>
    cases of_isStale_eq_error hstale
    refine ⟨s, h, .inl ?_⟩
    have hfresh : Resolver.ensureFresh .teams false remote s = (.error .integerTooLarge, s) := by
      rw [Resolver.ensureFresh, Run.bind_apply, Resolver.isStale_apply teams_mem_cached, hstale]
    rw [teamIds, Resolver.referenceValues, Run.bind_apply, Run.bind_apply, hfresh]
  | ok stale =>
    have hdecided : s.isStale .teams = .ok (s.knownStale .teams) := by
      rw [Session.knownStale, hstale]
      rfl
    obtain ⟨log, hvalues⟩ := Resolver.referenceValues_apply teams_mem_cached remote hdecided
    have huses : Action.Uses (fun _ => True) (Resolver.referenceValues .teams false) :=
      Resolver.uses_referenceValues trivial .teams false
    have hreached := (huses.steps hvalues).reached teams_mem_cached h
    obtain ⟨ids, hids⟩ := exists_teamIdsOf_values hreached.keyedById
    refine ⟨_, hreached, .inr ⟨ids, ?_, hids⟩⟩
    rw [teamIds, Run.bind_of_ok _ hvalues, Run.lift_apply]
    exact congrArg (·, _) hids

/-- **A search for a team reads the cache as it leaves it.** -/
theorem of_compile {kind : Kind} {fields : Query.Fields} {params : Table String Value}
    {negate : Value} {query : String} (hfields : kind.searchFields? = some fields)
    (hteam : isAbsent (Value.fieldOf params "team") = false)
    (hreached : (s.cacheOf .teams).Reached)
    (h : compile kind params negate remote s = (.ok query, t)) :
    (t.cacheOf .teams).Reached ∧ ∃ user ids negated, teamIdsOf (t.cacheOf .teams).values = .ok ids ∧
      Query.namesIn negate.orNoItems = .ok negated ∧
      Query.compile fields params negated user (.object ids) = .ok query := by
  have hneeds : Query.needsTeamIds fields params = true :=
    Query.needsTeamIds_iff.2 ⟨_, team_mem_searchFields hfields, rfl, hteam⟩
  rw [compile, hfields] at h
  obtain ⟨_, -, h⟩ := Run.lift_bind_eq_ok.1 h
  obtain ⟨user, m, huser, h⟩ := Run.bind_eq_ok.1 h
  obtain ⟨ids, n, hids, h⟩ := Run.bind_eq_ok.1 h
  obtain ⟨negated, hnegated, h⟩ := Run.lift_bind_eq_ok.1 h
  rw [Run.lift_apply, Prod.mk.injEq] at h
  obtain ⟨hquery, rfl⟩ := h
  have hm : (m.cacheOf .teams).Reached := by
    have huses : Action.Uses (fun _ => True) (userForQuery fields params) := by
      rw [userForQuery]
      split
      · exact Api.uses_currentUser trivial trivial
      · exact .pure _
    exact (huses.steps huser).reached teams_mem_cached hreached
  rw [teamIdsForQuery, if_pos hneeds] at hids
  obtain ⟨n', hn, hfails | ⟨ids', hfound, htold⟩⟩ := teamIds_apply remote hm
  · rw [hids] at hfails
    cases hfails
  · rw [hids] at hfound
    cases hfound
    exact ⟨hn, user, ids, negated, htold, hnegated, hquery⟩

/-- What becomes of teams in searches, where the cache of teams is as refills
make it. -/
structure ResolvesTeams (remote : Remote) (s : Session) : Prop where
  /-- The ids can be told from the cache, and resolve its labels. -/
  told : ∃ ids, ResolvesLabels (s.cacheOf .teams) ids
  /-- No team is without the id that is asked of it. -/
  ids_there : ∀ key, (teamIds remote s).1 ≠ .error (.missingKey key)
  /-- The ids that are looked up are told from the cache as it is then. -/
  looked_up : ∀ ids t, teamIds remote s = (.ok ids, t) →
    (t.cacheOf .teams).Reached ∧ ResolvesLabels (t.cacheOf .teams) ids
  /-- The query of a search has the clause of its team from the cache as it is
  then. -/
  compiled : ∀ kind fields params negate query t, Kind.searchFields? kind = some fields →
    isAbsent (Value.fieldOf params "team") = false →
    compile kind params negate remote s = (.ok query, t) →
      (t.cacheOf .teams).Reached ∧ ∃ negated texts, Query.namesIn negate.orNoItems = .ok negated ∧
        (Query.given fields params).keys.Forall₂ (fun name text => name = "team" →
          text = negation (negated.contains "team") ++
            teamText (t.cacheOf .teams).values (Value.fieldOf params "team")) texts ∧
        query = " ".intercalate texts

/-- **Searches resolve teams by their labels**, as far as the teams come from
refills. -/
theorem labels_resolve (remote : Remote) (h : (s.cacheOf .teams).Reached) :
    ResolvesTeams remote s where
  told := by
    obtain ⟨ids, hids⟩ := exists_teamIdsOf_values h.keyedById
    exact ⟨ids, resolvesLabels hids⟩
  ids_there key := by
    obtain ⟨t, -, hfails | ⟨ids, hfound, -⟩⟩ := teamIds_apply remote h
    · rw [hfails]
      exact fun heq => by cases heq
    · rw [hfound]
      exact fun heq => by cases heq
  looked_up ids t hids := by
    obtain ⟨t', ht, hfails | ⟨ids', hfound, htold⟩⟩ := teamIds_apply remote h
    · rw [hids] at hfails
      cases hfails
    · rw [hids] at hfound
      cases hfound
      exact ⟨ht, resolvesLabels htold⟩
  compiled kind fields params negate query t hfields hteam hcompiled := by
    obtain ⟨ht, user, ids, negated, htold, hnegated, hquery⟩ :=
      of_compile hfields hteam h hcompiled
    obtain ⟨texts, htexts, rfl⟩ := Query.compile_eq_ok_iff.1 hquery
    refine ⟨ht, negated, texts, hnegated, ?_, rfl⟩
    refine (Query.forall₂_compileAlone (Query.wellFormed hfields).names htexts).imp ?_
    rintro name text hshown rfl
    rw [compileAlone_team htold hfields hteam] at hshown
    cases hshown
    rfl

end Searches

namespace Sample

/-- A list of two teams, of which the second is mentioned by the name of the
first. -/
def teams : List Value :=
  [.object [("id", .text "t-1"), ("name", .text "Core")],
    .object [("id", .text "t-2"), ("name", .text "Apps"), ("mention_name", .text "core")]]

/-- The cache that the list is loaded into. -/
def teamCache : Cache where
  entries := Cache.snapshotOf teams
  loadedAt := some (.int 0)

/-- A session with that cache. -/
def session : Session := { Resolver.Sample.session with caches := { teams := teamCache } }

theorem reached_teamCache : teamCache.Reached :=
  .refilled (.unfilled (.int 300)) teams (.int 0) rfl

end Sample

/-- In the cache of the sample the first team answers to the name that both
have. -/
theorem first_team_is_searched :
    (Sample.session.cacheOf .teams).Reached ∧ ∃ ids,
      compileAlone Query.storyFields [("team", .text " CORE ")] ["team"] .null (.object ids)
          "team" = .ok "!group:t-1" ∧
        compileAlone Query.storyFields [("team", .text "apps")] [] .null (.object ids) "team" =
          .ok "group:t-2" ∧
        compileAlone Query.storyFields [("team", .text "No One")] [] .null (.object ids) "team" =
          .ok "team:\"No One\"" := by
  have hreached : (Sample.session.cacheOf .teams).Reached := Sample.reached_teamCache
  obtain ⟨ids, hids⟩ := (labels_resolve Resolver.Sample.remote hreached).told
  refine ⟨hreached, ids, ?_, ?_, ?_⟩
  · rw [hids.clause_eq .stories Query.storyFields _ _ _ rfl (by decide +kernel)]
    exact congrArg Except.ok (by decide +kernel)
  · rw [hids.clause_eq .stories Query.storyFields _ _ _ rfl (by decide +kernel)]
    exact congrArg Except.ok (by decide +kernel)
  · rw [hids.clause_eq .stories Query.storyFields _ _ _ rfl (by decide +kernel)]
    exact congrArg Except.ok (by decide +kernel)

end Tools

end Backlog
