import Backlog.Proofs.Hydration
import Backlog.Proofs.Showing
import Backlog.Proofs.Sound
/-!
# Failures that hydration absorbs

Hydrating primary entities in a sound session ends well, whatever fails on
the way: a cache that cannot be refilled is served as it is, and an entity
that cannot be fetched becomes a miss. Both rounds of resolving end in
references that can be used (`Resolver.exists_resolveRefs`), and from these a
result can be built (`Resolver.absorbs_failures`). What is not absorbed is an
answer of success that brings something else than an entity: it is taken for
one (`Resolver.takes_a_number_for_an_epic`).
-/

namespace Backlog

namespace Resolver

variable {remote : Remote} {s : Session} {kind : Kind} {ids : IdsByKind} {refs : Refs}

/-! ## Both rounds end well -/

/-- Seeing to caches ends well. -/
theorem exists_ensureAllFresh (hremote : remote.Sound) (h : s.Sound) {kinds : List Kind}
    (hkinds : ∀ kind ∈ kinds, kind ∈ Kind.cached) :
    ∃ t, ensureAllFresh kinds remote s = (.ok (), t) := by
  induction kinds generalizing s with
  | nil => exact ⟨s, rfl⟩
  | cons kind rest ih =>
    have hkind := hkinds kind List.mem_cons_self
    obtain ⟨log, hm⟩ := ensureFresh_apply hkind remote (h.isStale_eq hkind)
    have huses : Action.Uses (fun _ => True) (ensureFresh kind false) :=
      uses_ensureFresh trivial kind false
    obtain ⟨t, ht⟩ := ih (h.steps hremote (huses.steps hm)) fun k hk =>
      hkinds k (List.mem_cons_of_mem _ hk)
    refine ⟨t, ?_⟩
    simp only [ensureAllFresh, Run.bind_apply, Run.attempt_apply, Run.ofExcept_apply, hm, ht]

/-- **A round ends well.** -/
theorem exists_round (hremote : remote.Sound) (h : s.Sound) (hdue : Due refs ids)
    (checked : List Kind) :
    ∃ outcome t, round ids refs checked remote s = (.ok outcome, t) := by
  have hcached : ∀ k ∈ unchecked ids checked, k ∈ Kind.cached :=
    fun _ hk => mem_cached_of_mem_unchecked hk
  obtain ⟨m, hm⟩ := exists_ensureAllFresh hremote h hcached
  obtain ⟨log, hlook⟩ := lookUp_apply hdue.newTo remote m
  exact ⟨_, _, Run.bind_eq_ok.2 ⟨_, _, hm, Run.bind_eq_ok.2 ⟨_, _, hlook, rfl⟩⟩⟩

/-- What a round records can be used. -/
theorem usable_round (hremote : remote.Sound) (h : s.Sound) (hrefs : refs.Usable)
    (ids : IdsByKind) (checked : List Kind) :
    (refs.recordAll (outcomesOfRound remote ids checked s)).Usable := by
  refine hrefs.recordAll (usable_outcomes hremote (h.freshened hremote fun k hk => ?_) ids)
  exact mem_cached_of_mem_unchecked hk

/-- **The second round ends well** after a first one that did. -/
theorem exists_secondRound (hremote : remote.Sound) (h : s.Sound) (hrefs : refs.Usable)
    (hdistinct : ∀ k, Distinct (refs.ofKind k).keys) (checked : List Kind) :
    ∃ refs' t, secondRound refs checked remote s = (.ok refs', t) := by
  obtain ⟨further, hfurther⟩ := IdsByKind.exists_unresolved hrefs
  obtain ⟨⟨refs', checked'⟩, t, hround⟩ :=
    exists_round hremote h (due_unresolved hdistinct hfurther) checked
  rw [secondRound, Run.bind_apply, Run.lift_apply, hfurther]
  dsimp only
  split
  · exact ⟨refs, s, rfl⟩
  · exact ⟨refs', t, Run.bind_eq_ok.2 ⟨_, _, hround, rfl⟩⟩

/-- What both rounds record can be used. -/
theorem Resolved.usable {t : Session} {further : IdsByKind}
    (hresolved : Resolved remote s ids further refs t) (hremote : remote.Sound) (h : s.Sound) :
    refs.Usable := by
  have hbetween : (afterRound remote ids [] s).Sound :=
    (h.freshened hremote fun _ hk => mem_cached_of_mem_unchecked hk).congr rfl rfl
  rw [hresolved.refs_eq]
  exact usable_round hremote hbetween (usable_round hremote h .empty ids []) further _

/-- **Resolving ids ends well**, in references that can be used. -/
theorem exists_resolveRefs (hremote : remote.Sound) (h : s.Sound) (hdue : Due {} ids) :
    ∃ refs t, resolveRefs ids remote s = (.ok refs, t) ∧ refs.Usable ∧ t.Sound ∧
      ∀ k, Distinct (refs.ofKind k).keys := by
  have hends : ∃ refs t, resolveRefs ids remote s = (.ok refs, t) := by
    obtain ⟨⟨first, checked⟩, m, hround⟩ := exists_round hremote h hdue []
    obtain ⟨rfl, -, rfl, log, rfl⟩ := round_eq_ok hdue hround
    -- the first round leaves usable references in a sound session
    have hbetween : Session.Sound { afterRound remote ids [] s with log } :=
      (h.freshened hremote fun _ hk => mem_cached_of_mem_unchecked hk).congr rfl rfl
    obtain ⟨refs, t, hsecond⟩ := exists_secondRound hremote hbetween
      (usable_round hremote h .empty ids []) (distinct_keys_firstRefs hdue) (early ids)
    exact ⟨refs, t, Run.bind_eq_ok.2 ⟨_, _, hround, hsecond⟩⟩
  obtain ⟨refs, t, hrun⟩ := hends
  obtain ⟨further, hresolved⟩ := resolveRefs_eq_ok hdue hrun
  have huses : Action.Uses (fun _ => True) (resolveRefs ids) := uses_resolveRefs trivial ids
  exact ⟨refs, t, hrun, hresolved.usable hremote h, h.steps hremote (huses.steps hrun),
    hresolved.distinct_keys⟩

/-! ## Results -/

section

variable {options : Hydrated.Options} {primaries : List Value}

/-- What hydrating some primary entities has at hand when it comes to building
a result: usable references and usable workflows. -/
theorem exists_resolved_of_primaries (hremote : remote.Sound) (h : s.Sound)
    (hprimaries : ∀ primary ∈ primaries, primary.IsPrimary kind options.full) :
    ∃ ids refs t, IdsByKind.ofEntities kind primaries = .ok ids ∧
      resolveRefs ids remote s = (.ok refs, t) ∧ refs.Usable ∧
      (∀ k, Distinct (refs.ofKind k).keys) ∧
      ∀ workflow ∈ t.caches.workflows.values, workflow.UsableAs .workflows := by
  obtain ⟨ids, hids⟩ := IdsByKind.exists_ofEntities hprimaries
  obtain ⟨refs, t, hrun, husable, hsound, hdistinct⟩ :=
    exists_resolveRefs hremote h (due_ofEntities hids)
  refine ⟨ids, refs, t, hids, hrun, husable, hdistinct, fun workflow hworkflow => ?_⟩
  obtain ⟨⟨key, workflow⟩, hmem, rfl⟩ := List.mem_map.1 hworkflow
  exact hsound.entries .workflows (by simp [Kind.cached]) key workflow hmem

/-- **Hydrating a list of primary entities ends well**, and marks what was not
found. -/
theorem exists_resolveMany (hremote : remote.Sound) (h : s.Sound)
    (hprimaries : ∀ primary ∈ primaries, primary.IsPrimary kind options.full) :
    ∃ result t, resolveMany kind primaries options remote s = (.ok result, t) ∧
      result.MarksMisses options.markUnknown := by
  obtain ⟨ids, refs, t, hids, hrun, husable, hdistinct, hworkflows⟩ :=
    exists_resolved_of_primaries hremote h hprimaries
  obtain ⟨result, hresult, rfl, hrelated⟩ := Hydrated.exists_ofMany husable hworkflows hprimaries
  refine ⟨result, t, ?_, Hydrated.marksMisses hrelated hdistinct⟩
  refine Run.lift_bind_eq_ok.2 ⟨ids, hids, Run.bind_eq_ok.2 ⟨_, _, hrun, ?_⟩⟩
  exact Run.bind_eq_ok.2 ⟨_, t, rfl, by rw [Run.lift_apply, hresult]⟩

/-- **Hydrating one primary entity ends well**, and marks what was not
found. -/
theorem exists_resolveOne {primary : Value} (hremote : remote.Sound) (h : s.Sound)
    (hprimary : primary.IsPrimary kind options.full) :
    ∃ result t, resolveOne kind primary options remote s = (.ok result, t) ∧
      result.MarksMisses options.markUnknown := by
  have hprimaries : ∀ other ∈ [primary], other.IsPrimary kind options.full := by
    intro other hother
    cases List.mem_singleton.1 hother
    exact hprimary
  obtain ⟨ids, refs, t, hids, hrun, husable, hdistinct, hworkflows⟩ :=
    exists_resolved_of_primaries hremote h hprimaries
  obtain ⟨result, hresult, rfl, hrelated⟩ :=
    Hydrated.exists_ofFirst husable hworkflows hprimaries (List.cons_ne_nil _ _)
  refine ⟨result, t, ?_, Hydrated.marksMisses hrelated hdistinct⟩
  refine Run.lift_bind_eq_ok.2 ⟨ids, hids, Run.bind_eq_ok.2 ⟨_, _, hrun, ?_⟩⟩
  exact Run.bind_eq_ok.2 ⟨_, t, rfl, by rw [Run.lift_apply, hresult]⟩

/-- **Failures are absorbed.** From empty caches, after any jobs and moves of
the clock within the range of doubles, hydrating primary entities ends well
and marks what was not found, whatever the tracker answers and wherever it
fails, as long as an entity that it does bring can be used as one. -/
theorem absorbs_failures (hremote : remote.Sound) {start : Session} (hempty : start.CachesEmpty)
    (hclock : start.clock.fitsDouble = true) {events : List Session.Event}
    (hclocks : ∀ now, .setClock now ∈ events → now.fitsDouble = true)
    (hreached : start.afterAll remote events = s)
    (hprimaries : ∀ primary ∈ primaries, primary.IsPrimary kind options.full) :
    (∃ result t, resolveMany kind primaries options remote s = (.ok result, t) ∧
      result.MarksMisses options.markUnknown) ∧
    ∀ primary ∈ primaries, ∃ result t,
      resolveOne kind primary options remote s = (.ok result, t) ∧
        result.MarksMisses options.markUnknown := by
  have hsound : s.Sound := hreached ▸
    (Session.Sound.of_cachesEmpty hempty hclock).afterAll hremote hclocks
  exact ⟨exists_resolveMany hremote hsound hprimaries, fun primary hprimary =>
    exists_resolveOne hremote hsound (hprimaries primary hprimary)⟩

end

/-! ### Trackers that answer everything alike -/

namespace Sample

/-- A session with empty caches. -/
def unused : Session := { session with caches := {} }

theorem cachesEmpty_unused : unused.CachesEmpty := by
  intro k hk
  cases k <;> exact ⟨rfl, rfl⟩

theorem isPrimary_story : story.IsPrimary .stories false := by
  refine ⟨_, rfl, fun ref href => ?_, fun hno => by cases hno⟩
  simp only [Kind.references, List.mem_cons, List.not_mem_nil, or_false] at href
  rcases href with rfl | rfl | rfl | rfl | rfl | rfl | rfl
  · exact ⟨[], rfl⟩
  · exact ⟨_, rfl⟩
  · exact ⟨[], rfl⟩
  · exact ⟨_, rfl⟩
  · exact ⟨_, rfl⟩
  · exact ⟨_, rfl⟩
  · exact ⟨_, rfl⟩

/-- A tracker that answers everything with one object, which has an id and
nothing else. -/
def oneObject : Remote := fun _ _ => .answer 200 [123, 34, 105, 100, 34, 58, 55, 125]

theorem ofBytes_oneObject : Json.ofBytes [123, 34, 105, 100, 34, 58, 55, 125] =
    .ok (.object [("id", .int 7)]) := rfl

/-- The object can be used as whatever is fetched, and is no list. -/
theorem sound_oneObject : oneObject.Sound where
  entities := by
    intro kind hkind client past id v hanswer hsome
    obtain ⟨path, -, hanswer⟩ := Except.bind_eq_ok.1 hanswer
    obtain ⟨request, -, hanswer⟩ := Except.bind_eq_ok.1 hanswer
    obtain ⟨status, body, hreply, -, hbody⟩ := Http.Reply.of_value_eq_ok hanswer hsome
    cases hreply
    rw [ofBytes_oneObject] at hbody
    cases hbody
    refine ⟨_, rfl, fun ref href => ?_, fun _ => Value.isObjectIfAny_null, fun _ h => by cases h⟩
    simp only [Kind.fetched, List.mem_cons, List.not_mem_nil, or_false] at hkind
    rcases hkind with rfl | rfl | rfl
    · rcases List.mem_cons.1 href with rfl | href
      · exact ⟨_, rfl⟩
      · cases List.mem_singleton.1 href
        exact ⟨[], rfl⟩
    · cases href
    · cases href
  lists := by
    intro kind hkind client past table hsnapshot
    obtain ⟨entities, hlisted, -⟩ := Except.bind_eq_ok.1 hsnapshot
    obtain ⟨request, status, body, -, hreply, -, hbody⟩ := Ask.exchange_of_listed hlisted
    cases hreply
    rw [ofBytes_oneObject] at hbody
    cases hbody

/-- The list of users is asked for, and time passes. -/
def events : List Session.Event := [.work (.referenceValues .users false), .setClock (.int 20)]

end Sample

/-- The epic is found, the team is not, and the story is shown all the
same. -/
theorem story_is_shown_without_its_team :
    ∃ result t, resolveOne .stories Sample.story {} Sample.oneObject
        (Sample.unused.afterAll Sample.oneObject Sample.events) = (.ok result, t) ∧
      result.MarksMisses false := by
  have hclocks : ∀ now, .setClock now ∈ Sample.events → now.fitsDouble = true := by
    intro now hnow
    rcases List.mem_cons.1 hnow with hno | hnow
    · cases hno
    · cases List.mem_singleton.1 hnow
      rfl
  have hprimaries : ∀ primary ∈ [Sample.story],
      primary.IsPrimary .stories ({} : Hydrated.Options).full := by
    intro primary hprimary
    cases List.mem_singleton.1 hprimary
    exact Sample.isPrimary_story
  have hall := absorbs_failures Sample.sound_oneObject Sample.cachesEmpty_unused rfl hclocks rfl
    hprimaries
  exact hall.2 _ (List.mem_singleton_self _)

namespace Sample

/-- A tracker that answers everything with a number. -/
def number : Remote := fun _ _ => .answer 200 [53]

/-- What the tracker is asked before the second round. -/
def numberAsked (path : String) : Http.Exchange :=
  ⟨0, { method := .get, url := url path, body := none, token := "token" }, .answer 200 [53]⟩

/-- The session once the list of teams was asked for. -/
def withoutTeams : Session :=
  { unused with
    exchanges := [numberAsked "/groups"]
    log := [⟨.error, "Refill of " ++ Kind.teams.name ++ " cache failed, serving stale data"⟩] }

/-- The session once the epic was fetched. -/
def withNumber : Session :=
  { withoutTeams with exchanges := [numberAsked "/groups", numberAsked "/epics/7"] }

/-- What the empty cache of teams gives. -/
def teamMissed : Refs := ⟨[(.teams, [(.text "t", .notFound (.text "t"))])]⟩

/-- What the first round records: the number is taken for the epic. -/
def numberFound : Refs := ⟨teamMissed.lookups ++ [(.epics, [(epic, .found (.int 5))])]⟩

theorem round_number :
    round Sample.ids {} [] number unused = (.ok (numberFound, [.teams]), withNumber) := by
  have hfresh : ensureAllFresh (unchecked Sample.ids []) number unused =
      (.ok (), withoutTeams) := rfl
  have hread : readCaches Sample.ids {} (cachedKindsOf Sample.ids) number withoutTeams =
      (.ok teamMissed, withoutTeams) := rfl
  have hjobs : fetchJobs Sample.ids teamMissed = [(.epics, epic)] := rfl
  have hfetch : fetch .epics epic number withoutTeams = (.ok (.found (.int 5)), withNumber) := rfl
  have hlook : lookUp Sample.ids {} number withoutTeams = (.ok numberFound, withNumber) := by
    rw [lookUp, Run.bind_of_ok _ hread, hjobs, fetchAll, Run.bind_of_ok _ hfetch]
    rfl
  exact Run.bind_eq_ok.2 ⟨_, _, hfresh, Run.bind_eq_ok.2 ⟨_, _, hlook, rfl⟩⟩

end Sample

/-- **A number in place of an epic is not absorbed.** The answer to fetching the
epic of a story is one of success and JSON, so it is taken for the epic, and
following its references fails. -/
theorem takes_a_number_for_an_epic :
    Sample.unused.CachesEmpty ∧ Sample.story.IsPrimary .stories false ∧
      ∃ t, resolveOne .stories Sample.story {} Sample.number Sample.unused =
        (.error .noSuchMember, t) := by
  have hids : IdsByKind.ofEntities .stories [Sample.story] = .ok Sample.ids := rfl
  have hfurther : IdsByKind.unresolved Sample.numberFound = .error .noSuchMember := rfl
  refine ⟨Sample.cachesEmpty_unused, Sample.isPrimary_story, Sample.withNumber, ?_⟩
  simp only [resolveOne, resolveRefs, secondRound, Run.bind_apply, Run.lift_apply, hids,
    Sample.round_number, hfurther]

end Resolver

end Backlog
