import Backlog.Proofs.Effect.Step
/-!
# The effects of asking and resolving

Every function that asks the tracker or resolves references is made up of
steps. Those that read need no method but that for reading; the writes of the
client need their own.
-/

namespace Backlog

open Backlog.Action

variable {may : Session.Deed → Prop}

/-! ## Asking the tracker -/

namespace Api

theorem uses_request {method : Http.Method} (hmay : may (.send method)) (path : String)
    (params : Params) (body : Option Value) (allowMissing : Bool) :
    Uses may (request method path params body allowMissing) := by
  intro remote s
  rw [request_apply]
  cases hout : outgoing s.client method path params body with
  | error fault => exact .refl s
  | ok r =>
    obtain ⟨hmethod, hopen⟩ := of_outgoing hout
    exact (Session.Step.send s r hopen (hmethod ▸ hmay)).steps

section Reading

variable (hget : may (.send .get))
include hget

theorem uses_get (path : String) (params : Params) : Uses may (get path params) :=
  uses_request hget path params none false

theorem uses_getIfThere (path : String) : Uses may (getIfThere path) :=
  uses_request hget path [] none true

theorem uses_listEntities (kind : Kind) : Uses may (listEntities kind) := by
  refine (Uses.lift _).bind fun path => (uses_get hget path []).bind fun v => ?_
  split
  · exact .pure _
  · exact .fail _

theorem uses_getEntity (kind : Kind) (id : Value) : Uses may (getEntity kind id) :=
  (Uses.lift _).bind fun path => uses_getIfThere hget path

theorem uses_search (kind : Kind) (query pageSize token : Value) :
    Uses may (search kind query pageSize token) := by
  refine (Uses.lift _).bind fun path => ?_
  exact (uses_get hget path _).bind fun reply => .lift _

/-- Asking for the current user and remembering the answer is one step. -/
theorem uses_currentUser (hremember : may .remember) : Uses may currentUser := by
  intro remote s
  cases hunknown : s.client.currentUser.isNull with
  | false =>
    rw [currentUser_of_known hunknown]
    exact .refl s
  | true =>
    rw [currentUser_of_unknown hunknown, Run.bind_apply]
    rcases hasked : getIfThere "/member" remote s with ⟨_ | user, t⟩
    · exact (uses_getIfThere hget "/member").steps hasked
    · exact (Session.Step.remember s t user hget hremember hunknown hasked).steps

theorem uses_iterationStories (iteration : Value) : Uses may (iterationStories iteration) :=
  (uses_get hget _ _).bind fun _ => .pure _

end Reading

theorem uses_createEntity (hpost : may (.send .post)) (kind : Kind) (payload : Value) :
    Uses may (createEntity kind payload) := by
  refine (Uses.lift _).bind fun path => ?_
  exact (uses_request hpost path [] _ false).bind fun created => .lift _

theorem uses_updateEntity (hput : may (.send .put)) (kind : Kind) (id payload : Value) :
    Uses may (updateEntity kind id payload) := by
  refine (Uses.lift _).bind fun path => ?_
  exact (uses_request hput path [] _ false).bind fun updated => .lift _

theorem uses_commentOnStory (hpost : may (.send .post)) (story text : Value) :
    Uses may (commentOnStory story text) :=
  (uses_request hpost _ [] _ false).bind fun _ => .lift _

end Api

/-! ## Refilling caches -/

namespace Resolver

variable (hget : may (.send .get))

theorem uses_cache (kind : Kind) : Uses may (cache kind) := Uses.state.bind fun _ => .lift _

theorem uses_logRefill (kind : Kind) (listed installed : Nat) :
    Uses may (logRefill kind listed installed) := by
  rw [logRefill]
  split
  · exact (Uses.log _ _).bind fun _ => .log _ _
  · exact .log _ _

include hget

theorem steps_asked (ask : Ask) (remote : Remote) (s : Session) :
    Session.Steps remote may s (s.asked remote ask) := by
  rw [Session.asked, Ask.exchanges]
  cases hrequest : ask.request s.client with
  | error fault =>
    rw [List.append_nil]
    exact .refl s
  | ok request =>
    obtain ⟨path, -, hout⟩ := Except.bind_eq_ok.1 hrequest
    obtain ⟨hmethod, hopen⟩ := Api.of_outgoing hout
    exact (Session.Step.send s request hopen (hmethod ▸ hget)).steps

/-- A refill that installs a snapshot asks for it in the same step; one that
does not only asks. -/
theorem uses_refill (kind : Kind) : Uses may (refill kind) := by
  intro remote s
  rw [refill_eq]
  cases hlist : Ask.listed remote s.client s.exchanges kind with
  | error fault => exact steps_asked hget _ remote s
  | ok entities =>
    dsimp only
    cases hsnapshot : Cache.snapshot? (Cache.entityEntries entities) with
    | error fault => exact steps_asked hget _ remote s
    | ok table =>
      -- only a cached kind has a list
      have hkind : kind ∈ Kind.cached := by
        by_contra hnot
        obtain ⟨⟨fault, hfault⟩, -⟩ :=
          Ask.listed_of_not_mem_cached hnot remote s.client s.exchanges
        rw [hfault] at hlist
        cases hlist
      have hstep := Session.Step.refill s kind table hget hkind
        ((Ask.snapshot_of_listed hlist).trans hsnapshot)
      exact hstep.steps.trans (uses_logRefill kind _ _ remote _)

theorem uses_refillOrKeep (kind : Kind) : Uses may (refillOrKeep kind) := by
  refine (uses_refill hget kind).attempt.bind fun outcome => ?_
  split
  · exact .pure _
  · exact .log _ _

theorem uses_ensureFresh (kind : Kind) (strict : Bool) : Uses may (ensureFresh kind strict) := by
  have hstale : Uses may (isStale kind) :=
    (uses_cache kind).bind fun c => Uses.state.bind fun _ => .lift _
  refine hstale.bind fun stale => ?_
  split
  · split
    · exact uses_refill hget kind
    · exact uses_refillOrKeep hget kind
  · exact .pure _

theorem uses_ensureAllFresh (kinds : List Kind) : Uses may (ensureAllFresh kinds) := by
  induction kinds with
  | nil => exact .pure _
  | cons kind rest ih =>
    refine (uses_ensureFresh hget kind false).attempt.bind fun outcome => ?_
    refine ih.attempt.bind fun others => ?_
    exact (Uses.ofExcept _).bind fun _ => .ofExcept _

/-! ## Looking ids up -/

theorem uses_fetch (kind : Kind) (id : Atom) : Uses may (fetch kind id) := by
  refine (Api.uses_getEntity hget kind _).attempt.bind fun outcome => ?_
  rw [fetchOutcome.eq_def]
  split
  · exact .pure _
  · exact (Uses.log _ _).bind fun _ => .pure _
  · exact (Uses.log _ _).bind fun _ => .pure _

theorem uses_fetchAll (refs : Refs) (jobs : List (Kind × Atom)) :
    Uses may (fetchAll refs jobs) := by
  induction jobs generalizing refs with
  | nil => exact .pure _
  | cons job rest ih => exact (uses_fetch hget job.1 job.2).bind fun lookup => ih _

theorem uses_lookUp (ids : IdsByKind) (refs : Refs) : Uses may (lookUp ids refs) := by
  have hread : ∀ (kinds : List Kind) (refs : Refs), Uses may (readCaches ids refs kinds) := by
    intro kinds
    induction kinds with
    | nil => exact fun refs => .pure _
    | cons kind rest ih => exact fun refs => (uses_cache kind).bind fun c => ih _
  exact (hread _ refs).bind fun refs => uses_fetchAll hget refs _

theorem uses_round (ids : IdsByKind) (refs : Refs) (checked : List Kind) :
    Uses may (round ids refs checked) := by
  refine (uses_ensureAllFresh hget _).bind fun _ => ?_
  exact (uses_lookUp hget ids refs).bind fun refs => .pure _

theorem uses_secondRound (refs : Refs) (checked : List Kind) :
    Uses may (secondRound refs checked) := by
  refine (Uses.lift _).bind fun further => ?_
  split
  · exact .pure _
  · exact (uses_round hget further refs checked).bind fun outcome => .pure _

theorem uses_resolveRefs (ids : IdsByKind) : Uses may (resolveRefs ids) :=
  (uses_round hget ids {} []).bind fun outcome => uses_secondRound hget outcome.1 outcome.2

theorem uses_resolveGiven (given : Value) : Uses may (resolveGiven given) := by
  refine (Uses.lift _).bind fun fields => (uses_ensureAllFresh hget _).bind fun _ => ?_
  refine (Uses.lift _).bind fun ids => (uses_lookUp hget ids {}).bind fun refs => ?_
  exact uses_secondRound hget refs _

/-! ## Results -/

theorem uses_resolveMany (kind : Kind) (primaries : List Value) (options : Hydrated.Options) :
    Uses may (resolveMany kind primaries options) := by
  refine (Uses.lift _).bind fun ids => (uses_resolveRefs hget ids).bind fun refs => ?_
  exact (Uses.state.bind fun s => .pure _).bind fun workflows => .lift _

theorem uses_resolveOne (kind : Kind) (primary : Value) (options : Hydrated.Options) :
    Uses may (resolveOne kind primary options) := by
  refine (Uses.lift _).bind fun ids => (uses_resolveRefs hget ids).bind fun refs => ?_
  exact (Uses.state.bind fun s => .pure _).bind fun workflows => .lift _

theorem uses_referenceValues (kind : Kind) (strict : Bool) :
    Uses may (referenceValues kind strict) := by
  refine (uses_ensureFresh hget kind strict).bind fun _ => ?_
  exact (uses_cache kind).bind fun c => .pure _

theorem uses_referenceMap (kind : Kind) (ids : Value) : Uses may (referenceMap kind ids) := by
  refine (uses_ensureFresh hget kind false).bind fun _ => (uses_cache kind).bind fun c => ?_
  exact (Uses.lift _).bind fun ids => (Uses.lift _).bind fun ids => .pure _

theorem uses_refresh (kinds : Value) : Uses may (refresh kinds) := by
  have hall : ∀ vs : List Value, Uses may (refillAll vs) := by
    intro vs
    induction vs with
    | nil => exact .pure _
    | cons v rest ih =>
      exact (Uses.lift _).bind fun kind => (uses_refill hget kind).bind fun _ => ih
  refine (Uses.lift _).bind fun vs => (hall vs).bind fun _ => ?_
  exact Uses.state.bind fun _ => .lift _

end Resolver

end Backlog
