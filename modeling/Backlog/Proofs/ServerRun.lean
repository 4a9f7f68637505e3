import Backlog.Proofs.Effect.Tools
import Backlog.Proofs.Provenance
import Backlog.Server.Basic
/-!
# Runs of a server

A server lives through operations: calls of tools, work of the client and of
the resolver, shutdowns, and moves of the clock and of the environment
(`Server.Operation`). Getting a client, caches and tools leaves a server untouched
(`Server.idle_getTools`). Every operation adds to the log of exchanges and keeps
each cache or loads it from a list that comes meanwhile
(`Server.Operation.grows`).
Over a whole run from empty caches, every cached value is an object with the
id that it is under (`Server.keyedById_runAll`).
-/

namespace Backlog

/-! ## Jobs -/

/-- Work that the client or the resolver does by itself. -/
inductive Job where
  /-- The whole list of a kind. -/
  | listEntities (kind : Kind)
  /-- One entity. -/
  | getEntity (kind : Kind) (id : Value)
  /-- A page of search results. -/
  | searchPage (kind : Kind) (query pageSize token : Value)
  /-- The current user. -/
  | currentUser
  /-- A new entity. -/
  | createEntity (kind : Kind) (payload : Value)
  /-- A change of an entity. -/
  | updateEntity (kind : Kind) (id payload : Value)
  /-- A comment on a story. -/
  | commentOnStory (story text : Value)
  /-- The stories of an iteration. -/
  | iterationStories (iteration : Value)
  /-- What a list of entities refers to. -/
  | resolveMany (kind : Kind) (primaries : List Value) (options : Hydrated.Options)
  /-- What one entity refers to. -/
  | resolveOne (kind : Kind) (primary : Value) (options : Hydrated.Options)
  /-- The entities with some ids. -/
  | resolveGiven (given : Value)
  /-- All entities of a cached kind. -/
  | referenceValues (kind : Kind) (strict : Bool)
  /-- The entities of a cached kind with some ids. -/
  | referenceMap (kind : Kind) (ids : Value)
  /-- A forced refill of some caches. -/
  | refresh (kinds : Value)

namespace Job

/-- Work of which only the effect counts. -/
def effectOf {α : Type} (work : Action α) : Action Unit := do
  let _ ← work
  pure ()

/-- Does a job. -/
def run : Job → Action Unit
  | listEntities kind => effectOf (Api.listEntities kind)
  | getEntity kind id => effectOf (Api.getEntity kind id)
  | searchPage kind query pageSize token => effectOf (Api.search kind query pageSize token)
  | currentUser => effectOf Api.currentUser
  | createEntity kind payload => effectOf (Api.createEntity kind payload)
  | updateEntity kind id payload => effectOf (Api.updateEntity kind id payload)
  | commentOnStory story text => effectOf (Api.commentOnStory story text)
  | iterationStories iteration => effectOf (Api.iterationStories iteration)
  | resolveMany kind primaries options => effectOf (Resolver.resolveMany kind primaries options)
  | resolveOne kind primary options => effectOf (Resolver.resolveOne kind primary options)
  | resolveGiven given => effectOf (Resolver.resolveGiven given)
  | referenceValues kind strict => effectOf (Resolver.referenceValues kind strict)
  | referenceMap kind ids => effectOf (Resolver.referenceMap kind ids)
  | refresh kinds => effectOf (Resolver.refresh kinds)

/-- Whether a job changes the tracker's data. -/
def writes : Job → Bool
  | createEntity .. | updateEntity .. | commentOnStory .. => true
  | _ => false

/-- **Every job is made up of steps**. One that does not write only reads, and
only asking for the current user remembers them. -/
theorem uses_run {may : Session.Deed → Prop} (hget : may (.send .get)) (job : Job)
    (hwrites : job.writes = true → ∀ method, may (.send method))
    (hremember : job = .currentUser → may .remember) : Action.Uses may job.run := by
  have heffect : ∀ {α : Type} {work : Action α}, Action.Uses may work →
      Action.Uses may (effectOf work) := fun h => h.bind fun _ => .pure _
  cases job with
  | listEntities kind => exact heffect (Api.uses_listEntities hget kind)
  | getEntity kind id => exact heffect (Api.uses_getEntity hget kind id)
  | searchPage kind query pageSize token =>
    exact heffect (Api.uses_search hget kind query pageSize token)
  | currentUser => exact heffect (Api.uses_currentUser hget (hremember rfl))
  | createEntity kind payload =>
    exact heffect (Api.uses_createEntity (hwrites rfl .post) kind payload)
  | updateEntity kind id payload =>
    exact heffect (Api.uses_updateEntity (hwrites rfl .put) kind id payload)
  | commentOnStory story text =>
    exact heffect (Api.uses_commentOnStory (hwrites rfl .post) story text)
  | iterationStories iteration => exact heffect (Api.uses_iterationStories hget iteration)
  | resolveMany kind primaries options =>
    exact heffect (Resolver.uses_resolveMany hget kind primaries options)
  | resolveOne kind primary options =>
    exact heffect (Resolver.uses_resolveOne hget kind primary options)
  | resolveGiven given => exact heffect (Resolver.uses_resolveGiven hget given)
  | referenceValues kind strict =>
    exact heffect (Resolver.uses_referenceValues hget kind strict)
  | referenceMap kind ids => exact heffect (Resolver.uses_referenceMap hget kind ids)
  | refresh kinds => exact heffect (Resolver.uses_refresh hget kinds)

/-- Every job is made up of steps of some kind. -/
theorem uses_anything (job : Job) : Action.Uses (fun _ => True) job.run :=
  job.uses_run trivial (fun _ _ => trivial) fun _ => trivial

end Job

/-! ## Operations -/

namespace Server

/-- What may happen to a server. -/
inductive Operation where
  /-- A tool is called by its name. -/
  | call (name : String) (given : Table String Value)
  /-- A tool does its work with any arguments at all. -/
  | perform (tool : Tool) (htool : tool ∈ Tool.all) (args : Arguments)
  /-- A job is done with a client and a set of caches. -/
  | work (handle : Handle) (job : Job)
  /-- The client is needed. -/
  | getClient
  /-- The caches are needed. -/
  | getCaches
  /-- The tools are needed. -/
  | getTools
  /-- The server shuts down. -/
  | shutdown
  /-- The clock moves, forward or back. -/
  | setClock (now : Number)
  /-- The environment changes. -/
  | setEnvironment (environment : Environment)

/-- The server after an operation. -/
def Operation.apply (remote : Remote) (server : Server) : Operation → Server
  | call name given => (server.call remote name given).2
  | perform tool _ args => (Server.perform tool.work args remote server).2
  | work handle job => (within handle job.run remote server).2
  | getClient => (Server.getClient remote server).2
  | getCaches => (Server.getCaches remote server).2
  | getTools => (Server.getTools remote server).2
  | shutdown => server.shutdown
  | setClock now => { server with clock := now }
  | setEnvironment environment => { server with environment }

/-- The server after some operations, one after the other. -/
def runAll (remote : Remote) (server : Server) (operations : List Operation) : Server :=
  operations.foldl (fun server operation => operation.apply remote server) server

/-- The cache of a kind in one of the sets of caches; an empty one in a set
that was not made yet. -/
def cacheAt (server : Server) (number : Nat) (kind : Kind) : Cache :=
  ((server.cacheSets[number]?).getD {}).cacheOf kind

/-! ## Getting ready -/

/-- What a server keeps while a client, caches and tools are got ready: it sends
nothing, no cache changes, and the clients that it has stay as they are. -/
structure Untouched (server ready : Server) : Prop where
  /-- Nothing is sent. -/
  exchanges : ready.exchanges = server.exchanges
  /-- No cache changes; a new set of caches is empty. -/
  caches : ∀ number kind, ready.cacheAt number kind = server.cacheAt number kind
  /-- Clients stay as they are; new ones come behind them and know no current
  user. -/
  clients : ∃ opened, ready.clients = server.clients ++ opened ∧
    ∀ client ∈ opened, client.currentUser = .null
  /-- The clock stays. -/
  clock : ready.clock = server.clock
  /-- So does what the server offers. -/
  readOnly : ready.readOnly = server.readOnly

namespace Untouched

variable {server middle ready : Server}

/-- What leaves the clients alone, too. -/
theorem of_clients (hexchanges : ready.exchanges = server.exchanges)
    (hcaches : ∀ number kind, ready.cacheAt number kind = server.cacheAt number kind)
    (hclients : ready.clients = server.clients) (hclock : ready.clock = server.clock)
    (hreadOnly : ready.readOnly = server.readOnly) : Untouched server ready :=
  ⟨hexchanges, hcaches, ⟨[], by rw [hclients, List.append_nil],
    fun _ h => absurd h List.not_mem_nil⟩, hclock, hreadOnly⟩

theorem refl (server : Server) : Untouched server server :=
  of_clients rfl (fun _ _ => rfl) rfl rfl rfl

theorem trans (h : Untouched server middle) (h' : Untouched middle ready) :
    Untouched server ready where
  exchanges := h'.exchanges.trans h.exchanges
  caches := fun number kind => (h'.caches number kind).trans (h.caches number kind)
  clients := by
    obtain ⟨first, hfirst, hunknown⟩ := h.clients
    obtain ⟨second, hsecond, hunknown'⟩ := h'.clients
    refine ⟨first ++ second, by rw [hsecond, hfirst, List.append_assoc], fun client hmem => ?_⟩
    rcases List.mem_append.1 hmem with hmem | hmem
    · exact hunknown client hmem
    · exact hunknown' client hmem
  clock := h'.clock.trans h.clock
  readOnly := h'.readOnly.trans h.readOnly

end Untouched

/-- Whether a run leaves a server untouched, whatever comes of it. -/
def Idle {α : Type} (run : Run Server α) : Prop :=
  ∀ remote server, Untouched server (run remote server).2

namespace Idle

variable {α β : Type}

theorem pure (a : α) : Idle (Pure.pure a : Run Server α) := fun _ server => .refl server

theorem lift (result : Except Fault α) : Idle (liftM result : Run Server α) :=
  fun _ server => .refl server

theorem state : Idle (Run.state : Run Server Server) := fun _ server => .refl server

theorem bind {run : Run Server α} {next : α → Run Server β} (h : Idle run)
    (hnext : ∀ a, Idle (next a)) : Idle (run >>= next) := by
  intro remote server
  have hfirst := h remote server
  rw [Run.bind_apply]
  rcases hrun : run remote server with ⟨_ | a, middle⟩
  · rw [hrun] at hfirst
    exact hfirst
  · rw [hrun] at hfirst
    exact hfirst.trans (hnext a remote middle)

end Idle

/-- A client that is opened knows no current user. -/
theorem currentUser_of_connect {serial : Nat} {env : Environment} {client : Client}
    (h : connect serial env = .ok client) : client.currentUser = .null := by
  rw [connect] at h
  split at h
  · cases h
  · obtain ⟨settings, -, h⟩ := Except.bind_eq_ok.1 h
    obtain ⟨url, -, h⟩ := Except.bind_eq_ok.1 h
    obtain ⟨base, -, h⟩ := Except.bind_eq_ok.1 h
    obtain ⟨token, -, h⟩ := Except.bind_eq_ok.1 h
    cases h
    rfl

/-- A set of caches that is made is as empty as it was before. -/
theorem cacheAt_of_new_set (server : Server) (caches? : Option Nat) (number : Nat) (kind : Kind) :
    cacheAt { server with cacheSets := server.cacheSets ++ [{}], caches? } number kind =
      server.cacheAt number kind := by
  rw [cacheAt, cacheAt, List.getElem?_append]
  split
  · rfl
  · next hnew =>
    rw [List.getElem?_eq_none (Nat.not_lt.1 hnew)]
    cases number - server.cacheSets.length <;> rfl

theorem idle_getClient : Idle getClient := by
  refine Idle.state.bind fun server => ?_
  split
  · exact .pure _
  · intro remote server'
    rw [Run.bind_apply, Run.lift_apply]
    -- what is known of the new client is that it was opened
    cases hclient : connect server.clients.length server.environment with
    | error fault => exact .refl server'
    | ok client =>
      refine ⟨rfl, fun _ _ => rfl, ⟨[client], rfl, fun other hother => ?_⟩, rfl, rfl⟩
      cases List.mem_singleton.1 hother
      exact currentUser_of_connect hclient

theorem idle_getCaches : Idle getCaches := by
  refine Idle.state.bind fun server => ?_
  split
  · exact .pure _
  · refine Idle.bind ?_ fun _ => .pure _
    exact fun _ server => .of_clients rfl (cacheAt_of_new_set server _) rfl rfl rfl

/-- **Getting the tools ready** sends nothing and loads nothing. -/
theorem idle_getTools : Idle getTools := by
  refine Idle.state.bind fun server => ?_
  split
  · exact .pure _
  · refine idle_getClient.bind fun client => idle_getCaches.bind fun caches => ?_
    refine Idle.bind ?_ fun _ => .pure _
    exact fun _ _ => .of_clients rfl (fun _ _ => rfl) rfl rfl rfl

theorem idle_health : Idle health :=
  idle_getCaches.bind fun _ => Idle.state.bind fun _ => .lift _

/-! ## What an operation does to caches -/

/-- Whether a server has gone on: exchanges are added, and each cache is kept
or loaded from a list among those. -/
def Grows (server after : Server) : Prop :=
  ∃ received, after.exchanges = server.exchanges ++ received ∧
    ∀ number, ∀ kind ∈ Kind.cached, Cache.KeptOrLoaded kind received server.clock
      (server.cacheAt number kind) (after.cacheAt number kind)

variable {remote : Remote} {server middle after : Server}

/-- What touches neither exchanges nor caches. -/
theorem Grows.of_eq (hexchanges : after.exchanges = server.exchanges)
    (hcaches : ∀ number kind, after.cacheAt number kind = server.cacheAt number kind) :
    Grows server after :=
  ⟨[], by rw [hexchanges, List.append_nil], fun number kind _ => .inl (hcaches number kind)⟩

theorem Grows.trans (h : Grows server middle) (hclock : middle.clock = server.clock)
    (h' : Grows middle after) : Grows server after := by
  obtain ⟨first, hfirst, hcaches⟩ := h
  obtain ⟨second, hsecond, hcaches'⟩ := h'
  refine ⟨first ++ second, by rw [hsecond, hfirst, List.append_assoc], fun number kind hk => ?_⟩
  have hnext := hcaches' number kind hk
  rw [hclock] at hnext
  exact (hcaches number kind hk).trans hnext

/-- Whether a run keeps the clock and only makes the server go on. -/
def Steady {α : Type} (run : Run Server α) : Prop :=
  ∀ remote server, (run remote server).2.clock = server.clock ∧
    Grows server (run remote server).2

namespace Steady

variable {α β : Type}

theorem bind {run : Run Server α} {next : α → Run Server β} (h : Steady run)
    (hnext : ∀ a, Steady (next a)) : Steady (run >>= next) := by
  intro remote server
  rw [Run.bind_apply]
  have hfirst := h remote server
  rcases hrun : run remote server with ⟨_ | a, middle⟩
  · rw [hrun] at hfirst
    exact hfirst
  · rw [hrun] at hfirst
    obtain ⟨hclock, hgrows⟩ := hnext a remote middle
    exact ⟨hclock.trans hfirst.1, hfirst.2.trans hfirst.1 hgrows⟩

end Steady

/-- An idle run only makes the server go on. -/
theorem Idle.steady {α : Type} {run : Run Server α} (h : Idle run) : Steady run := by
  intro remote server
  have hrun := h remote server
  exact ⟨hrun.clock, .of_eq hrun.exchanges hrun.caches⟩

/-- The session of a handle has the clock, the exchanges and one set of caches
of the server. -/
theorem of_session? {handle : Handle} {s : Session} (h : server.session? handle = some s) :
    server.cacheSets[handle.caches]? = some s.caches ∧ s.clock = server.clock ∧
      s.exchanges = server.exchanges := by
  obtain ⟨client, -, h⟩ := Option.bind_eq_some_iff.1 h
  obtain ⟨caches, hcaches, h⟩ := Option.bind_eq_some_iff.1 h
  cases h
  exact ⟨hcaches, rfl, rfl⟩

/-- The caches of a session are those of its set. -/
theorem cacheOf_eq_of_session? {handle : Handle} {s : Session}
    (h : server.session? handle = some s) (kind : Kind) :
    s.cacheOf kind = server.cacheAt handle.caches kind := by
  rw [cacheAt, (of_session? h).1, Option.getD_some, Session.cacheOf]

/-- **Putting back a session** puts back its own set of caches, and no other. -/
theorem cacheAt_restore {handle : Handle} {s : Session} (h : server.session? handle = some s)
    (t : Session) (number : Nat) (kind : Kind) :
    (server.restore handle t).cacheAt number kind =
      if handle.caches = number then t.cacheOf kind else server.cacheAt number kind := by
  have hlt : handle.caches < server.cacheSets.length :=
    (List.getElem?_eq_some_iff.1 (of_session? h).1).1
  have hrestored : (server.restore handle t).cacheSets =
      server.cacheSets.set handle.caches t.caches := rfl
  rw [cacheAt, hrestored]
  split
  · next hnumber =>
    subst hnumber
    rw [List.getElem?_set_self hlt]
    rfl
  · next hnumber =>
    rw [List.getElem?_set_ne hnumber]
    rfl

/-- **Work through a handle** keeps or loads the caches of the handle, and no
others are touched. -/
theorem steady_within {α : Type} {work : Action α} (h : Action.Uses (fun _ => True) work)
    (handle : Handle) : Steady (within handle work) := by
  intro remote server
  rw [within]
  cases hs : server.session? handle with
  | none => exact ⟨rfl, .of_eq rfl fun _ _ => rfl⟩
  | some s =>
    have hsteps := h remote s
    obtain ⟨-, hclock, hexchanges⟩ := of_session? hs
    obtain ⟨received, hreceived, hcaches⟩ := hsteps.exists_keptOrLoaded
    rw [hexchanges] at hreceived
    refine ⟨hsteps.clock_eq.trans hclock, received, hreceived, fun number kind hk => ?_⟩
    dsimp only
    rw [cacheAt_restore hs]
    split
    · next hnumber =>
      subst hnumber
      rw [← cacheOf_eq_of_session? hs, ← hclock]
      exact hcaches kind hk
    · exact .refl

theorem steady_perform {tool : Tool} (h : tool ∈ Tool.all) (args : Arguments) :
    Steady (perform tool.work args) := by
  have huses := Tool.uses_anything h
  rw [Tool.Uses] at huses
  cases hwork : tool.work with
  | health => exact idle_health.steady
  | session run =>
    rw [hwork] at huses
    exact idle_getTools.steady.bind fun handle => steady_within (huses args) handle

/-- A call does the work of its tool, if there is one and it takes the
arguments. -/
theorem grows_call (name : String) (given : Table String Value) (remote : Remote)
    (server : Server) : Grows server (server.call remote name given).2 := by
  rw [call]
  split
  · exact .of_eq rfl fun _ _ => rfl
  · next tool htool =>
    split
    · exact .of_eq rfl fun _ _ => rfl
    · next args hargs =>
      have hmem : tool ∈ Tool.all :=
        (List.mem_filter.1 (List.mem_of_find?_eq_some htool)).1
      exact (steady_perform hmem args remote server).2

theorem grows_shutdown (server : Server) : Grows server server.shutdown := by
  rw [shutdown]
  cases server.client? with
  | none => exact .of_eq rfl fun _ _ => rfl
  | some serial => exact .of_eq rfl fun _ _ => rfl

/-- **Every operation keeps each cache or loads it** from a list that comes
meanwhile. -/
theorem Operation.grows (operation : Operation) (remote : Remote) (server : Server) :
    Grows server (operation.apply remote server) := by
  cases operation with
  | call name given => exact grows_call name given remote server
  | perform tool htool args => exact (steady_perform htool args remote server).2
  | work handle job =>
    exact (steady_within job.uses_anything handle remote server).2
  | getClient => exact (idle_getClient.steady remote server).2
  | getCaches => exact (idle_getCaches.steady remote server).2
  | getTools => exact (idle_getTools.steady remote server).2
  | shutdown => exact grows_shutdown server
  | setClock now => exact .of_eq rfl fun _ _ => rfl
  | setEnvironment environment => exact .of_eq rfl fun _ _ => rfl

/-! ## Whole runs -/

/-- Whether all caches are as they are made. -/
def CachesEmpty (server : Server) : Prop :=
  ∀ caches ∈ server.cacheSets, ∀ kind ∈ Kind.cached,
    (caches.cacheOf kind).entries = [] ∧ (caches.cacheOf kind).loadedAt = none

/-- The cache of a kind is as it is made, in every set of caches. -/
theorem CachesEmpty.cacheAt_empty (h : CachesEmpty server) (number : Nat) {kind : Kind}
    (hk : kind ∈ Kind.cached) :
    (server.cacheAt number kind).entries = [] ∧ (server.cacheAt number kind).loadedAt = none := by
  rw [cacheAt]
  cases hset : server.cacheSets[number]? with
  | none =>
    rw [Option.getD_none]
    cases kind <;> exact ⟨rfl, rfl⟩
  | some caches => exact h caches (List.mem_of_getElem? hset) kind hk

theorem CachesEmpty.keyedById (h : CachesEmpty server) (number : Nat) {kind : Kind}
    (hk : kind ∈ Kind.cached) : (server.cacheAt number kind).KeyedById := by
  intro key v hmem
  rw [(h.cacheAt_empty number hk).1] at hmem
  cases hmem

/-- **A run keeps of a cache what loading keeps of it.** -/
theorem cacheAt_runAll {P : Cache → Prop} {kind : Kind} (hk : kind ∈ Kind.cached)
    (hkept : ∀ {received now old new}, Cache.KeptOrLoaded kind received now old new → P old → P new)
    (remote : Remote) (operations : List Operation) {number : Nat}
    (h : P (server.cacheAt number kind)) :
    P ((server.runAll remote operations).cacheAt number kind) := by
  induction operations generalizing server with
  | nil => exact h
  | cons operation rest ih =>
    obtain ⟨received, -, hcaches⟩ := operation.grows remote server
    exact ih (hkept (hcaches number kind hk) h)

/-- A run keeps every cache keyed by ids. -/
theorem keyedById_runAll (remote : Remote) (operations : List Operation) {number : Nat}
    {kind : Kind} (hk : kind ∈ Kind.cached) (h : (server.cacheAt number kind).KeyedById) :
    ((server.runAll remote operations).cacheAt number kind).KeyedById :=
  cacheAt_runAll hk (fun hloaded hold => hloaded.keyedById hold) remote operations h

/-- **Cached data comes from replies, whole.** In a run from empty caches, of
any operations and with any replies, each operation leaves each cache as it
was, or with the snapshot of one complete list of its kind that came during the
operation, loaded at that time. So every value in a cache is an object with the
id that it is under. -/
theorem caches_come_from_replies {start before : Server} (hempty : start.CachesEmpty)
    {remote : Remote} {operations : List Operation} (hrun : start.runAll remote operations = before)
    (operation : Operation) (number : Nat) {kind : Kind} (hk : kind ∈ Kind.cached) :
    (∃ received, (operation.apply remote before).exchanges = before.exchanges ++ received ∧
      Cache.KeptOrLoaded kind received before.clock (before.cacheAt number kind)
        ((operation.apply remote before).cacheAt number kind)) ∧
      ((operation.apply remote before).cacheAt number kind).KeyedById := by
  obtain ⟨received, hreceived, hcaches⟩ := operation.grows remote before
  have hkeyed := keyedById_runAll remote operations hk (hempty.keyedById number hk)
  rw [hrun] at hkeyed
  exact ⟨⟨received, hreceived, hcaches number kind hk⟩, (hcaches number kind hk).keyedById hkeyed⟩

/-! ### A server whose list of users has one user -/

namespace Sample

/-- A tracker that answers everything with a list of one entity, whose id is
`u`. -/
def lister : Remote := fun _ _ =>
  .answer 200 [91, 123, 34, 105, 100, 34, 58, 34, 117, 34, 125, 93]

/-- A server with a client and empty caches. -/
def opened : Server where
  clients :=
    [{ serial := 0, settings := ⟨.text "token", "https://tracker", .int 30⟩, token := "token",
       base :=
         { scheme := "https".toList, userinfo := [], host := "tracker".toList, port := none,
           path := "/".toList, query := none, fragment := none } }]
  cacheSets := [{}]

/-- Asking for all users. -/
def listing : Operation := .work ⟨0, 0⟩ (.referenceValues .users true)

end Sample

/-- The user comes from the list. -/
theorem users_come_from_list :
    ((Sample.listing.apply Sample.lister Sample.opened).cacheAt 0 .users).entries =
      [(.text "u", .object [("id", .text "u")])] ∧
      ∃ received, (Sample.listing.apply Sample.lister Sample.opened).exchanges = received ∧
        Cache.LoadedFrom .users received (.int 0) (Sample.opened.cacheAt 0 .users)
          ((Sample.listing.apply Sample.lister Sample.opened).cacheAt 0 .users) := by
  have hentries : ((Sample.listing.apply Sample.lister Sample.opened).cacheAt 0 .users).entries =
      [(.text "u", .object [("id", .text "u")])] := rfl
  have hempty : Sample.opened.CachesEmpty := by
    intro caches hmem kind hk
    cases List.mem_singleton.1 hmem
    cases kind <;> exact ⟨rfl, rfl⟩
  have hrun : Sample.opened.runAll Sample.lister [] = Sample.opened := rfl
  have husers : Kind.users ∈ Kind.cached := by simp [Kind.cached]
  obtain ⟨⟨received, hreceived, hloaded⟩, -⟩ :=
    caches_come_from_replies hempty hrun Sample.listing 0 husers
  refine ⟨hentries, received, hreceived, hloaded.resolve_left fun hkept => ?_⟩
  rw [hkept] at hentries
  cases hentries

end Server

end Backlog
