import Backlog.Proofs.Sound
/-!
# Orderly servers

Compiling a search reads three things that a server remembers: the age of the
team cache, the ids of the teams in it, and the current user. All three can be
read in an `Orderly` session, whose caches are keyed by ids, whose clock and
loading times are in the range of doubles, and whose current user can be read
as one. Every operation keeps a server orderly (`Server.Orderly.apply`), so every
run from empty caches does (`Server.Orderly.runAll`), as long as the clock stays
in range and what the tracker answers to `/member` can be read as a user.
-/

namespace Backlog

/-- What the tracker names the current user can be read as a user: nothing, or
an object whose profile is nothing or an object. -/
def Remote.NamesUsers (remote : Remote) : Prop :=
  ∀ s user t, Api.getIfThere "/member" remote s = (.ok user, t) → user.IsUserIfAny

/-- What becomes of the loading time of a cache. -/
theorem Cache.KeptOrLoaded.loadedAt {kind : Kind} {exchanges : List Http.Exchange} {now : Number}
    {old new : Cache} (h : KeptOrLoaded kind exchanges now old new) :
    new.loadedAt = old.loadedAt ∨ new.loadedAt = some now := by
  rcases h with rfl | hloaded
  · exact .inl rfl
  · cases hloaded with
    | intro _ _ _ _ _ _ _ _ _ _ _ _ hnew =>
      rw [hnew]
      exact .inr rfl

namespace Session

/-- The caches are keyed by ids, all ages can be told, and the current user can
be read as one. -/
structure Orderly (s : Session) : Prop where
  /-- The clock is in the range of doubles. -/
  clock : s.clock.fitsDouble = true
  /-- So is the time at which a cache was loaded. -/
  loadedAt : ∀ k ∈ Kind.cached, ∀ time, (s.cacheOf k).loadedAt = some time →
    time.fitsDouble = true
  /-- Cached entities are objects, each under its id. -/
  keyed : ∀ k ∈ Kind.cached, (s.cacheOf k).KeyedById
  /-- The current user, if known, can be read as a user. -/
  user : s.client.currentUser.IsUserIfAny

namespace Orderly

variable {remote : Remote} {may : Deed → Prop} {s t : Session}

/-- The user that a step remembers can be read as a user. -/
theorem user_step (hremote : remote.NamesUsers) (h : s.client.currentUser.IsUserIfAny)
    (hstep : Step remote may s t) : t.client.currentUser.IsUserIfAny := by
  cases hstep with
  | log line => exact h
  | send request hopen hmay => exact h
  | remember m user hmay hremember hunknown hasked => exact hremote s user m hasked
  | refill kind table hmay hkind hsnapshot =>
    rw [client_refilled]
    exact h

/-- The user that work remembers can be read as a user. -/
theorem user_steps (hremote : remote.NamesUsers) (h : s.client.currentUser.IsUserIfAny)
    (hsteps : Steps remote may s t) : t.client.currentUser.IsUserIfAny := by
  induction hsteps with
  | refl => exact h
  | tail _ hstep ih => exact user_step hremote ih hstep

/-- **Work keeps a session orderly.** -/
theorem steps (h : s.Orderly) (hremote : remote.NamesUsers) (hsteps : Steps remote may s t) :
    t.Orderly := by
  obtain ⟨received, -, hcaches⟩ := hsteps.exists_keptOrLoaded
  refine ⟨hsteps.clock_eq ▸ h.clock, fun k hk time htime => ?_, fun k hk => ?_,
    user_steps hremote h.user hsteps⟩
  · rcases (hcaches k hk).loadedAt with hkept | hloaded
    · exact h.loadedAt k hk time (hkept ▸ htime)
    · rw [hloaded] at htime
      cases htime
      exact h.clock
  · exact (hcaches k hk).keyedById (h.keyed k hk)

/-- Whether a cache is stale can be told. -/
theorem isStale_eq (h : s.Orderly) {k : Kind} (hk : k ∈ Kind.cached) :
    s.isStale k = .ok (s.knownStale k) :=
  isStale_eq_of_fitsDouble h.clock (h.loadedAt k hk)

end Orderly

end Session

namespace Server

/-- All sessions of a server are orderly. -/
structure Orderly (server : Server) : Prop where
  /-- The clock is in the range of doubles. -/
  clock : server.clock.fitsDouble = true
  /-- So is the time at which a cache was loaded. -/
  loadedAt : ∀ number, ∀ k ∈ Kind.cached, ∀ time,
    (server.cacheAt number k).loadedAt = some time → time.fitsDouble = true
  /-- Cached entities are objects, each under its id. -/
  keyed : ∀ number, ∀ k ∈ Kind.cached, (server.cacheAt number k).KeyedById
  /-- The current users, as far as known, can be read as users. -/
  users : ∀ client ∈ server.clients, client.currentUser.IsUserIfAny

/-- Whether a server is as it is made: no cache was loaded, and no client knows
the current user. -/
structure Unused (server : Server) : Prop where
  /-- Caches are empty. -/
  caches : server.CachesEmpty
  /-- No current user is known. -/
  users : ∀ client ∈ server.clients, client.currentUser = .null

variable {remote : Remote} {server after : Server}

/-- A server as it is made is orderly. -/
theorem Unused.orderly (h : server.Unused) (hclock : server.clock.fitsDouble = true) :
    server.Orderly where
  clock := hclock
  loadedAt := by
    intro number k hk time htime
    rw [(h.caches.cacheAt_empty number hk).2] at htime
    cases htime
  keyed := fun number k hk => h.caches.keyedById number hk
  users := by
    intro client hclient
    rw [h.users client hclient]
    exact Value.isUserIfAny_null

namespace Orderly

/-- Clock, caches and users are all that order is about. -/
theorem congr (h : server.Orderly) (hclock : after.clock = server.clock)
    (hcaches : ∀ number k, after.cacheAt number k = server.cacheAt number k)
    (hclients : ∀ client ∈ after.clients, client.currentUser = .null ∨
      ∃ old ∈ server.clients, client.currentUser = old.currentUser) : after.Orderly where
  clock := hclock ▸ h.clock
  loadedAt := fun number k hk => hcaches number k ▸ h.loadedAt number k hk
  keyed := fun number k hk => hcaches number k ▸ h.keyed number k hk
  users := by
    intro client hclient
    rcases hclients client hclient with hnull | ⟨old, hold, hsame⟩
    · rw [hnull]
      exact Value.isUserIfAny_null
    · rw [hsame]
      exact h.users old hold

/-- What leaves the clients alone, too. -/
theorem congr_of_clients (h : server.Orderly) (hclock : after.clock = server.clock)
    (hcaches : ∀ number k, after.cacheAt number k = server.cacheAt number k)
    (hclients : after.clients = server.clients) : after.Orderly :=
  h.congr hclock hcaches fun client hclient => .inr ⟨client, hclients ▸ hclient, rfl⟩

/-- **The session of a handle** is orderly. -/
theorem session (h : server.Orderly) {handle : Handle} {s : Session}
    (hs : server.session? handle = some s) : s.Orderly := by
  have hcache := cacheOf_eq_of_session? hs
  obtain ⟨client, hclient, hs⟩ := Option.bind_eq_some_iff.1 hs
  obtain ⟨caches, -, hs⟩ := Option.bind_eq_some_iff.1 hs
  cases hs
  refine ⟨h.clock, fun k hk => ?_, fun k hk => ?_, h.users client (List.mem_of_getElem? hclient)⟩
  · rw [hcache]
    exact h.loadedAt handle.caches k hk
  · rw [hcache]
    exact h.keyed handle.caches k hk

/-- Putting back an orderly session. -/
theorem restore (h : server.Orderly) {handle : Handle} {s t : Session}
    (hs : server.session? handle = some s) (ht : t.Orderly) :
    (server.restore handle t).Orderly := by
  refine ⟨ht.clock, fun number k hk => ?_, fun number k hk => ?_, fun client hclient => ?_⟩
  · rw [cacheAt_restore hs]
    split
    · exact ht.loadedAt k hk
    · exact h.loadedAt number k hk
  · rw [cacheAt_restore hs]
    split
    · exact ht.keyed k hk
    · exact h.keyed number k hk
  · rcases List.mem_or_eq_of_mem_set hclient with hold | rfl
    · exact h.users client hold
    · exact ht.user

end Orderly

/-- Whether a run keeps a server orderly. -/
def Keeps {α : Type} (remote : Remote) (run : Run Server α) : Prop :=
  ∀ server : Server, server.Orderly → (run remote server).2.Orderly

namespace Keeps

variable {α β : Type}

theorem bind {run : Run Server α} {next : α → Run Server β} (h : Keeps remote run)
    (hnext : ∀ a, Keeps remote (next a)) : Keeps remote (run >>= next) := by
  intro server hserver
  have hfirst := h server hserver
  rw [Run.bind_apply]
  rcases hrun : run remote server with ⟨_ | a, middle⟩
  · rw [hrun] at hfirst
    exact hfirst
  · rw [hrun] at hfirst
    exact hnext a middle hfirst

end Keeps

/-- An idle run keeps a server orderly. -/
theorem Idle.keeps {α : Type} {run : Run Server α} (h : Idle run) : Keeps remote run := by
  intro server hserver
  have hrun := h remote server
  obtain ⟨opened, hclients, hunknown⟩ := hrun.clients
  refine hserver.congr hrun.clock hrun.caches fun client hclient => ?_
  rw [hclients] at hclient
  rcases List.mem_append.1 hclient with hold | hnew
  · exact .inr ⟨client, hold, rfl⟩
  · exact .inl (hunknown client hnew)

variable (hremote : remote.NamesUsers)
include hremote

/-- **Work through a handle** keeps a server orderly. -/
theorem keeps_within {α : Type} {work : Action α} (h : Action.Uses (fun _ => True) work)
    (handle : Handle) : Keeps remote (within handle work) := by
  intro server hserver
  rw [within]
  cases hs : server.session? handle with
  | none => exact hserver
  | some s => exact hserver.restore hs ((hserver.session hs).steps hremote (h remote s))

theorem keeps_perform {tool : Tool} (h : tool ∈ Tool.all) (args : Arguments) :
    Keeps remote (perform tool.work args) := by
  have huses := Tool.uses_anything h
  rw [Tool.Uses] at huses
  cases hwork : tool.work with
  | health => exact idle_health.keeps
  | session run =>
    rw [hwork] at huses
    exact idle_getTools.keeps.bind fun handle => keeps_within hremote (huses args) handle

omit hremote in
/-- A client that is closed still knows the current user. -/
theorem Orderly.shutdown (h : server.Orderly) : server.shutdown.Orderly := by
  rw [Server.shutdown]
  cases server.client? with
  | none => exact h.congr_of_clients rfl (fun _ _ => rfl) rfl
  | some serial =>
    refine h.congr rfl (fun _ _ => rfl) fun client hclient => ?_
    obtain ⟨number, hnumber⟩ := List.mem_iff_getElem?.1 hclient
    have hclosing : (server.clients.modify serial
        fun client => { client with isOpen := false })[number]? = some client := hnumber
    rw [List.getElem?_modify] at hclosing
    obtain ⟨old, hold, hclosed⟩ := Option.map_eq_some_iff.1 hclosing
    refine .inr ⟨old, List.mem_of_getElem? hold, ?_⟩
    rw [← hclosed]
    split <;> rfl

namespace Orderly

/-- A call keeps a server orderly. -/
theorem call (h : server.Orderly) (name : String) (given : Table String Value) :
    (server.call remote name given).2.Orderly := by
  rw [Server.call]
  split
  · exact h
  · next tool htool =>
    split
    · exact h
    · next args hargs =>
      have hmem : tool ∈ Tool.all :=
        (List.mem_filter.1 (List.mem_of_find?_eq_some htool)).1
      exact keeps_perform hremote hmem args server h

/-- **Every operation keeps a server orderly**, as long as the clock stays in
range. -/
theorem apply (h : server.Orderly) {operation : Operation}
    (hclock : ∀ now, operation = .setClock now → now.fitsDouble = true) :
    (operation.apply remote server).Orderly := by
  cases operation with
  | call name given => exact h.call hremote name given
  | perform tool htool args => exact keeps_perform hremote htool args server h
  | work handle job =>
    exact keeps_within hremote job.uses_anything handle server h
  | getClient => exact idle_getClient.keeps server h
  | getCaches => exact idle_getCaches.keeps server h
  | getTools => exact idle_getTools.keeps server h
  | shutdown => exact h.shutdown
  | setClock now => exact ⟨hclock now rfl, h.loadedAt, h.keyed, h.users⟩
  | setEnvironment environment => exact h.congr_of_clients rfl (fun _ _ => rfl) rfl

/-- **Every run keeps a server orderly**, as long as the clock stays in
range. -/
theorem runAll (h : server.Orderly) {operations : List Operation}
    (hclocks : ∀ now, .setClock now ∈ operations → now.fitsDouble = true) :
    (server.runAll remote operations).Orderly := by
  induction operations generalizing server with
  | nil => exact h
  | cons operation rest ih =>
    refine ih (h.apply hremote fun now hnow => ?_) fun now hnow => ?_
    · exact hclocks now (hnow ▸ List.mem_cons_self)
    · exact hclocks now (List.mem_cons_of_mem _ hnow)

end Orderly

end Server

end Backlog
