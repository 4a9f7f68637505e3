import Backlog.Proofs.Opening
/-!
# What a server has in use fits together

A server opens a client, makes caches and gets tools ready when they are first
needed, in whatever order, and a shutdown takes some of that back. What holds
whatever has happened is `Server.Coherent`: there is one set of caches at most,
the client in use is the one that is open, and tools are for the client and the
caches in use. Every operation keeps it and sends through the client in use only
(`Server.Operation.follows`), so a client that was closed is never sent through
again (`Server.follows_runAll`).

With no client in use, the next need opens one that knows no current user, or
fails and leaves the server as it was (`Server.StartsAnew`).
-/

namespace Backlog

/-- The client without what it remembers of the current user. -/
def Client.forgetful (client : Client) : Client := { client with currentUser := .null }

namespace Server

variable {server middle after : Server} {remote : Remote} {number : Nat}

/-! ## Coherent servers -/

/-- Whether nothing was started yet. -/
structure Unstarted (server : Server) : Prop where
  clients : server.clients = []
  cacheSets : server.cacheSets = []
  client : server.client? = none
  caches : server.caches? = none
  tools : server.tools? = none

/-- Whether a client was opened and closed again. -/
def Closed (server : Server) (number : Nat) : Prop :=
  ∃ client, server.clients[number]? = some client ∧ client.isOpen = false

/-- Whether what the server has in use fits together. -/
structure Coherent (server : Server) : Prop where
  /-- There is one set of caches, once there is any, and it is in use. -/
  caches : server.caches? = none ∧ server.cacheSets = [] ∨
    server.caches? = some 0 ∧ server.cacheSets.length = 1
  /-- Clients have the numbers that they were opened with. -/
  serial : ∀ {number : Nat} {client : Client}, server.clients[number]? = some client →
    client.serial = number
  /-- The client in use is the one that is open. -/
  client : ∀ number, server.client? = some number ↔
    ∃ client, server.clients[number]? = some client ∧ client.isOpen = true
  /-- The tools work with the client and the caches in use. -/
  tools : ∀ {handle : Handle}, server.tools? = some handle →
    server.client? = some handle.client ∧ server.caches? = some handle.caches

theorem Unstarted.coherent (h : server.Unstarted) : server.Coherent where
  caches := .inl ⟨h.caches, h.cacheSets⟩
  serial hclient := by
    rw [h.clients] at hclient
    cases hclient
  client number := by
    rw [h.client, h.clients]
    constructor
    · intro heq; cases heq
    · rintro ⟨client, hclient, -⟩
      cases hclient
  tools htools := by
    rw [h.tools] at htools
    cases htools

namespace Coherent

/-- The client in use was not closed. -/
theorem not_closed (h : server.Coherent) (huse : server.client? = some number) :
    ¬ server.Closed number := by
  rintro ⟨client, hclient, hclosed⟩
  obtain ⟨used, hused, hopen⟩ := (h.client number).1 huse
  rw [hclient] at hused
  cases hused
  rw [hclosed] at hopen
  cases hopen

/-- Without a client there are no tools. -/
theorem tools_eq_none (h : server.Coherent) (hclient : server.client? = none) :
    server.tools? = none := by
  cases htools : server.tools? with
  | none => rfl
  | some handle =>
    have huse := (h.tools htools).1
    rw [hclient] at huse
    cases huse

/-- Without caches there are no tools. -/
theorem tools_eq_none_of_caches (h : server.Coherent) (hcaches : server.caches? = none) :
    server.tools? = none := by
  cases htools : server.tools? with
  | none => rfl
  | some handle =>
    have huse := (h.tools htools).2
    rw [hcaches] at huse
    cases huse

/-! ## What is made fits -/

/-- The elements of a list with one more at the end. -/
theorem getElem?_concat_eq_some_iff {clients : List Client} {client other : Client} :
    (clients ++ [client])[number]? = some other ↔
      clients[number]? = some other ∨ number = clients.length ∧ client = other := by
  rcases Nat.lt_trichotomy number clients.length with hlt | heq | hgt
  · rw [List.getElem?_append_left hlt]
    exact ⟨.inl, fun h => h.resolve_right fun hlast => absurd hlast.1 (Nat.ne_of_lt hlt)⟩
  · rw [heq, List.getElem?_concat_length, List.getElem?_eq_none (Nat.le_refl _), Option.some.injEq]
    exact ⟨fun h => .inr ⟨rfl, h⟩, fun h => (h.resolve_left nofun).2⟩
  · rw [List.getElem?_eq_none (by simp; omega), List.getElem?_eq_none (by omega)]
    exact ⟨nofun, fun h => absurd ((h.resolve_left nofun).1) (by omega)⟩

/-- A client that is opened when none is in use fits. -/
theorem withClient (h : server.Coherent) (hnone : server.client? = none) {client : Client}
    (hserial : client.serial = server.clients.length) (hopen : client.isOpen = true) :
    (server.withClient client).Coherent where
  caches := h.caches
  serial hother := by
    rcases getElem?_concat_eq_some_iff.1 hother with hother | ⟨rfl, rfl⟩
    · exact h.serial hother
    · exact hserial
  client number := by
    constructor
    · rintro ⟨⟩
      exact ⟨client, getElem?_concat_eq_some_iff.2 (.inr ⟨rfl, rfl⟩), hopen⟩
    · rintro ⟨other, hother, hotherOpen⟩
      rcases getElem?_concat_eq_some_iff.1 hother with hother | ⟨rfl, rfl⟩
      · -- an open client would have been in use
        have huse := (h.client number).2 ⟨other, hother, hotherOpen⟩
        rw [hnone] at huse
        cases huse
      · rfl
  tools htools := by
    have hnotools := h.tools_eq_none hnone
    cases hnotools.symm.trans htools

/-- Caches that are made fit. -/
theorem withCaches (h : server.Coherent) : server.withCaches.Coherent := by
  rw [Server.withCaches]
  cases hcaches : server.caches? with
  | some number => exact h
  | none =>
    have hsets : server.cacheSets = [] := by
      rcases h.caches with ⟨-, hsets⟩ | ⟨hzero, -⟩
      · exact hsets
      · cases hcaches.symm.trans hzero
    exact {
      caches := .inr ⟨by simp only [hsets, List.length_nil], by simp only [hsets]; rfl⟩
      serial := h.serial
      client := h.client
      tools := fun htools => by cases (h.tools_eq_none_of_caches hcaches).symm.trans htools }

/-- What making caches leaves alone. -/
theorem withCaches_eq (server : Server) :
    server.withCaches.client? = server.client? ∧ server.withCaches.clients = server.clients ∧
      server.withCaches.exchanges = server.exchanges ∧
      server.withCaches.caches? = some server.cachesNumber := by
  rw [Server.withCaches, cachesNumber]
  cases hcaches : server.caches? with
  | none => exact ⟨rfl, rfl, rfl, rfl⟩
  | some number => exact ⟨rfl, rfl, rfl, hcaches⟩

/-- Tools for the client in use fit. -/
theorem withTools (h : server.Coherent) (huse : server.client? = some number) :
    (server.withTools number).Coherent := by
  obtain ⟨hclient, -, -, hcaches⟩ := withCaches_eq server
  have hready := h.withCaches
  exact {
    caches := hready.caches
    serial := hready.serial
    client := hready.client
    tools := fun htools => by
      cases htools
      exact ⟨hclient.trans huse, hcaches⟩ }

end Coherent

/-- Two servers that have the same in use: their clients differ at most in the
user that they remember. -/
structure SameUse (server after : Server) : Prop where
  clients : after.clients.map Client.forgetful = server.clients.map Client.forgetful
  cacheSets : after.cacheSets.length = server.cacheSets.length
  client : after.client? = server.client?
  caches : after.caches? = server.caches?
  tools : after.tools? = server.tools?

namespace SameUse

theorem symm (h : SameUse server after) : SameUse after server :=
  ⟨h.clients.symm, h.cacheSets.symm, h.client.symm, h.caches.symm, h.tools.symm⟩

/-- Every client is one of before, but for the user. -/
theorem exists_client (h : SameUse server after) {client : Client}
    (hclient : after.clients[number]? = some client) :
    ∃ former, server.clients[number]? = some former ∧ former.serial = client.serial ∧
      former.isOpen = client.isOpen := by
  have hmap := congrArg (fun clients => clients[number]?) h.clients
  rw [List.getElem?_map, List.getElem?_map, hclient] at hmap
  obtain ⟨former, hformer, heq⟩ := Option.map_eq_some_iff.1 hmap.symm
  have hserial : former.forgetful.serial = client.forgetful.serial := congrArg Client.serial heq
  have hopen : former.forgetful.isOpen = client.forgetful.isOpen := congrArg Client.isOpen heq
  exact ⟨former, hformer, hserial, hopen⟩

theorem closed (h : SameUse server after) (hclosed : server.Closed number) :
    after.Closed number := by
  obtain ⟨client, hclient, hshut⟩ := hclosed
  obtain ⟨later, hlater, -, hopen⟩ := h.symm.exists_client hclient
  exact ⟨later, hlater, hopen.trans hshut⟩

theorem coherent (h : SameUse server after) (hserver : server.Coherent) : after.Coherent where
  caches := by
    rw [h.caches]
    refine hserver.caches.imp (fun hnone => ⟨hnone.1, ?_⟩) fun hone => ⟨hone.1, ?_⟩
    · exact List.eq_nil_of_length_eq_zero (by rw [h.cacheSets, hnone.2]; rfl)
    · rw [h.cacheSets, hone.2]
  serial hclient := by
    obtain ⟨former, hformer, hserial, -⟩ := h.exists_client hclient
    rw [← hserial]
    exact hserver.serial hformer
  client number := by
    rw [h.client, hserver.client number]
    constructor
    · rintro ⟨client, hclient, hopen⟩
      obtain ⟨later, hlater, -, hsame⟩ := h.symm.exists_client hclient
      exact ⟨later, hlater, hsame.trans hopen⟩
    · rintro ⟨client, hclient, hopen⟩
      obtain ⟨former, hformer, -, hsame⟩ := h.exists_client hclient
      exact ⟨former, hformer, hsame.trans hopen⟩
  tools htools := by
    rw [h.client, h.caches]
    exact hserver.tools (h.tools ▸ htools)

end SameUse

/-! ## How a coherent server goes on -/

/-- Whether a server has gone on as it should: it is coherent, what was closed
stays closed, and what was sent meanwhile went through the client in use. -/
structure Follows (server after : Server) : Prop where
  coherent : after.Coherent
  closed : ∀ {number}, server.Closed number → after.Closed number
  sent : ∃ received, after.exchanges = server.exchanges ++ received ∧
    ∀ exchange ∈ received, after.client? = some exchange.client

namespace Follows

/-- What sends nothing. -/
theorem of_exchanges_eq (hcoherent : after.Coherent)
    (hclosed : ∀ {number}, server.Closed number → after.Closed number)
    (hexchanges : after.exchanges = server.exchanges) : Follows server after :=
  ⟨hcoherent, hclosed, [], by rw [hexchanges, List.append_nil],
    fun _ h => absurd h List.not_mem_nil⟩

theorem refl (h : server.Coherent) : Follows server server := of_exchanges_eq h id rfl

/-- What goes on after something that sent nothing. -/
theorem trans (h : Follows server middle) (hexchanges : middle.exchanges = server.exchanges)
    (h' : Follows middle after) : Follows server after := by
  obtain ⟨received, hreceived, hsent⟩ := h'.sent
  exact ⟨h'.coherent, fun hclosed => h'.closed (h.closed hclosed), received,
    by rw [hreceived, hexchanges], hsent⟩

end Follows

/-- Opening a client when none is in use. -/
theorem follows_withClient (h : server.Coherent) (hnone : server.client? = none)
    {client : Client} (hserial : client.serial = server.clients.length)
    (hopen : client.isOpen = true) : Follows server (server.withClient client) := by
  refine .of_exchanges_eq (h.withClient hnone hserial hopen) ?_ rfl
  rintro number ⟨other, hother, hclosed⟩
  exact ⟨other, Coherent.getElem?_concat_eq_some_iff.2 (.inl hother), hclosed⟩

/-- A client that is needed is in use, unless it cannot be opened. -/
theorem follows_getClient (h : server.Coherent) (remote : Remote) :
    Follows server (getClient remote server).2 := by
  cases hclient : server.client? with
  | some number =>
    rw [getClient_of_some hclient]
    exact .refl h
  | none =>
    cases hconnect : connect server.clients.length server.environment with
    | error fault =>
      rw [getClient_of_error hclient hconnect]
      exact .refl h
    | ok client =>
      rw [getClient_of_ok hclient hconnect]
      obtain ⟨-, -, hserial, hopen, -⟩ := of_connect hconnect
      exact follows_withClient h hclient hserial hopen

theorem follows_getCaches (h : server.Coherent) (remote : Remote) :
    Follows server (getCaches remote server).2 := by
  rw [getCaches_apply]
  obtain ⟨-, hclients, hexchanges, -⟩ := Coherent.withCaches_eq server
  refine .of_exchanges_eq h.withCaches ?_ hexchanges
  rintro number ⟨client, hclient, hclosed⟩
  exact ⟨client, hclients ▸ hclient, hclosed⟩

theorem follows_withTools (h : server.Coherent) (huse : server.client? = some number) :
    Follows server (server.withTools number) := by
  obtain ⟨-, hclients, hexchanges, -⟩ := Coherent.withCaches_eq server
  refine .of_exchanges_eq (h.withTools huse) ?_ hexchanges
  rintro number ⟨client, hclient, hclosed⟩
  have hready : server.withCaches.clients[number]? = some client := hclients ▸ hclient
  exact ⟨client, hready, hclosed⟩

/-- **Tools that are needed are for what is in use.** -/
theorem follows_getTools (h : server.Coherent) (remote : Remote) :
    Follows server (getTools remote server).2 := by
  cases htools : server.tools? with
  | some handle =>
    rw [getTools_of_some htools]
    exact .refl h
  | none =>
    cases hclient : server.client? with
    | some number =>
      rw [getTools_of_getClient htools (getClient_of_some hclient)]
      exact follows_withTools h hclient
    | none =>
      cases hconnect : connect server.clients.length server.environment with
      | error fault =>
        rw [getTools_of_error htools (getClient_of_error hclient hconnect)]
        exact .refl h
      | ok client =>
        rw [getTools_of_getClient htools (getClient_of_ok hclient hconnect)]
        obtain ⟨-, -, hserial, hopen, -⟩ := of_connect hconnect
        have hready := follows_withClient h hclient hserial hopen
        exact hready.trans rfl (follows_withTools hready.coherent rfl)

/-- The client of a session is the one that the handle names. -/
theorem client_of_session? {handle : Handle} {s : Session} (h : server.session? handle = some s) :
    server.clients[handle.client]? = some s.client := by
  obtain ⟨client, hclient, h⟩ := Option.bind_eq_some_iff.1 h
  obtain ⟨caches, -, h⟩ := Option.bind_eq_some_iff.1 h
  cases h
  exact hclient

/-- Putting back a session changes at most what its client remembers of the
user. -/
theorem sameUse_restore {handle : Handle} {s t : Session} (hs : server.session? handle = some s)
    (hclient : t.client = { s.client with currentUser := t.client.currentUser }) :
    SameUse server (server.restore handle t) := by
  refine ⟨?_, List.length_set, rfl, rfl, rfl⟩
  obtain ⟨hlt, heq⟩ := List.getElem?_eq_some_iff.1 (client_of_session? hs)
  have hforget : t.client.forgetful = server.clients[handle.client].forgetful := by
    rw [hclient, heq]
    rfl
  have hlt : handle.client < (server.clients.map Client.forgetful).length := by
    rwa [List.length_map]
  show (server.clients.set handle.client t.client).map Client.forgetful = _
  rw [List.map_set, hforget, ← List.getElem_map Client.forgetful (h := hlt), List.set_getElem_self]

/-- **Work goes through the client in use or sends nothing.** -/
theorem follows_within {α : Type} {work : Action α} (h : server.Coherent)
    (hwork : Action.Uses (fun _ => True) work) (handle : Handle) (remote : Remote) :
    Follows server (within handle work remote server).2 := by
  rw [within]
  cases hs : server.session? handle with
  | none => exact .refl h
  | some s =>
    have hsteps := hwork remote s
    have hsame := sameUse_restore hs hsteps.client_eq
    obtain ⟨received, hreceived, hsent⟩ := hsteps.exists_received
    rw [(of_session? hs).2.2] at hreceived
    refine ⟨hsame.coherent h, hsame.closed, received, hreceived, fun exchange he => ?_⟩
    obtain ⟨hserial, -, hopen⟩ := hsent exchange he
    have hclient := client_of_session? hs
    rw [hsame.client, hserial, h.serial hclient]
    exact (h.client handle.client).2 ⟨s.client, hclient, hopen⟩

theorem follows_perform {tool : Tool} (h : server.Coherent) (htool : tool ∈ Tool.all)
    (args : Arguments) (remote : Remote) :
    Follows server (perform tool.work args remote server).2 := by
  have huses := Tool.uses_anything htool
  rw [Tool.Uses] at huses
  cases hwork : tool.work with
  | health =>
    have hready := follows_getCaches h remote
    rw [getCaches_apply] at hready
    rw [perform, health, Run.bind_of_ok _ getCaches_apply]
    exact hready
  | session run =>
    rw [hwork] at huses
    have hready := follows_getTools h remote
    rw [perform, Run.bind_apply]
    rcases htools : getTools remote server with ⟨_ | handle, ready⟩
    · rw [htools] at hready
      exact hready
    · have hexchanges := (idle_getTools remote server).exchanges
      rw [htools] at hready hexchanges
      exact hready.trans hexchanges (follows_within hready.coherent (huses args) handle remote)

theorem follows_call (h : server.Coherent) (name : String) (given : Table String Value)
    (remote : Remote) : Follows server (server.call remote name given).2 := by
  rw [call]
  split
  · exact .refl h
  · next tool htool =>
    split
    · exact .refl h
    · next args hargs =>
      have hmem : tool ∈ Tool.all :=
        (List.mem_filter.1 (List.mem_of_find?_eq_some htool)).1
      exact follows_perform h hmem args remote

/-! ## Shutting down -/

/-- What a shutdown does: it closes the client in use and forgets it together
with the tools, and leaves everything else. -/
structure ShutsDown (server after : Server) : Prop where
  client : after.client? = none
  tools : after.tools? = none
  /-- The client in use is closed. -/
  closes : ∀ {number}, server.client? = some number → after.Closed number
  caches : after.caches? = server.caches?
  cacheSets : after.cacheSets = server.cacheSets
  exchanges : after.exchanges = server.exchanges
  environment : after.environment = server.environment

/-- Of all clients a shutdown changes the one in use, which it closes. -/
theorem clients_shutdown (server : Server) (number : Nat) :
    server.shutdown.clients[number]? = (server.clients[number]?).map fun client =>
      if server.client? = some number then { client with isOpen := false } else client := by
  rw [shutdown]
  cases server.client? with
  | none =>
    cases server.clients[number]? with
    | none => rfl
    | some client => rfl
  | some used =>
    show (server.clients.modify used _)[number]? = _
    rw [List.getElem?_modify]
    simp only [Option.some.injEq]
    rfl

theorem shutsDown (h : server.Coherent) : ShutsDown server server.shutdown where
  client := rfl
  tools := rfl
  closes {number} huse := by
    obtain ⟨client, hclient, -⟩ := (h.client number).1 huse
    rw [Closed, clients_shutdown, hclient, Option.map_some, if_pos huse]
    exact ⟨_, rfl, rfl⟩
  caches := by rw [shutdown]; cases server.client? <;> rfl
  cacheSets := by rw [shutdown]; cases server.client? <;> rfl
  exchanges := by rw [shutdown]; cases server.client? <;> rfl
  environment := by rw [shutdown]; cases server.client? <;> rfl

/-- **After a shutdown every client is closed.** -/
theorem follows_shutdown (h : server.Coherent) : Follows server server.shutdown := by
  have hdown := shutsDown h
  refine .of_exchanges_eq ?_ ?_ hdown.exchanges
  · refine ⟨?_, ?_, ?_, nofun⟩
    · rw [hdown.caches, hdown.cacheSets]
      exact h.caches
    · intro number client hclient
      rw [clients_shutdown] at hclient
      obtain ⟨former, hformer, rfl⟩ := Option.map_eq_some_iff.1 hclient
      have hserial := h.serial hformer
      split
      · exact hserial
      · exact hserial
    · intro number
      rw [hdown.client, clients_shutdown]
      constructor
      · nofun
      · rintro ⟨client, hclient, hopen⟩
        obtain ⟨former, hformer, rfl⟩ := Option.map_eq_some_iff.1 hclient
        split at hopen
        · cases hopen
        · next hother => exact absurd ((h.client number).2 ⟨former, hformer, hopen⟩) hother
  · rintro number ⟨client, hclient, hclosed⟩
    rw [Closed, clients_shutdown, hclient, Option.map_some]
    refine ⟨_, rfl, ?_⟩
    split
    · rfl
    · exact hclosed

/-! ## Whole runs -/

/-- **Every operation keeps a coherent server coherent**, reopens nothing and
sends through the client in use only. -/
theorem Operation.follows (h : server.Coherent) (operation : Operation) (remote : Remote) :
    Follows server (operation.apply remote server) := by
  cases operation with
  | call name given => exact follows_call h name given remote
  | perform tool htool args => exact follows_perform h htool args remote
  | work handle job => exact follows_within h job.uses_anything handle remote
  | getClient => exact follows_getClient h remote
  | getCaches => exact follows_getCaches h remote
  | getTools => exact follows_getTools h remote
  | shutdown => exact follows_shutdown h
  | setClock now =>
    exact .of_exchanges_eq ⟨h.caches, h.serial, h.client, h.tools⟩ id rfl
  | setEnvironment environment =>
    exact .of_exchanges_eq ⟨h.caches, h.serial, h.client, h.tools⟩ id rfl

/-- **A whole run keeps a coherent server coherent** and sends through no client
that was closed before it. -/
theorem follows_runAll (h : server.Coherent) (remote : Remote) (operations : List Operation) :
    (server.runAll remote operations).Coherent ∧
      ∃ received, (server.runAll remote operations).exchanges = server.exchanges ++ received ∧
        ∀ exchange ∈ received, ¬ server.Closed exchange.client := by
  induction operations generalizing server with
  | nil => exact ⟨h, [], (List.append_nil _).symm, fun _ he => absurd he List.not_mem_nil⟩
  | cons operation rest ih =>
    have hstep := Operation.follows h operation remote
    obtain ⟨first, hfirst, hsent⟩ := hstep.sent
    obtain ⟨hcoherent, second, hsecond, hlater⟩ := ih hstep.coherent
    refine ⟨hcoherent, first ++ second, ?_, fun exchange he hclosed => ?_⟩
    · rw [← List.append_assoc, ← hfirst]
      exact hsecond
    -- what is closed stays closed, and the client in use is not
    rcases List.mem_append.1 he with he | he
    · exact hstep.coherent.not_closed (hsent exchange he) (hstep.closed hclosed)
    · exact hlater exchange he (hstep.closed hclosed)

/-! ## The next need -/

/-- Whether every need of a client is refused, with the server left as it is. -/
structure Refuses (remote : Remote) (server : Server) (fault : Fault) : Prop where
  getClient_eq : getClient remote server = (.error fault, server)
  getTools_eq : getTools remote server = (.error fault, server)
  /-- So is every call of a tool that works with a client. -/
  call : ∀ {name given tool args run}, Tool.find? server.readOnly name = some tool →
    Arguments.bind? tool.parameters given = some args → tool.work = .session run →
      server.call remote name given = (.error (.failed name fault), server)

/-- Whether a client that is needed is opened: one with a number of its own that
knows no current user. -/
structure Opens (remote : Remote) (server : Server) (client : Client) : Prop where
  serial : client.serial = server.clients.length
  isOpen : client.isOpen = true
  unknown : client.currentUser = .null
  getClient_eq : getClient remote server = (.ok client.serial, server.withClient client)
  /-- Tools that are needed are for this client and the caches in use. -/
  getTools_eq : getTools remote server =
    (.ok ⟨client.serial, (server.withClient client).cachesNumber⟩,
      (server.withClient client).withTools client.serial)
  /-- Nothing that was cached is lost. -/
  caches : ∀ number kind, ((server.withClient client).withTools client.serial).cacheAt number kind =
    server.cacheAt number kind
  /-- A tool that works with a client does its work with this one. -/
  call : ∀ {tool : Tool} {args run}, tool.work = .session run →
    perform tool.work args remote server =
      within ⟨client.serial, (server.withClient client).cachesNumber⟩ (run args) remote
        ((server.withClient client).withTools client.serial)

/-- What becomes of the next need of a client when none is in use. -/
structure StartsAnew (remote : Remote) (server : Server) : Prop where
  /-- Without a token it is refused for that. -/
  unset : tokenOf server.environment = "" → Refuses remote server (.refused .tokenUnset)
  /-- With a token and settings that can be used a client is opened. -/
  opens : tokenOf server.environment ≠ "" → Usable server.environment →
    ∃ client, Opens remote server client
  /-- With settings that cannot be used it is refused for another reason. -/
  unusable : tokenOf server.environment ≠ "" → ¬ Usable server.environment →
    ∃ fault, fault ≠ .refused .tokenUnset ∧ Refuses remote server fault

theorem refuses (h : server.Coherent) (hnone : server.client? = none) {fault : Fault}
    (hconnect : connect server.clients.length server.environment = .error fault)
    (remote : Remote) : Refuses remote server fault := by
  have hclient : getClient remote server = (.error fault, server) :=
    getClient_of_error hnone hconnect
  have htools := getTools_of_error (h.tools_eq_none hnone) hclient
  refine ⟨hclient, htools, ?_⟩
  intro name given tool args run hfind hbind hwork
  simp only [Server.call, hfind, hbind, hwork, perform, Run.bind_apply, htools]
  rfl

theorem opens (h : server.Coherent) (hnone : server.client? = none) {client : Client}
    (hconnect : connect server.clients.length server.environment = .ok client)
    (remote : Remote) : Opens remote server client := by
  obtain ⟨-, -, hserial, hopen, hunknown⟩ := of_connect hconnect
  have hclient : getClient remote server = (.ok server.clients.length, server.withClient client) :=
    getClient_of_ok hnone hconnect
  have htools := getTools_of_getClient (h.tools_eq_none hnone) hclient
  have hidle := (idle_getTools remote server).caches
  rw [htools] at hidle
  rw [← hserial] at hclient htools hidle
  refine ⟨hserial, hopen, hunknown, hclient, htools, hidle, ?_⟩
  intro tool args run hwork
  rw [hwork, perform, Run.bind_of_ok _ htools]

/-- **With no client in use the next need starts anew.** -/
theorem startsAnew (h : server.Coherent) (hnone : server.client? = none) (remote : Remote) :
    StartsAnew remote server where
  unset htoken := refuses h hnone (connect_eq_tokenUnset_iff.2 htoken) remote
  opens htoken husable := by
    obtain ⟨client, hconnect⟩ := exists_connect_iff.2 ⟨htoken, husable⟩
    exact ⟨client, Server.opens h hnone hconnect remote⟩
  unusable htoken hunusable := by
    cases hconnect : connect server.clients.length server.environment with
    | ok client => exact absurd (of_connect hconnect).2.1 hunusable
    | error fault =>
      refine ⟨fault, ?_, refuses h hnone hconnect remote⟩
      rintro rfl
      exact htoken (connect_eq_tokenUnset_iff.1 hconnect)

/-- **What a server has in use fits together.** After any operations, from a
server that has started nothing, tools are for the client and the one set of
caches in use; each further operation sends through the client in use only, and
however things go on nothing is sent through a client that was closed before. A
shutdown forgets the client and the tools and no more. While no client is in use
the next need opens one that knows no current user, or is refused, for the
missing token or for the settings, with the server left as it is. -/
theorem singletons_stay_coherent {start before : Server} (hstart : start.Unstarted)
    {remote : Remote} {operations : List Operation}
    (hrun : start.runAll remote operations = before) :
    before.Coherent ∧
    (∀ operation : Operation, Follows before (operation.apply remote before)) ∧
    (∀ later, ∃ received,
      (before.runAll remote later).exchanges = before.exchanges ++ received ∧
        ∀ exchange ∈ received, ¬ before.Closed exchange.client) ∧
    ShutsDown before before.shutdown ∧
    (before.client? = none → StartsAnew remote before) := by
  have hcoherent := (follows_runAll hstart.coherent remote operations).1
  rw [hrun] at hcoherent
  exact ⟨hcoherent, fun operation => Operation.follows hcoherent operation remote,
    fun later => (follows_runAll hcoherent remote later).2, shutsDown hcoherent,
    fun hnone => startsAnew hcoherent hnone remote⟩

/-! ### A server with a token -/

namespace Sample

/-- A server that has a token and has started nothing. -/
def withToken (token : String) : Server where
  environment := [("SHORTCUT_API_TOKEN", token)]

end Sample

/-- Tools that are needed after a shutdown are for a second client. -/
theorem reopened_after_shutdown :
    (Sample.withToken "secret").Unstarted ∧
      ∃ client, client.serial = 1 ∧ Opens Sample.lister
        ((Sample.withToken "secret").runAll Sample.lister [.getTools, .shutdown]) client := by
  have hstart : (Sample.withToken "secret").Unstarted := ⟨rfl, rfl, rfl, rfl, rfl⟩
  have hrun : (Sample.withToken "secret").runAll Sample.lister [.getTools, .shutdown] =
      (Sample.withToken "secret").runAll Sample.lister [.getTools, .shutdown] := rfl
  obtain ⟨-, -, -, -, hanew⟩ := singletons_stay_coherent hstart hrun
  have husable : Usable (Sample.withToken "secret").environment := usable_of_defaults rfl rfl rfl
  obtain ⟨client, hopens⟩ := (hanew rfl).opens (by decide) husable
  exact ⟨hstart, client, hopens.serial, hopens⟩

/-- **A token is not enough.** One that is no ASCII text cannot be sent, and
after a shutdown the need of tools fails for it, although a token is set. -/
theorem unsendable_token_opens_nothing :
    (Sample.withToken "é").Unstarted ∧
      tokenOf ((Sample.withToken "é").runAll Sample.lister [.shutdown]).environment ≠ "" ∧
      getTools Sample.lister ((Sample.withToken "é").runAll Sample.lister [.shutdown]) =
        (.error (.notAscii "é"), (Sample.withToken "é").runAll Sample.lister [.shutdown]) :=
  ⟨⟨rfl, rfl, rfl, rfl, rfl⟩, by decide, rfl⟩

end Server

end Backlog
