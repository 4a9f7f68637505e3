import Backlog.Proofs.Sending
/-!
# Reading only

A read-only server offers the tools that are not marked as writing. Whatever
these are called with, and whatever the tracker replies, they send reading
requests only: an operation that reads (`Server.Operation.Reads`) sends
nothing else (`Server.Operation.sends_gets`), and so does every run of such
operations, from any state of the server.
-/

namespace Backlog

namespace Server

/-- Whether every request among some exchanges is a reading one. -/
def AllGets (sent : List Http.Exchange) : Prop := ∀ exchange ∈ sent, exchange.request.method = .get

theorem allGets_nil : AllGets [] := fun _ he => absurd he List.not_mem_nil

theorem AllGets.append {sent others : List Http.Exchange} (h : AllGets sent)
    (h' : AllGets others) : AllGets (sent ++ others) := by
  intro exchange he
  rcases List.mem_append.1 he with he | he
  · exact h exchange he
  · exact h' exchange he

/-- Whether a deed changes nothing in the tracker. -/
def Reading : Session.Deed → Prop
  | .send method => method = .get
  | .remember => True

theorem reading_get : Reading (.send .get) := rfl

/-- Work that needs no method but that for reading sends reading requests. -/
theorem exists_gets_of_uses {α : Type} {work : Action α} (h : Action.Uses Reading work)
    (remote : Remote) (s : Session) :
    ∃ sent, (work remote s).2.exchanges = s.exchanges ++ sent ∧ AllGets sent := by
  obtain ⟨sent, hsent, hmay⟩ := (h remote s).exists_received
  exact ⟨sent, hsent, fun exchange he => (hmay exchange he).2.1⟩

/-- The tools that a read-only server offers are those not marked as
writing. -/
theorem mem_offered_readOnly {tool : Tool} :
    tool ∈ Tool.offered true ↔ tool ∈ Tool.all ∧ tool.writes = false := by
  simp [Tool.offered]

/-- **A tool that a read-only server offers** sends reading requests only,
whatever it is called with. -/
theorem perform_sends_gets {tool : Tool} (h : tool ∈ Tool.offered true) (args : Arguments)
    (remote : Remote) (server : Server) :
    Sends AllGets server (perform tool.work args remote server).2 := by
  obtain ⟨hall, hreads⟩ := mem_offered_readOnly.1 h
  have hwrites : tool.writes = true → ∀ method, Reading (.send method) := by
    rw [hreads]
    exact fun hfalse => absurd hfalse Bool.false_ne_true
  have huses : tool.Uses Reading := Tool.uses_of_mem_all reading_get hall hwrites fun _ => trivial
  refine perform_sends allGets_nil args (fun run hrun s => ?_) server
  rw [Tool.Uses, hrun] at huses
  exact exists_gets_of_uses (huses args) remote s

/-- Whether an operation only reads: a call of a server that is read-only, or
of a name that only tools have which such a server offers; the work of such a
tool, with any arguments at all; a job that does not write; and all that does
not send. -/
def Operation.Reads (readOnly : Bool) : Operation → Prop
  | call name _ =>
    readOnly = true ∨ ∀ tool ∈ Tool.all, tool.name = name → tool ∈ Tool.offered true
  | perform tool _ _ => tool ∈ Tool.offered true
  | work _ job => job.writes = false
  | _ => True

/-- A call that only reads. -/
theorem call_sends_gets {name : String} {given : Table String Value} {server : Server}
    (h : (Operation.call name given).Reads server.readOnly) (remote : Remote) :
    Sends AllGets server (server.call remote name given).2 := by
  refine call_sends allGets_nil (fun tool htool hname args => ?_) given
  have hoffered : tool ∈ Tool.offered true := by
    rcases h with hreadOnly | hreads
    · rwa [hreadOnly] at htool
    · exact hreads tool (List.mem_filter.1 htool).1 hname
  exact perform_sends_gets hoffered args remote server

/-- **An operation that only reads** sends reading requests only. -/
theorem Operation.sends_gets {operation : Operation} {server : Server}
    (h : operation.Reads server.readOnly) (remote : Remote) :
    Sends AllGets server (operation.apply remote server) := by
  cases operation with
  | call name given => exact call_sends_gets h remote
  | perform tool htool args => exact perform_sends_gets h args remote server
  | work handle job =>
    have hreads : job.writes = false := h
    have hwrites : job.writes = true → ∀ method, Reading (.send method) := by
      rw [hreads]
      exact fun hfalse => absurd hfalse Bool.false_ne_true
    have huses := job.uses_run reading_get hwrites fun _ => trivial
    exact within_sends allGets_nil (exists_gets_of_uses huses remote) handle server
  | getClient =>
    obtain ⟨hexchanges, hreadOnly⟩ := idle_getClient.silent remote server
    exact .of_silent allGets_nil hexchanges hreadOnly
  | getCaches =>
    obtain ⟨hexchanges, hreadOnly⟩ := idle_getCaches.silent remote server
    exact .of_silent allGets_nil hexchanges hreadOnly
  | getTools =>
    obtain ⟨hexchanges, hreadOnly⟩ := idle_getTools.silent remote server
    exact .of_silent allGets_nil hexchanges hreadOnly
  | shutdown => exact shutdown_sends allGets_nil server
  | setClock now => exact .of_silent allGets_nil rfl rfl
  | setEnvironment environment => exact .of_silent allGets_nil rfl rfl

/-- **Reading tools never write.** A run of operations that only read, with any
arguments, from any state of the server and with any replies, sends reading
requests only. -/
theorem reading_sends_gets_only {start : Server} {operations : List Operation}
    (h : ∀ operation ∈ operations, operation.Reads start.readOnly) (remote : Remote) :
    ∃ sent, (start.runAll remote operations).exchanges = start.exchanges ++ sent ∧
      ∀ exchange ∈ sent, exchange.request.method = .get := by
  suffices hrun : Sends AllGets start (start.runAll remote operations) from hrun.2
  induction operations generalizing start with
  | nil => exact .of_silent allGets_nil rfl rfl
  | cons operation rest ih =>
    obtain ⟨hsame, first, hfirst, hgets⟩ :=
      Operation.sends_gets (h operation List.mem_cons_self) remote
    have hrest : ∀ other ∈ rest, other.Reads (operation.apply remote start).readOnly := by
      rw [hsame]
      exact fun other hother => h other (List.mem_cons_of_mem _ hother)
    obtain ⟨hsame', second, hsecond, hgets'⟩ := ih hrest
    refine ⟨hsame'.trans hsame, first ++ second, ?_, hgets.append hgets'⟩
    rw [← List.append_assoc, ← hfirst]
    exact hsecond

namespace Sample

/-- A read-only server whose tools work with a client and with caches. -/
def reader : Server := { opened with tools? := some ⟨0, 0⟩, readOnly := true }

/-- A list of all users, a shutdown, and a call of a tool that writes, which
the server does not offer. -/
def visit : List Operation :=
  [.call "users_list" [], .shutdown,
   .call "epics_create" [("name", .text "e"), ("team_id", .text "t")]]

end Sample

/-- The list of users is read, and nothing else is sent. -/
theorem reader_sends_one_get :
    (Sample.reader.runAll Sample.lister Sample.visit).exchanges.map (·.request.method) = [.get] ∧
      ∃ sent, (Sample.reader.runAll Sample.lister Sample.visit).exchanges =
        Sample.reader.exchanges ++ sent ∧ ∀ exchange ∈ sent, exchange.request.method = .get := by
  have hreads : ∀ operation ∈ Sample.visit, operation.Reads Sample.reader.readOnly := by
    intro operation hoperation
    rcases List.mem_cons.1 hoperation with rfl | hoperation
    · exact .inl rfl
    · rcases List.mem_cons.1 hoperation with rfl | hoperation
      · trivial
      · cases List.mem_singleton.1 hoperation
        exact .inl rfl
  exact ⟨by decide +kernel, reading_sends_gets_only hreads Sample.lister⟩

end Server

end Backlog
