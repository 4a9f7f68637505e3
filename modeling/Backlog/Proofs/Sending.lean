import Backlog.Proofs.ServerRun
/-!
# What a server sends

All that a server sends it sends while a tool works with the tracker, or
while the client or the resolver does a job: getting a client, caches and
tools sends nothing, and neither does a shutdown (`Server.Silent`). So what a
call sends is what the work of its tool sends in the session of the server
(`Server.perform_sends`, `Server.call_sends`), and what a run sends is what
its operations send, one after the other.
-/

namespace Backlog

namespace Server

/-- What is sent from one state of a server to a later one has a property, and
the server offers the same tools. -/
def Sends (allowed : List Http.Exchange → Prop) (server after : Server) : Prop :=
  after.readOnly = server.readOnly ∧
    ∃ sent, after.exchanges = server.exchanges ++ sent ∧ allowed sent

/-- Whether a run sends nothing, whatever comes of it. -/
def Silent {α : Type} (run : Run Server α) : Prop :=
  ∀ remote server, (run remote server).2.exchanges = server.exchanges ∧
    (run remote server).2.readOnly = server.readOnly

/-- An idle run sends nothing. -/
theorem Idle.silent {α : Type} {run : Run Server α} (h : Idle run) : Silent run :=
  fun remote server => ⟨(h remote server).exchanges, (h remote server).readOnly⟩

variable {allowed : List Http.Exchange → Prop} {remote : Remote} {server after : Server}

/-- A server that sends nothing. -/
theorem Sends.of_silent (hnone : allowed []) (hexchanges : after.exchanges = server.exchanges)
    (hreadOnly : after.readOnly = server.readOnly) : Sends allowed server after :=
  ⟨hreadOnly, [], by rw [hexchanges, List.append_nil], hnone⟩

/-- **Work through a handle** sends what the work sends in the session of the
handle. -/
theorem within_sends {α : Type} {work : Action α} (hnone : allowed [])
    (hwork : ∀ s, ∃ sent, (work remote s).2.exchanges = s.exchanges ++ sent ∧ allowed sent)
    (handle : Handle) (server : Server) :
    Sends allowed server (within handle work remote server).2 := by
  rw [within]
  cases hs : server.session? handle with
  | none => exact .of_silent hnone rfl rfl
  | some s =>
    obtain ⟨-, -, hexchanges⟩ := of_session? hs
    obtain ⟨sent, hsent, hallowed⟩ := hwork s
    rw [hexchanges] at hsent
    exact ⟨rfl, sent, hsent, hallowed⟩

/-- **What a tool sends** is what its work sends in a session. -/
theorem perform_sends {tool : Tool} (hnone : allowed []) (args : Arguments)
    (hwork : ∀ run, tool.work = .session run → ∀ s, ∃ sent,
      (run args remote s).2.exchanges = s.exchanges ++ sent ∧ allowed sent)
    (server : Server) : Sends allowed server (perform tool.work args remote server).2 := by
  cases hrun : tool.work with
  | health =>
    obtain ⟨hexchanges, hreadOnly⟩ := idle_health.silent remote server
    exact .of_silent hnone hexchanges hreadOnly
  | session run =>
    obtain ⟨hexchanges, hreadOnly⟩ := idle_getTools.silent remote server
    rw [perform, Run.bind_apply]
    -- a tool without tools to work with has sent nothing
    rcases htools : getTools remote server with ⟨_ | handle, middle⟩
    · rw [htools] at hexchanges hreadOnly
      exact .of_silent hnone hexchanges hreadOnly
    · rw [htools] at hexchanges hreadOnly
      obtain ⟨hsame, sent, hsent, hallowed⟩ := within_sends hnone (hwork run hrun) handle middle
      exact ⟨hsame.trans hreadOnly, sent, by rw [hsent, hexchanges], hallowed⟩

/-- **What a call sends** is what the tool of the name sends, if the server
offers one and it takes the arguments. -/
theorem call_sends {name : String} (hnone : allowed [])
    (hwork : ∀ tool ∈ Tool.offered server.readOnly, tool.name = name → ∀ args,
      Sends allowed server (perform tool.work args remote server).2)
    (given : Table String Value) : Sends allowed server (server.call remote name given).2 := by
  rw [call]
  split
  · exact .of_silent hnone rfl rfl
  · next tool htool =>
    split
    · exact .of_silent hnone rfl rfl
    · next args hargs =>
      have hname : tool.name = name := by simpa using List.find?_some htool
      exact hwork tool (List.mem_of_find?_eq_some htool) hname args

theorem shutdown_sends (hnone : allowed []) (server : Server) :
    Sends allowed server server.shutdown := by
  rw [shutdown]
  cases server.client? with
  | none => exact .of_silent hnone rfl rfl
  | some serial => exact .of_silent hnone rfl rfl

end Server

end Backlog
