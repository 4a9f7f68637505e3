import Backlog.Proofs.ServerRun
/-!
# Calling a tool

What a call of a tool that reports does is what its work does in the session of
the server (`Server.call_reporting`).
-/

namespace Backlog

namespace Server

variable {remote : Remote} {server ready : Server} {handle : Handle}

/-- A session that is put back as it was changes nothing. -/
theorem restore_self {s : Session} (h : server.session? handle = some s) :
    server.restore handle s = server := by
  obtain ⟨client, hclient, h⟩ := Option.bind_eq_some_iff.1 h
  obtain ⟨caches, hcaches, h⟩ := Option.bind_eq_some_iff.1 h
  cases h
  obtain ⟨hclientLt, hclient⟩ := List.getElem?_eq_some_iff.1 hclient
  obtain ⟨hcachesLt, hcaches⟩ := List.getElem?_eq_some_iff.1 hcaches
  rw [restore, ← hclient, ← hcaches, List.set_getElem_self, List.set_getElem_self]

/-- **What a call of a tool that reports does** is what its work does in the session
of the server. -/
theorem call_reporting {name : String} {tool : Tool} {run : Arguments → Action String}
    (hfind : Tool.find? server.readOnly name = some tool) (hwork : tool.work = Tool.reporting run)
    {given : Table String Value} {args : Arguments}
    (hargs : Arguments.bind? tool.parameters given = some args)
    (htools : getTools remote server = (.ok handle, ready)) {s t : Session}
    (hs : ready.session? handle = some s) {result : Except Fault String}
    (hrun : run args remote s = (result, t)) :
    server.call remote name given =
      ((result.map .text).mapError (.failed name), ready.restore handle t) := by
  have hperform : perform tool.work args remote server =
      (result.map .text, ready.restore handle t) := by
    rw [hwork, Tool.reporting, perform, Run.bind_of_ok _ htools, within, hs]
    dsimp only
    rw [Run.bind_apply, hrun]
    cases result <;> rfl
  rw [call, hfind]
  dsimp only
  rw [hargs]
  dsimp only
  rw [hperform]
  cases result <;> rfl

/-! ### A server that is ready -/

namespace Sample

/-- A server whose tools are ready. -/
def prepared : Server :=
  { opened with client? := some 0, caches? := some 0, tools? := some ⟨0, 0⟩ }

theorem tools_prepared (remote : Remote) :
    getTools remote prepared = (.ok ⟨0, 0⟩, prepared) := rfl

/-- The session that the tools of the server work in. -/
def session : Session := (prepared.session? ⟨0, 0⟩).get rfl

theorem session_prepared : prepared.session? ⟨0, 0⟩ = some session := rfl

end Sample

end Server

end Backlog
