import Backlog.Proofs.ServerRun
/-!
# Opening a client

What a server does when a client, caches or tools are needed, said one at a
time: what is there is used again, and what is not there is made. Only opening a
client can fail. It does without a token, and then for no other reason
(`Server.connect_eq_tokenUnset_iff`); with a token it goes well exactly when the
settings of the environment can be used (`Server.exists_connect_iff`). A failure
leaves the server as it was, so the next need tries again.
-/

namespace Backlog

namespace Server

variable {server : Server} {remote : Remote} {serial : Nat} {env : Environment}
  {client : Client} {fault : Fault}

/-! ## Settings -/

/-- Whether the settings of an environment can be used to open a client. -/
structure Usable (env : Environment) : Prop where
  /-- The time limit is a number. -/
  timeout : ∃ limit, Settings.timeoutOf env = .ok limit
  /-- The address is one, also with a slash at its end. -/
  address : ∃ url base,
    Http.Url.ofChars (Settings.withoutFinalSlashes (Settings.urlOf env)).toList = .ok url ∧
      url.withFinalSlash = .ok base
  /-- The token can stand in the head of a request. -/
  token : (tokenOf env).toList.all Http.Host.isAscii = true

/-- With a token a client is opened with the settings of the environment. -/
theorem connect_of_token (h : tokenOf env ≠ "") (serial : Nat) :
    connect serial env = (do
      let timeout ← Settings.timeoutOf env
      Client.connect serial
        ⟨.text (tokenOf env), Settings.withoutFinalSlashes (Settings.urlOf env), timeout⟩) := by
  have htruthy : (Value.text (tokenOf env)).truthy = true := bne_iff_ne.2 h
  rw [connect, if_neg h, Settings.resolve, htruthy]
  simp only [Settings.chooseTimeout]
  cases Settings.timeoutOf env with
  | error fault => rfl
  | ok timeout => rfl

/-- What is known of a client that was opened. -/
theorem of_connect (h : connect serial env = .ok client) :
    tokenOf env ≠ "" ∧ Usable env ∧ client.serial = serial ∧ client.isOpen = true ∧
      client.currentUser = .null := by
  by_cases htoken : tokenOf env = ""
  · rw [connect, if_pos htoken] at h
    cases h
  · rw [connect_of_token htoken] at h
    obtain ⟨timeout, htimeout, h⟩ := Except.bind_eq_ok.1 h
    obtain ⟨url, hurl, h⟩ := Except.bind_eq_ok.1 h
    obtain ⟨base, hbase, h⟩ := Except.bind_eq_ok.1 h
    obtain ⟨head, hhead, h⟩ := Except.bind_eq_ok.1 h
    cases h
    have hascii : (tokenOf env).toList.all Http.Host.isAscii = true := by
      rw [headText] at hhead
      split at hhead
      · assumption
      · cases hhead
    exact ⟨htoken, ⟨⟨timeout, htimeout⟩, ⟨url, base, Except.mapError_eq_ok_iff.1 hurl,
      Except.mapError_eq_ok_iff.1 hbase⟩, hascii⟩, rfl, rfl, rfl⟩

/-- **A client can be opened** with a token and settings that can be used. -/
theorem exists_connect_iff :
    (∃ client, connect serial env = .ok client) ↔ tokenOf env ≠ "" ∧ Usable env := by
  constructor
  · rintro ⟨client, h⟩
    obtain ⟨htoken, husable, -⟩ := of_connect h
    exact ⟨htoken, husable⟩
  · rintro ⟨htoken, ⟨timeout, htimeout⟩, ⟨url, base, hurl, hbase⟩, hascii⟩
    have hclient : Client.connect serial
        ⟨.text (tokenOf env), Settings.withoutFinalSlashes (Settings.urlOf env), timeout⟩ =
          .ok ⟨serial, ⟨.text (tokenOf env), Settings.withoutFinalSlashes (Settings.urlOf env),
            timeout⟩, tokenOf env, base, true, .null⟩ :=
      Except.bind_eq_ok.2 ⟨url, Except.mapError_eq_ok_iff.2 hurl,
        Except.bind_eq_ok.2 ⟨base, Except.mapError_eq_ok_iff.2 hbase,
          Except.bind_eq_ok.2 ⟨tokenOf env, if_pos hascii, rfl⟩⟩⟩
    rw [connect_of_token htoken]
    exact ⟨_, Except.bind_eq_ok.2 ⟨timeout, htimeout, hclient⟩⟩

/-- **The missing token is named exactly when no token is set.** -/
theorem connect_eq_tokenUnset_iff :
    connect serial env = .error (.refused .tokenUnset) ↔ tokenOf env = "" := by
  constructor
  · intro h
    by_contra htoken
    rw [connect_of_token htoken] at h
    rcases Except.bind_eq_error.1 h with h | ⟨timeout, -, h⟩
    · rw [Settings.timeoutOf] at h
      split at h
      · cases h
      · cases h
    rcases Except.bind_eq_error.1 h with h | ⟨url, -, h⟩
    · cases hurl : Http.Url.ofChars (Settings.withoutFinalSlashes (Settings.urlOf env)).toList with
      | error fault => rw [hurl] at h; cases h
      | ok url => rw [hurl] at h; cases h
    rcases Except.bind_eq_error.1 h with h | ⟨base, -, h⟩
    · cases hbase : url.withFinalSlash with
      | error fault => rw [hbase] at h; cases h
      | ok base => rw [hbase] at h; cases h
    rcases Except.bind_eq_error.1 h with h | ⟨head, -, h⟩
    · rw [headText] at h
      split at h
      · cases h
      · cases h
    · cases h
  · intro htoken
    rw [connect, if_pos htoken]

/-- The address and the time limit that are taken when nobody says otherwise can
be used. -/
theorem usable_of_defaults (hurl : env.get? "SHORTCUT_API_URL" = none)
    (htimeout : env.get? "SHORTCUT_HTTP_TIMEOUT_SECONDS" = none)
    (htoken : (tokenOf env).toList.all Http.Host.isAscii = true) : Usable env := by
  refine ⟨?_, ?_, htoken⟩
  · have hlimit : (Decimal.double? Settings.defaultTimeout).isSome = true := by decide +kernel
    obtain ⟨limit, hlimit⟩ := Option.isSome_iff_exists.1 hlimit
    rw [Settings.timeoutOf, htimeout, Option.getD_none, hlimit]
    exact ⟨_, rfl⟩
  · rw [Settings.urlOf, hurl, Option.getD_none]
    exact ⟨_, _, rfl, rfl⟩

/-! ## What is made when it is needed -/

/-- The server with one more client, which is in use. -/
def withClient (server : Server) (client : Client) : Server :=
  { server with clients := server.clients ++ [client], client? := some server.clients.length }

/-- The number of the caches that the server uses when it needs some. -/
def cachesNumber (server : Server) : Nat := server.caches?.getD server.cacheSets.length

/-- The server with caches in use. -/
def withCaches (server : Server) : Server :=
  match server.caches? with
  | some _ => server
  | none =>
    { server with cacheSets := server.cacheSets ++ [{}], caches? := some server.cacheSets.length }

/-- The server with tools for a client. -/
def withTools (server : Server) (client : Nat) : Server :=
  { server.withCaches with tools? := some ⟨client, server.cachesNumber⟩ }

theorem getClient_of_some {number : Nat} (h : server.client? = some number) :
    getClient remote server = (.ok number, server) := by
  simp only [getClient, Run.bind_apply, Run.state_apply, h]
  rfl

theorem getClient_of_error (h : server.client? = none)
    (hconnect : connect server.clients.length server.environment = .error fault) :
    getClient remote server = (.error fault, server) := by
  simp only [getClient, Run.bind_apply, Run.state_apply, h, Run.lift_apply, hconnect]

theorem getClient_of_ok (h : server.client? = none)
    (hconnect : connect server.clients.length server.environment = .ok client) :
    getClient remote server = (.ok server.clients.length, server.withClient client) := by
  simp only [getClient, Run.bind_apply, Run.state_apply, h, Run.lift_apply, hconnect]
  rfl

theorem getCaches_apply :
    getCaches remote server = (.ok server.cachesNumber, server.withCaches) := by
  simp only [getCaches, Run.bind_apply, Run.state_apply, cachesNumber, withCaches]
  cases server.caches? with
  | none => rfl
  | some number => rfl

theorem getTools_of_some {handle : Handle} (h : server.tools? = some handle) :
    getTools remote server = (.ok handle, server) := by
  simp only [getTools, Run.bind_apply, Run.state_apply, h]
  rfl

/-- Tools are for the client in use or the one that is opened for them. -/
theorem getTools_of_getClient {ready : Server} {number : Nat} (h : server.tools? = none)
    (hclient : getClient remote server = (.ok number, ready)) :
    getTools remote server = (.ok ⟨number, ready.cachesNumber⟩, ready.withTools number) := by
  simp only [getTools, Run.bind_apply, Run.state_apply, h, hclient, getCaches_apply]
  rfl

theorem getTools_of_error (h : server.tools? = none)
    (hclient : getClient remote server = (.error fault, server)) :
    getTools remote server = (.error fault, server) := by
  simp only [getTools, Run.bind_apply, Run.state_apply, h, hclient]

end Server

end Backlog
