import Backlog.Proofs.Http.Base
import Backlog.Proofs.Request
/-!
# Where requests for an entity go

The id of an entity is put behind the path of its kind as it is written, and the text is
read again when the address is made. A client that is opened puts paths behind a base
address (`Api.isBase_of_connect`), where an id stays in its place only if it is one segment
as it is written. So with some ids a request leads away from its entity
(`Api.entity_request_stays_iff`, `Api.dotted_id_leads_away`), though not from its host.
-/

namespace Backlog

namespace Api

open Http.Url (IsBase IsWord SelfContained segmentOf)

/-- What a client is opened with: the address in its settings, with a slash at the end. -/
theorem exists_read_of_connect {serial : Nat} {settings : Settings} {client : Client}
    (h : Client.connect serial settings = .ok client) :
    ∃ url, Http.Url.ofChars settings.baseUrl.toList = .ok url ∧
      url.withFinalSlash = .ok client.base := by
  obtain ⟨url, hurl, h⟩ := Except.bind_eq_ok.1 h
  obtain ⟨base, hbase, h⟩ := Except.bind_eq_ok.1 h
  obtain ⟨token, -, h⟩ := Except.bind_eq_ok.1 h
  cases h
  exact ⟨url, Except.mapError_eq_ok_iff.1 hurl, Except.mapError_eq_ok_iff.1 hbase⟩

/-- What a client is opened with, it puts paths behind. -/
theorem isBase_of_connect {serial : Nat} {settings : Settings} {client : Client}
    (h : Client.connect serial settings = .ok client) (hscheme : client.base.scheme ≠ [])
    (hquery : client.base.query = none) : IsBase client.base := by
  obtain ⟨url, hurl, hbase⟩ := exists_read_of_connect h
  exact Http.Url.isBase_of_withFinalSlash hurl hbase hscheme hquery

/-- Where a path leads, behind the base address of a client. -/
theorem of_address {client : Client} {path : String} {url : Http.Url}
    (h : address client path [] = .ok url) :
    ∃ reference, Http.Url.ofChars path.toList = .ok reference ∧
      client.base.append reference = .ok url := by
  obtain ⟨reference, hreference, h⟩ := Except.bind_eq_ok.1 h
  obtain ⟨answered, happend, h⟩ := Except.bind_eq_ok.1 h
  cases h
  exact ⟨reference, Except.mapError_eq_ok_iff.1 hreference, Except.mapError_eq_ok_iff.1 happend⟩

/-- The path of a kind is one word. -/
theorem exists_word {kind : Kind} {path : String} (h : kind.entityPath? = some path) :
    ∃ word, path.toList = '/' :: word ∧ IsWord word := by
  have hword : ∀ word : List Char, word ≠ [] → word.all Char.isAlpha = true → IsWord word :=
    fun word hsome hall => ⟨hsome, List.all_eq_true.1 hall⟩
  cases kind <;> cases h <;> exact ⟨_, rfl, hword _ (by decide) (by decide)⟩

/-- **The address of an entity**: the path of its kind, behind that its id as one segment
in percent coding, and no query. -/
structure IsEntityUrl (base : Http.Url) (path id : String) (url : Http.Url) : Prop where
  /-- The path. -/
  path : url.path = base.requestPath ++ (path.toList.drop 1 ++ '/' :: segmentOf id.toList)
  /-- There is no query. -/
  query : url.query = none

/-- **An id leads to its entity if and only if it is one segment as it is.** -/
theorem isEntityUrl_iff {client : Client} (hbase : IsBase client.base) {kind : Kind}
    {path : String} (hpath : kind.entityPath? = some path) {id : String} {url : Http.Url}
    (h : address client (path ++ "/" ++ id) [] = .ok url) :
    IsEntityUrl client.base path id url ↔ SelfContained id.toList := by
  obtain ⟨reference, hreference, happend⟩ := of_address h
  obtain ⟨word, hword, hletters⟩ := exists_word hpath
  have htext : (path ++ "/" ++ id).toList = '/' :: (word ++ '/' :: id.toList) := by
    rw [String.toList_append, String.toList_append, hword]
    simp
  rw [htext] at hreference
  obtain ⟨hplace, hquery⟩ := Http.Url.of_append hbase hletters hreference happend
  rw [← Http.Url.stays_iff hbase hletters id.toList, ← hplace, ← hquery]
  constructor
  · rintro ⟨hstays, hnone⟩
    rw [hword] at hstays
    exact ⟨hstays, hnone⟩
  · rintro ⟨hstays, hnone⟩
    exact ⟨by rw [hword]; exact hstays, hnone⟩

/-! ## Requests for an entity -/

/-- What can be done to one entity. -/
inductive EntityCall where
  /-- To ask for it. -/
  | get
  /-- To change it. -/
  | update (payload : Value)

/-- What a call does. -/
def EntityCall.action (kind : Kind) (id : Value) : EntityCall → Action Value
  | get => getEntity kind id
  | update payload => updateEntity kind id payload

/-- A call sends one request at most, for the path of the kind and the id as it is
written. -/
theorem EntityCall.sends (call : EntityCall) (kind : Kind) (id : Value) (remote : Remote)
    (s : Session) :
    (call.action kind id remote s).2.exchanges = s.exchanges ∨
      ∃ path request reply, kind.entityPath? = some path ∧
        address s.client (path ++ "/" ++ id.display) [] = .ok request.url ∧
        (call.action kind id remote s).2.exchanges =
          s.exchanges ++ [⟨s.client.serial, request, reply⟩] := by
  cases hpath : kind.entityPath? with
  | none =>
    have hrefused : entityPath kind id = .error (.refused (.unsupportedKind kind)) := by
      rw [entityPath, hpath]
      rfl
    cases call with
    | get =>
      rw [action, getEntity, Run.bind_apply, Run.lift_apply, hrefused]
      exact .inl rfl
    | update payload =>
      rw [action, updateEntity, Run.bind_apply, Run.lift_apply, hrefused]
      exact .inl rfl
  | some path =>
    have hplace : entityPath kind id = .ok (path ++ "/" ++ id.display) := by
      rw [entityPath, hpath]
      rfl
    have hsends : ∀ method body allowMissing,
        (request method (path ++ "/" ++ id.display) [] body allowMissing remote s).2.exchanges =
            s.exchanges ∨
          ∃ request reply, address s.client (path ++ "/" ++ id.display) [] = .ok request.url ∧
            (Api.request method (path ++ "/" ++ id.display) [] body allowMissing remote
              s).2.exchanges = s.exchanges ++ [⟨s.client.serial, request, reply⟩] := by
      intro method body allowMissing
      rw [request_apply]
      cases hout : outgoing s.client method (path ++ "/" ++ id.display) [] body with
      | error fault => exact .inl rfl
      | ok request => exact .inr ⟨request, _, address_of_outgoing hout, rfl⟩
    cases call with
    | get =>
      rw [action, getEntity, Run.bind_apply, Run.lift_apply, hplace]
      exact (hsends .get none true).imp_right fun ⟨request, reply, hsent⟩ =>
        ⟨path, request, reply, rfl, hsent⟩
    | update payload =>
      have hexchanges : (updateEntity kind id payload remote s).2.exchanges =
          (request .put (path ++ "/" ++ id.display) [] (bodyOf payload) false remote
            s).2.exchanges := by
        rw [updateEntity, Run.bind_apply, Run.lift_apply, hplace]
        dsimp only
        rw [Run.bind_apply]
        rcases request .put (path ++ "/" ++ id.display) [] (bodyOf payload) false remote s with
          ⟨_ | updated, t⟩ <;> rfl
      rw [action, hexchanges]
      exact (hsends .put (bodyOf payload) false).imp_right fun ⟨request, reply, hsent⟩ =>
        ⟨path, request, reply, rfl, hsent⟩

/-- **Which requests stay on their entity.** Of a client with a base address that has a
scheme and no query, every request for one entity that is sent goes to the address of the
entity if and only if the id is one segment as it is written. With any other id it goes
elsewhere, though never to another host. -/
theorem entity_request_stays_iff {serial : Nat} {settings : Settings} {opened : Client}
    (hconnect : Client.connect serial settings = .ok opened) (hscheme : opened.base.scheme ≠ [])
    (hquery : opened.base.query = none) :
    ∃ root : Http.Url, ∀ (call : EntityCall) (kind : Kind) (id : Value) (remote : Remote)
      (s : Session), s.client.base = opened.base →
      ∃ sent, (call.action kind id remote s).2.exchanges = s.exchanges ++ sent ∧
        sent.length ≤ 1 ∧ ∀ exchange ∈ sent, ∃ path, kind.entityPath? = some path ∧
          exchange.request.url =
            { root with
              path := exchange.request.url.path
              query := exchange.request.url.query } ∧
          (IsEntityUrl s.client.base path id.display exchange.request.url ↔
            SelfContained id.display.toList) := by
  have hplain := isBase_of_connect hconnect hscheme hquery
  -- whatever can be put behind the base has the same root
  obtain ⟨root, hroot⟩ : ∃ root : Http.Url, ∀ reference url,
      opened.base.append reference = .ok url →
        url = { root with path := url.path, query := url.query } := by
    by_cases hany : ∃ reference url, opened.base.append reference = .ok url
    · obtain ⟨reference, root, hread⟩ := hany
      exact ⟨root, fun other url hother => Http.Url.rest_of_append hread hother⟩
    · exact ⟨opened.base, fun reference url hread => absurd ⟨reference, url, hread⟩ hany⟩
  refine ⟨root, fun call kind id remote s hclient => ?_⟩
  rw [← hclient] at hplain hroot
  rcases call.sends kind id remote s with hnone | ⟨path, request, reply, hpath, haddress, hsent⟩
  · exact ⟨[], by rw [hnone, List.append_nil], Nat.zero_le 1,
      fun exchange hmem => absurd hmem List.not_mem_nil⟩
  · refine ⟨_, hsent, Nat.le_refl 1, fun exchange hmem => ?_⟩
    obtain ⟨reference, -, happend⟩ := of_address haddress
    cases List.mem_singleton.1 hmem
    exact ⟨path, hpath, hroot reference _ happend, isEntityUrl_iff hplain hpath haddress⟩

/-! ### Two teams -/

namespace Sample

/-- A client opened with a base address. -/
def opened : Client :=
  (Client.connect 0 ⟨.text "token", "https://tracker/api", .int 30⟩).toOption.get rfl

theorem connect_opened :
    Client.connect 0 ⟨.text "token", "https://tracker/api", .int 30⟩ = .ok opened := rfl

/-- A session of the client. -/
def session : Session := { client := opened, caches := {}, clock := .int 0 }

/-- A tracker that has nothing. -/
def nothingThere : Remote := fun _ _ => .answer 404 []

/-- Where a request for a team goes. -/
def teamUrls (id : String) : List Http.Url :=
  (getEntity .teams (.text id) nothingThere session).2.exchanges.map (·.request.url)

end Sample

/-- The id of a team that is one segment leads to the team. -/
theorem plain_id_stays :
    (Sample.teamUrls "a b").map (·.path) = ["/api/groups/a%20b".toList] ∧
      ∀ url ∈ Sample.teamUrls "a b", IsEntityUrl Sample.opened.base "/groups" "a b" url := by
  have hself : SelfContained "a b".toList := by decide
  obtain ⟨root, hall⟩ := entity_request_stays_iff Sample.connect_opened (by decide) rfl
  obtain ⟨sent, hsent, -, hstays⟩ := hall .get .teams (.text "a b") Sample.nothingThere
    Sample.session rfl
  refine ⟨by decide +kernel, fun url hmem => ?_⟩
  obtain ⟨exchange, hexchange, rfl⟩ := List.mem_map.1 hmem
  have hfirst : Sample.session.exchanges = [] := rfl
  rw [← EntityCall.action, hsent, hfirst, List.nil_append] at hexchange
  obtain ⟨path, hpath, -, hiff⟩ := hstays exchange hexchange
  cases hpath
  exact hiff.2 hself

/-- **An id that leads away from its kind**: with dot segments the id of a team leads to
an epic. -/
theorem dotted_id_leads_away :
    (Sample.teamUrls "../epics/7").map (·.path) = ["/api/epics/7".toList] ∧
      ∀ url ∈ Sample.teamUrls "../epics/7",
        ¬ IsEntityUrl Sample.opened.base "/groups" "../epics/7" url := by
  have hpaths : (Sample.teamUrls "../epics/7").map (·.path) = ["/api/epics/7".toList] := by
    decide +kernel
  refine ⟨hpaths, fun url hmem hstays => ?_⟩
  have hpath : url.path ∈ ["/api/epics/7".toList] := hpaths ▸ List.mem_map_of_mem hmem
  have hplace := hstays.path
  rw [List.mem_singleton.1 hpath] at hplace
  exact absurd hplace (by decide +kernel)

end Api

end Backlog
