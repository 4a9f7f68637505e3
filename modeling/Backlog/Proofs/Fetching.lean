import Backlog.Proofs.Hydration
/-!
# What becomes of an id that is fetched

Epics, iterations and objectives are fetched one by one, and what is recorded of
an id is told from what came of its own fetch (`Ask.Delivery`): the request that
was sent and the reply to it, or what kept it from being sent. A value that is
not null is an entity, no value is a miss, and all else is a failure, in the
words of its fault (`Ask.Delivery.Decides`). An answer from an address that the
client cannot read is none; it breaks down on its way like any other reply that
the client cannot take.

Each fetched id is asked for once in a call (`Resolver.FetchedAfter`), so nothing
else that the call asks has a part in what is recorded of it
(`Resolver.Returns.records_own_reply`).
-/

namespace Backlog

namespace Ask

/-! ## What a fetch brings -/

/-- What comes of an ask: the request that is sent and the reply to it, or what
keeps it from being sent. -/
abbrev Delivery := Except Fault (Http.Request × Http.Reply)

/-- What comes of an ask after what was exchanged before. -/
def delivery (remote : Remote) (client : Client) (past : List Http.Exchange) (ask : Ask) :
    Delivery := do
  let request ← ask.request client
  pure (request, remote past request)

namespace Delivery

/-- The value that a fetch brings. `path` is what was asked for. -/
def value (path : String) (delivery : Delivery) : Except Fault Value := do
  let (request, reply) ← delivery
  reply.value .get request.url path true

/-- Whether an answer came, from an address that the client can read. -/
def Answered (delivery : Delivery) (status : Nat) (body : List UInt8) : Prop :=
  ∃ request, delivery = .ok (request, .answer status body) ∧
    Http.checkAnswered request.url = .ok ()

/-- Why a fetch brings neither an entity nor a miss. -/
inductive Fails (path : String) : Delivery → Fault → Prop where
  /-- The request cannot be made up or sent. -/
  | unsent {fault : Fault} : Fails path (.error fault) fault
  /-- There is no answer. -/
  | unreachable {request : Http.Request} {reason : String} :
      Fails path (.ok (request, .unreachable reason)) (.api (.unreachable .get path reason))
  /-- Something breaks down. -/
  | broken {request : Http.Request} {text : String} :
      Fails path (.ok (request, .broken text)) (.broken text)
  /-- The client cannot read the address that the answer is from. -/
  | misaddressed {request : Http.Request} {status : Nat} {body : List UInt8} {fault : Fault}
      (haddress : Http.checkAnswered request.url = .error fault) :
      Fails path (.ok (request, .answer status body)) fault
  /-- The status is neither one of success nor that of what is missing. -/
  | status {delivery : Delivery} {status : Nat} {body : List UInt8}
      (hanswer : delivery.Answered status body) (hmissing : status ≠ 404)
      (hstatus : Http.isSuccess status = false) :
      Fails path delivery (.api (.status status .get path (Http.detail body)))
  /-- The body is no JSON. -/
  | notJson {delivery : Delivery} {status : Nat} {body : List UInt8}
      (hanswer : delivery.Answered status body) (hstatus : Http.isSuccess status = true)
      (hsome : body ≠ []) (hbody : Json.ofBytes body = .error .malformed) :
      Fails path delivery (.api (.notJson .get path))
  /-- The body is nested too deeply. -/
  | tooDeep {delivery : Delivery} {status : Nat} {body : List UInt8} {inList : Bool}
      (hanswer : delivery.Answered status body) (hstatus : Http.isSuccess status = true)
      (hsome : body ≠ []) (hbody : Json.ofBytes body = .error (.tooDeep inList)) :
      Fails path delivery (.tooDeep inList)

variable {path : String} {delivery : Delivery}

/-- A fetch that is answered brings what the answer is read as. -/
theorem Answered.value_eq {status : Nat} {body : List UInt8}
    (h : delivery.Answered status body) :
    delivery.value path = Http.valueOf .get path true status body := by
  obtain ⟨request, rfl, haddress⟩ := h
  show (Http.checkAnswered request.url >>= fun _ => _) = _
  rw [haddress]
  rfl

/-- An answer of success is read as its body. -/
theorem Answered.value_of_success {status : Nat} {body : List UInt8}
    (h : delivery.Answered status body) (hstatus : Http.isSuccess status = true)
    (hsome : body ≠ []) :
    delivery.value path =
      match Json.ofBytes body with
      | .ok v => .ok v
      | .error .malformed => .error (.api (.notJson .get path))
      | .error (.tooDeep inList) => .error (.tooDeep inList) := by
  have hmissing : status ≠ 404 := by
    rintro rfl
    cases hstatus
  rw [h.value_eq, Http.valueOf]
  rcases Json.ofBytes body with (_ | _) | _ <;> simp [hmissing, hstatus, hsome]

/-- What a fetch brings. -/
inductive Brings (path : String) (delivery : Delivery) : Except Fault Value → Prop where
  /-- It fails. -/
  | failed {fault : Fault} (h : Fails path delivery fault) : Brings path delivery (.error fault)
  /-- There is no such entity, or the answer is empty. -/
  | nothing {status : Nat} {body : List UInt8} (hanswer : delivery.Answered status body)
      (hmissing : status = 404 ∨ Http.isSuccess status = true ∧ body = []) :
      Brings path delivery (.ok .null)
  /-- The answer is a value. -/
  | value {status : Nat} {body : List UInt8} {v : Value} (hanswer : delivery.Answered status body)
      (hstatus : Http.isSuccess status = true) (hbody : Json.ofBytes body = .ok v) :
      Brings path delivery (.ok v)

theorem Fails.value_eq {fault : Fault} (h : Fails path delivery fault) :
    delivery.value path = .error fault := by
  cases h with
  | unsent => rfl
  | unreachable => rfl
  | broken => rfl
  | misaddressed haddress =>
    show (Http.checkAnswered _ >>= fun _ => _) = _
    rw [haddress]
    rfl
  | status hanswer hmissing hstatus =>
    rw [hanswer.value_eq, Http.valueOf]
    simp [hmissing, hstatus]
  | notJson hanswer hstatus hsome hbody => rw [hanswer.value_of_success hstatus hsome, hbody]
  | tooDeep hanswer hstatus hsome hbody => rw [hanswer.value_of_success hstatus hsome, hbody]

theorem Brings.value_eq {outcome : Except Fault Value} (h : Brings path delivery outcome) :
    delivery.value path = outcome := by
  cases h with
  | failed h => exact h.value_eq
  | nothing hanswer hmissing =>
    rw [hanswer.value_eq, Http.valueOf]
    rcases hmissing with rfl | ⟨hstatus, rfl⟩
    · rfl
    · simp [hstatus]
  | @value status body v hanswer hstatus hbody =>
    have hsome : body ≠ [] := by
      rintro rfl
      cases hbody
    rw [hanswer.value_of_success hstatus hsome, hbody]

/-- **What a fetch brings is told from its request and its reply.** -/
theorem brings_value (path : String) (delivery : Delivery) :
    Brings path delivery (delivery.value path) := by
  rcases delivery with fault | ⟨request, reply⟩
  · exact .failed .unsent
  · cases reply with
    | unreachable reason => exact .failed .unreachable
    | broken text => exact .failed .broken
    | answer status body =>
      cases haddress : Http.checkAnswered request.url with
      | error fault =>
        have hfails : Fails path (.ok (request, .answer status body)) fault :=
          .misaddressed haddress
        rw [hfails.value_eq]
        exact .failed hfails
      | ok checked =>
        have hanswer : Answered (.ok (request, .answer status body)) status body :=
          ⟨request, rfl, haddress⟩
        by_cases hmissing : status = 404 ∨ Http.isSuccess status = true ∧ body = []
        · have hbrings : Brings path _ _ := .nothing hanswer hmissing
          rw [hbrings.value_eq]
          exact hbrings
        obtain ⟨h404, hempty⟩ := not_or.1 hmissing
        cases hstatus : Http.isSuccess status with
        | false =>
          have hfails : Fails path _ _ := .status hanswer h404 hstatus
          rw [hfails.value_eq]
          exact .failed hfails
        | true =>
          have hsome : body ≠ [] := fun hnil => hempty ⟨hstatus, hnil⟩
          rw [hanswer.value_of_success hstatus hsome]
          cases hbody : Json.ofBytes body with
          | ok v => exact .value hanswer hstatus hbody
          | error reason =>
            cases reason with
            | malformed => exact .failed (.notJson hanswer hstatus hsome hbody)
            | tooDeep inList => exact .failed (.tooDeep hanswer hstatus hsome hbody)

/-- A fetch brings one thing only. -/
theorem brings_iff {outcome : Except Fault Value} :
    Brings path delivery outcome ↔ delivery.value path = outcome := by
  constructor
  · exact Brings.value_eq
  · rintro rfl
    exact brings_value path delivery

/-! ## What is recorded of it -/

/-- What is recorded of an id, in terms of what came of its fetch. -/
structure Decides (path : String) (id : Atom) (delivery : Delivery) (lookup : Lookup) : Prop where
  /-- An entity is found exactly when an answer of success brings a value that is
  not null, and then it is that value. -/
  found_iff : ∀ v, lookup = .found v ↔ v.isNull = false ∧ ∃ status body,
    delivery.Answered status body ∧ Http.isSuccess status = true ∧ Json.ofBytes body = .ok v
  /-- The id is missed exactly when the answer says so, or is one of success that
  is empty or brings null. -/
  notFound_iff : lookup = .notFound id ↔ ∃ status body, delivery.Answered status body ∧
    (status = 404 ∨
      Http.isSuccess status = true ∧ (body = [] ∨ Json.ofBytes body = .ok .null))
  /-- The look-up fails exactly when the fetch does, in the words of the fault. -/
  failure_iff : ∀ text, lookup = .failure id text ↔
    ∃ fault, Fails path delivery fault ∧ text = fault.message
  /-- There is nothing else, and no other id is blamed. -/
  exhausts : (∃ v, lookup = .found v) ∨ lookup = .notFound id ∨ ∃ text, lookup = .failure id text

theorem value_eq_error_iff {fault : Fault} :
    delivery.value path = .error fault ↔ Fails path delivery fault := by
  rw [← brings_iff]
  constructor
  · rintro ⟨h⟩
    exact h
  · exact .failed

theorem value_eq_ok_iff {v : Value} :
    delivery.value path = .ok v ↔ ∃ status body, delivery.Answered status body ∧
      ((status = 404 ∨ Http.isSuccess status = true ∧ body = []) ∧ v = .null ∨
        Http.isSuccess status = true ∧ Json.ofBytes body = .ok v) := by
  rw [← brings_iff]
  constructor
  · rintro (_ | ⟨hanswer, hmissing⟩ | ⟨hanswer, hstatus, hbody⟩)
    · exact ⟨_, _, hanswer, .inl ⟨hmissing, rfl⟩⟩
    · exact ⟨_, _, hanswer, .inr ⟨hstatus, hbody⟩⟩
  · rintro ⟨status, body, hanswer, ⟨hmissing, rfl⟩ | ⟨hstatus, hbody⟩⟩
    · exact .nothing hanswer hmissing
    · exact .value hanswer hstatus hbody

end Delivery

end Ask

/-- **What is recorded of an id is told from what came of its fetch.** -/
theorem Ask.Delivery.decides_ofAnswer (path : String) (id : Atom) (delivery : Delivery) :
    Decides path id delivery (Lookup.ofAnswer id (delivery.value path)) where
  found_iff v := by
    rw [Lookup.ofAnswer_eq_found_iff, and_comm, value_eq_ok_iff]
    refine and_congr_right fun hv => exists_congr fun status => exists_congr fun body =>
      and_congr_right fun _ => or_iff_right ?_
    rintro ⟨-, rfl⟩
    cases hv
  notFound_iff := by
    rw [Lookup.ofAnswer_eq_notFound_iff, value_eq_ok_iff]
    refine exists_congr fun status => exists_congr fun body => and_congr_right fun _ => ?_
    rw [and_iff_left rfl, and_or_left, or_assoc]
  failure_iff text := by
    simp only [Lookup.ofAnswer_eq_failure_iff, value_eq_error_iff]
  exhausts := Lookup.ofAnswer_exhausts id _

/-- A fetch brings what comes of it. -/
theorem Ask.answer_fetch {kind : Kind} {id : Atom} {path : String}
    (hpath : Api.entityPath kind (.atom id) = .ok path) (remote : Remote) (client : Client)
    (past : List Http.Exchange) :
    (Ask.fetch kind id).answer remote client past =
      ((Ask.fetch kind id).delivery remote client past).value path := by
  have hask : (Ask.fetch kind id).path = .ok path := hpath
  rw [Ask.answer, Ask.delivery, Ask.request, hask]
  simp only [bind, Except.bind]
  cases Api.outgoing client .get path [] none <;> rfl

/-- Fetched kinds have a path for every id. -/
theorem Api.exists_entityPath {kind : Kind} (h : kind ∈ Kind.fetched) (id : Atom) :
    ∃ path, entityPath kind (.atom id) = .ok path := by
  have hpath : kind.entityPath?.isSome := by
    revert kind
    decide
  obtain ⟨base, hbase⟩ := Option.isSome_iff_exists.1 hpath
  refine ⟨base ++ "/" ++ Value.display (.atom id), ?_⟩
  rw [entityPath, hbase]
  rfl

namespace Resolver

/-! ## The fetch of an id -/

section

variable {remote : Remote} {s t : Session} {ids further : IdsByKind} {refs : Refs}

/-- **What a round records of a fetched id** is what its fetch brings, among the
asks of the round. -/
theorem exists_fetch_of_mem_outcomesOfRound {checked : List Kind} {k : Kind}
    (hk : k ∈ Kind.fetched) {id : Atom} {lookup : Lookup}
    (h : (id, lookup) ∈ outcomesOf (outcomesOfRound remote ids checked s) k) :
    ∃ first rest, asksOfRound s ids checked = first ++ .fetch k id :: rest ∧
      lookup = Lookup.ofAnswer id ((Ask.fetch k id).answer remote s.client
        (Ask.run remote s.client s.exchanges first)) := by
  have hmem := mem_of_mem_outcomesOf (fun _ ho => (of_mem_outcomesOfRound ho).1)
    (List.mem_append_right Kind.cached hk) h
  rcases List.mem_append.1 hmem with hcached | hfetched
  · -- no kind is both cached and fetched
    obtain ⟨pair, hpair, heq⟩ := List.mem_map.1 hcached
    cases heq
    exact absurd (kind_mem_of_mem_pairsIn hpair) (Kind.not_mem_cached_of_mem_fetched hk)
  · obtain ⟨first, rest, hpairs, rfl⟩ := exists_of_mem_fetched hfetched
    refine ⟨((unchecked ids checked).filter s.knownStale).map .list ++ fetches first,
      fetches rest, ?_, ?_⟩
    · rw [asksOfRound, hpairs, fetches, List.map_append, List.map_cons, List.append_assoc]
      rfl
    · rw [Ask.run_append, ← Session.exchanges_freshened (nodup_unchecked ids checked),
        Session.client_freshened]

/-- **What is recorded of a fetched id** is what its fetch brings, among all that
is asked. -/
theorem Resolved.exists_fetch (h : Resolved remote s ids further refs t) {k : Kind}
    (hk : k ∈ Kind.fetched) {id : Atom} {lookup : Lookup} (hmem : (id, lookup) ∈ refs.ofKind k) :
    ∃ first rest, asks s ids further = first ++ .fetch k id :: rest ∧
      lookup = Lookup.ofAnswer id ((Ask.fetch k id).answer remote s.client
        (Ask.run remote s.client s.exchanges first)) := by
  rw [h.ofKind_eq] at hmem
  rcases List.mem_append.1 hmem with hfirst | hsecond
  · obtain ⟨first, rest, hasks, hlookup⟩ := exists_fetch_of_mem_outcomesOfRound hk hfirst
    refine ⟨first, rest ++ asksOfRound s further (early ids), ?_, hlookup⟩
    rw [asks, hasks, List.append_assoc, List.cons_append]
  · obtain ⟨first, rest, hasks, hlookup⟩ := exists_fetch_of_mem_outcomesOfRound hk hsecond
    rw [asksOfRound_afterRound] at hasks
    rw [client_afterRound, exchanges_afterRound, ← Ask.run_append] at hlookup
    refine ⟨asksOfRound s ids [] ++ first, rest, ?_, hlookup⟩
    rw [asks, hasks, List.append_assoc]

/-- What was exchanged in a call when an entity is asked for: the call asks for
it there, and nowhere else. -/
inductive FetchedAfter (remote : Remote) (s t : Session) (k : Kind) (id : Atom) :
    List Http.Exchange → Prop where
  | intro (first rest : List Ask)
      (hexchanges : t.exchanges =
        Ask.run remote s.client s.exchanges (first ++ .fetch k id :: rest))
      (honce : ∀ ask ∈ first ++ rest, ∀ other, ask.fetchedId? k = some other →
        (other == id) = false) :
      FetchedAfter remote s t k id (Ask.run remote s.client s.exchanges first)

/-- The ids of a fetched kind that are asked for are those that are recorded. -/
theorem Resolved.fetchedIds_asks (h : Resolved remote s ids further refs t) {k : Kind}
    (hk : k ∈ Kind.fetched) :
    (asks s ids further).filterMap (Ask.fetchedId? k) = (refs.ofKind k).keys := by
  rw [asks, List.filterMap_append, fetchedIds_asksOfRound _ _ _ hk, fetchedIds_asksOfRound _ _ _ hk,
    h.keys_ofKind]

/-- **A recorded id is fetched once**, and what that fetch brings is recorded. -/
theorem Resolved.exists_fetchedAfter (h : Resolved remote s ids further refs t) {k : Kind}
    (hk : k ∈ Kind.fetched) {id : Atom} {lookup : Lookup} (hmem : (id, lookup) ∈ refs.ofKind k) :
    ∃ past, FetchedAfter remote s t k id past ∧
      lookup = Lookup.ofAnswer id ((Ask.fetch k id).answer remote s.client past) := by
  obtain ⟨first, rest, hasks, hlookup⟩ := h.exists_fetch hk hmem
  refine ⟨_, .intro first rest (hasks ▸ h.exchanges_eq) ?_, hlookup⟩
  have hdistinct := h.distinct_keys k
  have hown : (Ask.fetch k id).fetchedId? k = some id := by rw [Ask.fetchedId?, if_pos BEq.rfl]
  rw [← h.fetchedIds_asks hk, hasks, List.filterMap_append, List.filterMap_cons, hown] at hdistinct
  obtain ⟨-, hbehind, hbefore⟩ := Distinct.append_iff.1 hdistinct
  intro ask hask other hother
  rcases List.mem_append.1 hask with hask | hask
  · exact hbefore other (List.mem_filterMap.2 ⟨ask, hask, hother⟩) id List.mem_cons_self
  · rw [BEq.comm]
    exact (Distinct.cons_iff.1 hbehind).1 other (List.mem_filterMap.2 ⟨ask, hask, hother⟩)

end

namespace Returns

variable {remote : Remote} {s t : Session} {kind : Kind} {primaries : List Value}
variable {result : Hydrated}

/-- **What is recorded of a fetched id is decided by its own reply.** A call
fetches each of them once, and what comes of that decides whether the id is
found, missed or failed. Nothing else has a part in it: in any other call, with
any other replies and refills, in which the same comes of the fetch of the id,
the same is recorded of it. -/
theorem records_own_reply (h : Returns remote s kind primaries result t) {k : Kind}
    (hk : k ∈ Kind.fetched) {id : Atom} {lookup : Lookup}
    (hmem : (id, lookup) ∈ result.refs.ofKind k) :
    ∃ path past, Api.entityPath k (.atom id) = .ok path ∧ FetchedAfter remote s t k id past ∧
      Ask.Delivery.Decides path id ((Ask.fetch k id).delivery remote s.client past) lookup ∧
      ∀ remote' s' kind' primaries' result' t', Returns remote' s' kind' primaries' result' t' →
        ∀ lookup', (id, lookup') ∈ result'.refs.ofKind k →
          ∃ past', FetchedAfter remote' s' t' k id past' ∧
            ((Ask.fetch k id).delivery remote' s'.client past' =
                (Ask.fetch k id).delivery remote s.client past →
              lookup' = lookup) := by
  obtain ⟨path, hpath⟩ := Api.exists_entityPath hk id
  have hown {remote s t kind primaries result}
      (h : Returns remote s kind primaries result t) {lookup}
      (hmem : (id, lookup) ∈ result.refs.ofKind k) :
      ∃ past, FetchedAfter remote s t k id past ∧ lookup =
        Lookup.ofAnswer id (((Ask.fetch k id).delivery remote s.client past).value path) := by
    obtain ⟨ids, further, -, -, hresolved⟩ := h.exists_resolved
    obtain ⟨past, hpast, hlookup⟩ := hresolved.exists_fetchedAfter hk hmem
    exact ⟨past, hpast, by rw [hlookup, Ask.answer_fetch hpath]⟩
  obtain ⟨past, hpast, rfl⟩ := hown h hmem
  refine ⟨path, past, hpath, hpast, Ask.Delivery.decides_ofAnswer path id _, ?_⟩
  intro remote' s' kind' primaries' result' t' h' lookup' hmem'
  obtain ⟨past', hpast', rfl⟩ := hown h' hmem'
  exact ⟨past', hpast', fun hsame => by rw [hsame]⟩

/-- The epic of the sample is missed, as the answer to its fetch says. -/
theorem misses_epic_by_its_reply :
    Kind.epics ∈ Kind.fetched ∧ ∃ result,
      Returns Sample.remote Sample.session .stories [Sample.story] result Sample.after ∧
        (Sample.epic, .notFound Sample.epic) ∈ result.refs.ofKind .epics ∧
        ∃ past, FetchedAfter Sample.remote Sample.session Sample.after .epics Sample.epic past ∧
          ((Ask.fetch .epics Sample.epic).delivery Sample.remote Sample.session.client
            past).Answered 404 [] := by
  have hk : Kind.epics ∈ Kind.fetched := by simp [Kind.fetched]
  obtain ⟨result, hrefs, h⟩ := Sample.exists_returns
  have hmem : (Sample.epic, .notFound Sample.epic) ∈ result.refs.ofKind .epics := by
    rw [hrefs]
    exact List.mem_cons_self
  obtain ⟨path, past, -, hpast, hdecides, -⟩ := records_own_reply h hk hmem
  obtain ⟨status, body, ⟨request, hanswer, haddress⟩, -⟩ := hdecides.notFound_iff.1 rfl
  refine ⟨hk, result, h, hmem, past, hpast, request, ?_, haddress⟩
  -- the tracker of the sample has one answer only
  obtain ⟨sent, hsent, heq⟩ := Except.bind_eq_ok.1 hanswer
  cases heq
  exact hanswer

end Returns

end Resolver

end Backlog
