import Backlog.Proofs.Http.Coding
import Backlog.Proofs.Request
/-!
# Requests that differ in their query

Two requests of one client for one path differ in their query alone, so a
client that can send one of them can send the other unless its own query keeps
it from that: the query may be too long, or hold a text that cannot be written
in bytes (`Api.outgoing_query`). The tracker reads from the request the named
texts that were put in. A text cannot be written in bytes if it holds half of a
pair; the code points that halves are kept as (`Text.halfOffset`) are assumed to
stand for nothing else.
-/

namespace Backlog

namespace Text

/-- What can stand in an address is whole. -/
theorem isHalf_of_le {c : Char} (h : c.toNat ≤ 0x7E) : isHalf c = false := by
  have hoffset : c.toNat - halfOffset = 0 := by
    rw [halfOffset]
    omega
  rw [isHalf, hoffset]
  decide

end Text

namespace Http.Url

variable {url answered : Url} {query other : List Char}

/-- Whether a text is short enough to be part of an address. -/
theorem checkLength_eq_ok_iff {part : String} {cs : List Char} :
    checkLength part cs = .ok () ↔ cs.length ≤ maxLength := by
  unfold checkLength
  split
  · next hlong => exact ⟨fun h => (by cases h), fun h => absurd h (Nat.not_le.2 hlong)⟩
  · next hshort => exact ⟨fun _ => Nat.not_lt.1 hshort, fun _ => rfl⟩

/-- **The parts of an address are read apart from its query**, which is taken as
it is. -/
theorem ofParts_of_ofParts {scheme authority path : List Char}
    {params fragment : Option (List Char)}
    (h : ofParts scheme authority path params fragment = .ok answered)
    (hhalves : checkHalves query = .ok ()) :
    ofParts scheme authority path (some query) fragment =
      .ok { answered with query := some (Percent.encode isQueryChar query) } := by
  rcases hcut : cutHost authority with ⟨userinfo, host, port⟩
  rw [ofParts, hcut] at h ⊢
  obtain ⟨⟨⟩, huserinfo, h⟩ := Except.bind_eq_ok.1 h
  obtain ⟨host', hhost, h⟩ := Except.bind_eq_ok.1 h
  obtain ⟨port', hport, h⟩ := Except.bind_eq_ok.1 h
  obtain ⟨⟨⟩, hchecked, h⟩ := Except.bind_eq_ok.1 h
  obtain ⟨⟨⟩, hpath, h⟩ := Except.bind_eq_ok.1 h
  obtain ⟨⟨⟩, -, h⟩ := Except.bind_eq_ok.1 h
  obtain ⟨⟨⟩, hfragment, h⟩ := Except.bind_eq_ok.1 h
  cases h
  -- the checks of the other parts have come out already
  refine Except.bind_eq_ok.2 ⟨(), huserinfo, Except.bind_eq_ok.2 ⟨host', hhost, ?_⟩⟩
  refine Except.bind_eq_ok.2 ⟨port', hport, Except.bind_eq_ok.2 ⟨(), hchecked, ?_⟩⟩
  refine Except.bind_eq_ok.2 ⟨(), hpath, Except.bind_eq_ok.2 ⟨(), hhalves, ?_⟩⟩
  exact Except.bind_eq_ok.2 ⟨(), hfragment, rfl⟩

/-- **Where one query can be put, another can**, if it is short enough and holds
no half of a pair. -/
theorem withQuery_of_withQuery (h : url.withQuery other = .ok answered)
    (hlength : query.length ≤ maxLength) (hhalves : checkHalves query = .ok ()) :
    url.withQuery query =
      .ok { answered with query := some (Percent.encode isQueryChar query) } := by
  obtain ⟨⟨⟩, hauthority, h⟩ := Except.bind_eq_ok.1 h
  obtain ⟨⟨⟩, hpath, h⟩ := Except.bind_eq_ok.1 h
  obtain ⟨⟨⟩, -, h⟩ := Except.bind_eq_ok.1 h
  obtain ⟨⟨⟩, hfragment, h⟩ := Except.bind_eq_ok.1 h
  refine Except.bind_eq_ok.2 ⟨(), hauthority, Except.bind_eq_ok.2 ⟨(), hpath, ?_⟩⟩
  refine Except.bind_eq_ok.2 ⟨(), checkLength_eq_ok_iff.2 hlength, ?_⟩
  exact Except.bind_eq_ok.2 ⟨(), hfragment, ofParts_of_ofParts h hhalves⟩

/-- A query that is too long cannot be put anywhere. -/
theorem withQuery_of_long (h : url.withQuery other = .ok answered)
    (hlong : maxLength < query.length) :
    url.withQuery query = .error (.partTooLong "query") := by
  obtain ⟨⟨⟩, hauthority, h⟩ := Except.bind_eq_ok.1 h
  obtain ⟨⟨⟩, hpath, h⟩ := Except.bind_eq_ok.1 h
  refine Except.bind_eq_error.2 (.inr ⟨(), hauthority, ?_⟩)
  refine Except.bind_eq_error.2 (.inr ⟨(), hpath, Except.bind_eq_error.2 (.inl ?_)⟩)
  rw [Option.getD_some]
  unfold checkLength
  rw [if_pos hlong]

/-! ### Halves of pairs -/

theorem isHalf_of_isQueryChar {c : Char} (h : isQueryChar c = true) : Text.isHalf c = false := by
  simp only [isQueryChar, Bool.and_eq_true, decide_eq_true_eq] at h
  exact Text.isHalf_of_le h.1.2

/-- Characters that stand for themselves are whole. -/
theorem checkHalves_of_isQueryChar {cs : List Char} (h : ∀ c ∈ cs, isQueryChar c = true) :
    checkHalves cs = .ok () := by
  rw [checkHalves, List.find?_eq_none.2 fun c hc => by simp [isHalf_of_isQueryChar (h c hc)]]

/-- What form coding writes holds no half of a pair. -/
theorem checkHalves_encode (pairs : List (String × String)) :
    checkHalves (Form.encode pairs) = .ok () :=
  checkHalves_of_isQueryChar fun _ hc => Form.isQueryChar_of_mem_encode hc

end Http.Url

namespace Api

/-! ## Named texts -/

/-- Whether the named texts can be put into an address: they can be written in
bytes, and their form coding is short enough. -/
structure Fits (pairs : List (String × String)) : Prop where
  /-- No text holds half of a pair. -/
  whole : ∀ pair ∈ pairs, Text.hasHalf pair.1 = false ∧ Text.hasHalf pair.2 = false
  /-- Their form coding is no longer than a query may be. -/
  short : (Http.Form.encode pairs).length ≤ Http.Url.maxLength

/-- What is the matter with named texts that cannot be put into an address. -/
inductive Unfit (pairs : List (String × String)) : Fault → Prop
  /-- A text holds half of a pair. -/
  | half {text : String} (hmem : ∃ pair ∈ pairs, pair.1 = text ∨ pair.2 = text)
      (hhalf : Text.hasHalf text = true) : Unfit pairs (.notUtf8 text)
  /-- Their form coding is too long. -/
  | long (hlong : Http.Url.maxLength < (Http.Form.encode pairs).length) :
      Unfit pairs (.url (.partTooLong "query"))

variable {params others : Params}

theorem checkText_eq_ok_iff {text : String} :
    checkText text = .ok () ↔ Text.hasHalf text = false := by
  rw [checkText]
  cases Text.hasHalf text <;> simp

/-- What is the matter with a text that cannot go into a request. -/
theorem of_checkText_eq_error {text : String} {fault : Fault} (h : checkText text = .error fault) :
    Text.hasHalf text = true ∧ fault = .notUtf8 text := by
  rw [checkText] at h
  cases hhalf : Text.hasHalf text with
  | false =>
    rw [hhalf] at h
    cases h
  | true =>
    rw [hhalf] at h
    cases h
    exact ⟨rfl, rfl⟩

/-- Named texts that can be written in bytes are coded. -/
theorem queryOf_eq_ok_iff {query : List Char} :
    queryOf params = .ok query ↔
      query = Http.Form.encode (paramPairs params) ∧ ∀ pair ∈ paramPairs params,
        Text.hasHalf pair.1 = false ∧ Text.hasHalf pair.2 = false := by
  have hpair : ∀ pair : String × String, (do checkText pair.1; checkText pair.2) = .ok () ↔
      Text.hasHalf pair.1 = false ∧ Text.hasHalf pair.2 = false := by
    intro pair
    rw [← checkText_eq_ok_iff, ← checkText_eq_ok_iff, Except.bind_eq_ok]
    exact ⟨fun ⟨⟨⟩, hname, htext⟩ => ⟨hname, htext⟩, fun ⟨hname, htext⟩ => ⟨(), hname, htext⟩⟩
  rw [queryOf, Except.bind_eq_ok]
  constructor
  · rintro ⟨⟨⟩, hchecks, ⟨⟩⟩
    exact ⟨rfl, fun pair hmem => (hpair pair).1 (Except.forM_eq_ok_iff.1 hchecks pair hmem)⟩
  · rintro ⟨rfl, hwhole⟩
    exact ⟨(), Except.forM_eq_ok_iff.2 fun pair hmem => (hpair pair).2 (hwhole pair hmem), rfl⟩

/-- Named texts that cannot all be written in bytes have one that cannot. -/
theorem unfit_of_queryOf_eq_error {fault : Fault} (h : queryOf params = .error fault) :
    Unfit (paramPairs params) fault := by
  rcases Except.bind_eq_error.1 h with hchecks | ⟨-, -, hcoded⟩
  · obtain ⟨pair, hmem, hpair⟩ := Except.exists_of_forM_eq_error hchecks
    rcases Except.bind_eq_error.1 hpair with hname | ⟨-, -, htext⟩
    · obtain ⟨hhalf, rfl⟩ := of_checkText_eq_error hname
      exact .half ⟨pair, hmem, .inl rfl⟩ hhalf
    · obtain ⟨hhalf, rfl⟩ := of_checkText_eq_error htext
      exact .half ⟨pair, hmem, .inr rfl⟩ hhalf
  · cases hcoded

/-! ## Requests -/

variable {client : Client} {path : String} {url : Http.Url}

/-- A request with a query goes where one without goes, with the query put
in. -/
theorem address_eq (client : Client) (path : String) (hparams : params ≠ []) :
    address client path params = (do
      let bare ← address client path []
      let query ← queryOf params
      (bare.withQuery query).mapError .url) := by
  have hsome : params.isEmpty = false := by simpa using hparams
  rw [address, address, hsome]
  simp only [bind, Except.bind]
  cases (Http.Url.ofChars path.toList).mapError Fault.url with
  | error fault => rfl
  | ok reference =>
    dsimp only
    cases (client.base.append reference).mapError Fault.url <;> rfl

/-- Where a request with a query goes, some query was put in. -/
theorem exists_withQuery (h : address client path params = .ok url) (hparams : params ≠ []) :
    ∃ bare query, address client path [] = .ok bare ∧ bare.withQuery query = .ok url := by
  rw [address_eq client path hparams] at h
  obtain ⟨bare, hbare, h⟩ := Except.bind_eq_ok.1 h
  obtain ⟨query, -, h⟩ := Except.bind_eq_ok.1 h
  refine ⟨bare, query, hbare, ?_⟩
  cases hput : bare.withQuery query with
  | error fault =>
    rw [hput] at h
    cases h
  | ok answered =>
    rw [hput] at h
    cases h
    rfl

/-- **Where one request goes, another goes** with its own query, if that
fits. -/
theorem address_of_fits (h : address client path others = .ok url) (hothers : others ≠ [])
    (hparams : params ≠ []) (hfits : Fits (paramPairs params)) :
    address client path params =
      .ok { url with query := some (Http.Form.encode (paramPairs params)) } := by
  obtain ⟨bare, other, hbare, hput⟩ := exists_withQuery h hothers
  have hquery := Http.Url.withQuery_of_withQuery hput hfits.short
    (Http.Url.checkHalves_encode (paramPairs params))
  rw [Http.Percent.encode_eq_self fun c hc => Http.Form.isQueryChar_of_mem_encode hc] at hquery
  have hcoded : queryOf params = .ok (Http.Form.encode (paramPairs params)) :=
    queryOf_eq_ok_iff.2 ⟨rfl, hfits.whole⟩
  rw [address_eq client path hparams]
  refine Except.bind_eq_ok.2 ⟨bare, hbare, Except.bind_eq_ok.2 ⟨_, hcoded, ?_⟩⟩
  rw [hquery]
  rfl

/-- A request whose query does not fit goes nowhere. -/
theorem address_of_not_fits (h : address client path others = .ok url) (hothers : others ≠ [])
    (hparams : params ≠ []) (hfits : ¬ Fits (paramPairs params)) :
    ∃ fault, address client path params = .error fault ∧ Unfit (paramPairs params) fault := by
  obtain ⟨bare, other, hbare, hput⟩ := exists_withQuery h hothers
  rw [address_eq client path hparams, hbare]
  cases hquery : queryOf params with
  | error fault => exact ⟨fault, rfl, unfit_of_queryOf_eq_error hquery⟩
  | ok query =>
    obtain ⟨rfl, hwhole⟩ := queryOf_eq_ok_iff.1 hquery
    have hlong : Http.Url.maxLength < (Http.Form.encode (paramPairs params)).length :=
      Nat.not_le.1 fun hshort => hfits ⟨hwhole, hshort⟩
    refine ⟨_, ?_, .long hlong⟩
    show (bare.withQuery _).mapError Fault.url = _
    rw [Http.Url.withQuery_of_long hput hlong]
    rfl

variable {method : Http.Method} {request : Http.Request}

/-- **A client that can send one request can send another** for the same path,
if what is asked fits into an address. The two differ in their query alone. -/
theorem outgoing_of_fits (h : outgoing client method path others none = .ok request)
    (hothers : others ≠ []) (hparams : params ≠ []) (hfits : Fits (paramPairs params)) :
    outgoing client method path params none =
      .ok { request with
        url := { request.url with query := some (Http.Form.encode (paramPairs params)) } } := by
  obtain ⟨url, haddress, h⟩ := Except.bind_eq_ok.1 h
  obtain ⟨⟨⟩, hbody, h⟩ := Except.bind_eq_ok.1 h
  obtain ⟨⟨⟩, hhost, h⟩ := Except.bind_eq_ok.1 h
  obtain ⟨⟨⟩, hopen, h⟩ := Except.bind_eq_ok.1 h
  obtain ⟨name, hname, h⟩ := Except.bind_eq_ok.1 h
  cases h
  -- the checks after that of the address do not read the query
  refine Except.bind_eq_ok.2 ⟨_, address_of_fits haddress hothers hparams hfits, ?_⟩
  refine Except.bind_eq_ok.2 ⟨(), hbody, Except.bind_eq_ok.2 ⟨(), hhost, ?_⟩⟩
  exact Except.bind_eq_ok.2 ⟨(), hopen, Except.bind_eq_ok.2 ⟨name, hname, rfl⟩⟩

/-- What does not fit into an address is not asked. -/
theorem outgoing_of_not_fits (h : outgoing client method path others none = .ok request)
    (hothers : others ≠ []) (hparams : params ≠ []) (hfits : ¬ Fits (paramPairs params)) :
    ∃ fault, outgoing client method path params none = .error fault ∧
      Unfit (paramPairs params) fault := by
  obtain ⟨url, haddress, -⟩ := Except.bind_eq_ok.1 h
  obtain ⟨fault, hfault, hunfit⟩ := address_of_not_fits haddress hothers hparams hfits
  exact ⟨fault, Except.bind_eq_error.2 (.inl hfault), hunfit⟩

/-- **The tracker reads what was asked.** -/
theorem params_of_query {pairs : List (String × String)}
    (hquery : request.url.query = some (Http.Form.encode pairs)) :
    request.params = Table.ofList pairs := by
  rw [Http.Request.params, hquery, Option.getD_some, Http.Form.decode_encode]

end Api

end Backlog
