import Backlog.Proofs.Http.ReadBack
import Backlog.Proofs.Table
/-!
# Page tokens are read back

The token for the next page of a search is read from an address, and written into one. Form
coding is undone by reading (`Http.Form.decode_encode`), and a query stays in its place
whatever stands around it, so the token is the first text that was put in under its name
(`Http.pageToken?_insert_query`). The address that a client asks for a page is read back as
itself (`Api.settled_of_address`), so from the address of a search its token is read, whatever
the text of the search is (`Api.page_token_is_read_back`).
-/

namespace Backlog

namespace Http

open Url (tail)

/-- The first value of each name is the one that is looked up. -/
theorem Form.get?_firstOfEach (pairs : List (String × String)) (name : String) :
    (firstOfEach pairs).get? name = pairs.lookup name := by
  have hfold : ∀ table : Table String String,
      (pairs.foldl (fun table pair => table.insertIfNew pair.1 pair.2) table).get? name =
        (table.get? name).or (pairs.lookup name) := by
    induction pairs with
    | nil => exact fun table => Option.or_none.symm
    | cons pair pairs ih =>
      intro table
      rw [List.foldl_cons, ih, Table.get?_insertIfNew, Option.or_assoc]
      congr 1
      rw [List.lookup_cons]
      by_cases hname : pair.1 = name
      · simp [hname]
      · have hother : (name == pair.1) = false := by simpa using Ne.symm hname
        simp [hname, hother]
  exact hfold []

/-- **The token in a query** is the first value that was put in as `next`. -/
theorem tokenOfQuery_encode (pairs : List (String × String)) :
    tokenOfQuery (Form.encode pairs) = pairs.lookup "next" := by
  rw [tokenOfQuery, Form.decode_encode, Form.get?_firstOfEach]

/-- The token in the text of an address. -/
theorem pageToken?_of_ofChars {cs : List Char} {url : Url} (hcs : cs ≠ [])
    (h : Url.ofChars cs = .ok url) :
    pageToken? (.text (String.ofList cs)) = .ok (tokenOfQuery (url.query.getD [])) := by
  have htruthy : (Value.text (String.ofList cs)).truthy = true := by
    have hne : String.ofList cs ≠ "" := fun heq => hcs (by
      rw [← String.toList_ofList (l := cs), heq]
      rfl)
    simpa [Value.truthy] using hne
  rw [pageToken?, htruthy, String.toList_ofList, h]
  rfl

/-- **The token of a text with a query put in** is the first value of the query with the name
`next`, if the text without the query is an address. -/
theorem pageToken?_insert_query {place : List Char} {fragment : Option (List Char)} {url : Url}
    {pairs : List (String × String)} (hquestion : '?' ∉ place) (hmark : '#' ∉ place)
    (h : Url.ofChars (place ++ tail none fragment) = .ok url)
    (hlength : (place ++ tail (some (Form.encode pairs)) fragment).length ≤ Url.maxLength) :
    pageToken? (.text (String.ofList (place ++ tail (some (Form.encode pairs)) fragment))) =
      .ok (pairs.lookup "next") := by
  have hread := Url.ofChars_insert_query hquestion hmark h
    (fun c hc => Form.isQueryChar_of_mem_encode hc) hlength
  have hsome : place ++ tail (some (Form.encode pairs)) fragment ≠ [] :=
    List.append_ne_nil_of_right_ne_nil _ (List.cons_ne_nil _ _)
  rw [pageToken?_of_ofChars hsome hread, Option.getD_some, tokenOfQuery_encode]

end Http

namespace Api

open Http.Url (Sound Settled tail)

variable {client opened : Client} {path : String} {params : Params} {url : Http.Url}

/-! ## The address of a request -/

/-- A client is opened with an address that was read. -/
theorem sound_of_connect {serial : Nat} {settings : Settings}
    (h : Client.connect serial settings = .ok client) : Sound client.base := by
  obtain ⟨read, hread, hbase⟩ := exists_read_of_connect h
  have hsound := Http.Url.sound_of_ofChars hread
  rcases Http.Url.of_withFinalSlash hbase with ⟨hsame, -⟩ | hput
  · rwa [hsame]
  · exact (hsound.read_again (Http.Url.ofParts_of_withRawTarget hput)).1

/-- **Every address that a request is sent to is read as itself**, if the base address of
the client has a scheme and a host. -/
theorem settled_of_address (hbase : Sound client.base) (hscheme : client.base.scheme ≠ [])
    (hhost : client.base.host ≠ []) (h : address client path params = .ok url) : Settled url := by
  have hbare : ∀ bare, address client path [] = .ok bare → Settled bare := by
    intro bare haddress
    obtain ⟨reference, -, happend⟩ := of_address haddress
    exact hbase.settled_of_ofParts hscheme hhost (Http.Url.ofParts_of_withRawTarget happend)
  by_cases hparams : params = []
  · rw [hparams] at h
    exact hbare url h
  · obtain ⟨bare, query, haddress, hput⟩ := exists_withQuery h hparams
    have hsettled := hbare bare haddress
    exact hsettled.toSound.settled_of_ofParts hsettled.scheme_ne_nil hsettled.host_ne_nil
      (Http.Url.ofParts_of_replaceTarget hput)

/-- What is asked for stands in the query. -/
theorem query_of_address (h : address client path params = .ok url) (hparams : params ≠ []) :
    url.query = some (Http.Form.encode (paramPairs params)) := by
  rw [address_eq client path hparams] at h
  obtain ⟨bare, -, h⟩ := Except.bind_eq_ok.1 h
  obtain ⟨query, hquery, h⟩ := Except.bind_eq_ok.1 h
  obtain ⟨rfl, -⟩ := queryOf_eq_ok_iff.1 hquery
  have hput := Http.Url.ofParts_of_replaceTarget (Except.mapError_eq_ok_iff.1 h)
  obtain ⟨host, port, -, -, hurl⟩ := Http.Url.of_ofParts hput
  rw [hurl, Option.map_some,
    Http.Percent.encode_eq_self fun c hc => Http.Form.isQueryChar_of_mem_encode hc]

/-! ## Searches -/

/-- The page that a search asks for stands behind all else, under its name. -/
theorem lookup_searchParams (query pageSize : Value) {token : String} (htoken : token ≠ "") :
    (paramPairs (searchParams query pageSize (.text token))).lookup "next" = some token := by
  have hothers : ∀ (name : String) (texts : List String) (rest : List (String × String)),
      name ≠ "next" →
        ((texts.map fun text => (name, text)) ++ rest).lookup "next" = rest.lookup "next" := by
    intro name texts rest hname
    have hfalse : ("next" == name) = false := by simpa using Ne.symm hname
    induction texts with
    | nil => rfl
    | cons text texts ih => rw [List.map_cons, List.cons_append, List.lookup_cons, hfalse, ih]
  have htruthy : (Value.text token).truthy = true := by simpa [Value.truthy] using htoken
  rw [searchParams, htruthy, if_pos rfl, paramPairs]
  simp only [List.cons_append, List.nil_append, List.flatMap_cons, List.flatMap_nil]
  rw [hothers _ _ _ (by decide), hothers _ _ _ (by decide), hothers _ _ _ (by decide)]
  rfl

/-- **A search sends one request at most**, to the address of its page. -/
theorem search_sends (kind : Kind) (query pageSize token : Value) (remote : Remote) (s : Session) :
    (search kind query pageSize token remote s).2.exchanges = s.exchanges ∨
      ∃ path request reply, kind.searchPath? = some path ∧
        address s.client path (searchParams query pageSize token) = .ok request.url ∧
        (search kind query pageSize token remote s).2.exchanges =
          s.exchanges ++ [⟨s.client.serial, request, reply⟩] := by
  cases hpath : kind.searchPath? with
  | none =>
    rw [search, Run.bind_apply, Run.lift_apply, hpath]
    exact .inl rfl
  | some path =>
    have hsame : (search kind query pageSize token remote s).2 =
        (get path (searchParams query pageSize token) remote s).2 := by
      rw [search, Run.bind_apply, Run.lift_apply, hpath]
      dsimp only [Kind.require]
      rw [Run.bind_apply]
      rcases get path (searchParams query pageSize token) remote s with ⟨_ | reply, t⟩ <;> rfl
    rw [hsame, get, request_apply]
    cases hout : outgoing s.client .get path (searchParams query pageSize token) none with
    | error fault => exact .inl rfl
    | ok request => exact .inr ⟨path, request, _, rfl, address_of_outgoing hout, rfl⟩

/-- **The page token is read back**, in two parts. Whatever named texts are put as the query
into the text of an address or a path that has none, with its fragment behind it, the token
that is read is the first of them named `next`. And of a client that was opened with an
address with a scheme and a host, the address of a search, to which alone the search sends,
has the token of the page that is asked for, whatever else is asked. -/
theorem page_token_is_read_back :
    (∀ (place : List Char) (fragment : Option (List Char)) (url : Http.Url)
        (pairs : List (String × String)), '?' ∉ place → '#' ∉ place →
      Http.Url.ofChars (place ++ tail none fragment) = .ok url →
      (place ++ tail (some (Http.Form.encode pairs)) fragment).length ≤ Http.Url.maxLength →
        Http.pageToken?
            (.text (String.ofList (place ++ tail (some (Http.Form.encode pairs)) fragment))) =
          .ok (pairs.lookup "next")) ∧
    ∀ (serial : Nat) (settings : Settings) (opened client : Client),
      Client.connect serial settings = .ok opened → opened.base.scheme ≠ [] →
      opened.base.host ≠ [] → client.base = opened.base →
      ∀ (kind : Kind) (query pageSize : Value) (token : String), token ≠ "" →
        (∀ (path : String) (url : Http.Url), kind.searchPath? = some path →
          address client path (searchParams query pageSize (.text token)) = .ok url →
          url.display.length ≤ Http.Url.maxLength →
            Http.pageToken? (.text (String.ofList url.display)) = .ok (some token)) ∧
        ∀ (remote : Remote) (s : Session), s.client = client →
          ∀ exchange ∈ (search kind query pageSize (.text token) remote s).2.exchanges,
            exchange ∈ s.exchanges ∨ ∃ path, kind.searchPath? = some path ∧
              address client path (searchParams query pageSize (.text token)) =
                .ok exchange.request.url := by
  refine ⟨fun place fragment url pairs hquestion hmark hread hlength =>
    Http.pageToken?_insert_query hquestion hmark hread hlength, ?_⟩
  intro serial settings opened client hconnect hscheme hhost hbase kind query pageSize token htoken
  rw [← hbase] at hscheme hhost
  have hsound : Sound client.base := hbase ▸ sound_of_connect hconnect
  constructor
  · intro path url _ haddress hlength
    have hsettled := settled_of_address hsound hscheme hhost haddress
    have hsome : url.display ≠ [] := by
      rw [Http.Url.display, if_neg hsettled.scheme_ne_nil]
      simp
    have hquery := query_of_address haddress (List.cons_ne_nil _ _)
    rw [Http.pageToken?_of_ofChars hsome (hsettled.ofChars_display hlength), hquery,
      Option.getD_some, Http.tokenOfQuery_encode, lookup_searchParams query pageSize htoken]
  · rintro remote s rfl exchange hmem
    rcases search_sends kind query pageSize (.text token) remote s with
      hsame | ⟨path, request, reply, hpath, haddress, hsent⟩
    · exact .inl (hsame ▸ hmem)
    · rw [hsent, List.mem_append, List.mem_singleton] at hmem
      refine hmem.imp_right fun heq => ⟨path, hpath, ?_⟩
      rw [heq]
      exact haddress

/-- A search whose text names another page, and an address that names two. -/
theorem spoofed_token_is_not_read :
    Http.pageToken? (.text "/search?query=%26next%3D1&next=a+%2B&next=2#top") =
        .ok (some "a +") ∧
      ∃ url, address Sample.opened "/search/stories"
          (searchParams (.text "x&next=1#") (.int 25) (.text "a+b&c")) = .ok url ∧
        String.ofList url.display = "https://tracker/api/search/stories" ++
          "?query=x%26next%3D1%23&page_size=25&detail=slim&next=a%2Bb%26c" ∧
        Http.pageToken? (.text (String.ofList url.display)) = .ok (some "a+b&c") := by
  obtain ⟨place, hplace, -⟩ := Except.map_toOption_eq_some_iff.1
    (show (Http.Url.ofChars ("/search".toList ++ tail none (some "top".toList))).toOption.map
        (fun _ => ()) = some () by decide +kernel)
  have htext : String.ofList ("/search".toList ++ tail (some (Http.Form.encode
      [("query", "&next=1"), ("next", "a +"), ("next", "2")])) (some "top".toList)) =
        "/search?query=%26next%3D1&next=a+%2B&next=2#top" := by decide +kernel
  obtain ⟨url, hurl, hdisplay⟩ := Except.map_toOption_eq_some_iff.1
    (show (address Sample.opened "/search/stories"
        (searchParams (.text "x&next=1#") (.int 25) (.text "a+b&c"))).toOption.map
          (fun url => String.ofList url.display) = some ("https://tracker/api/search/stories" ++
            "?query=x%26next%3D1%23&page_size=25&detail=slim&next=a%2Bb%26c") by decide +kernel)
  refine ⟨?_, url, hurl, hdisplay, ?_⟩
  · rw [← htext]
    exact page_token_is_read_back.1 "/search".toList (some "top".toList) place
      [("query", "&next=1"), ("next", "a +"), ("next", "2")] (by decide) (by decide) hplace
      (by decide +kernel)
  · have hlength : url.display.length ≤ Http.Url.maxLength := by
      rw [← String.toList_ofList (l := url.display), hdisplay]
      decide +kernel
    exact (page_token_is_read_back.2 0 ⟨.text "token", "https://tracker/api", .int 30⟩
      Sample.opened Sample.opened Sample.connect_opened (by decide) (by decide) rfl .stories
      (.text "x&next=1#") (.int 25) "a+b&c" (by decide)).1 "/search/stories" url rfl hurl hlength

end Api

end Backlog
