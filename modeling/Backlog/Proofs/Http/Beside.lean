import Backlog.Proofs.EntityAddress
import Backlog.Proofs.Http.Target
/-!
# Addresses beside each other

Where one path can be put behind a base address, a path of one word can be put that is not
longer (`Url.exists_append_word`): what keeps a path from its place is in the base address,
which both share, or in its length. So a client that can ask for an entity can be asked to
create one (`Api.exists_outgoing_word`).
-/

namespace Backlog

namespace Http.Url

/-- Whether path and query of an address are in percent coding. -/
structure Coded (url : Url) : Prop where
  /-- The path is. -/
  path : ∀ c ∈ url.path, isPathChar c = true
  /-- The query is, if there is one. -/
  query : ∀ query, url.query = some query → ∀ c ∈ query, isQueryChar c = true

variable {url : Url}

theorem isQueryChar_of_isPathChar {c : Char} (h : isPathChar c = true) : isQueryChar c = true := by
  rw [isPathChar, Bool.and_eq_true] at h
  exact h.1

/-- What stands in a query in percent coding can stand in a query. -/
theorem isQueryChar_of_mem_encode {cs : List Char} {c : Char}
    (h : c ∈ Percent.encode isQueryChar cs) : isQueryChar c = true := by
  rcases Percent.of_mem_encode h with ⟨-, hsafe⟩ | rfl | halphanum
  · exact hsafe
  · decide
  · exact isQueryChar_of_isPathChar (isPathChar_of_isAlphanum halphanum)

/-- **What is read is in percent coding.** -/
theorem coded_of_ofParts {scheme authority path : List Char} {query fragment : Option (List Char)}
    (h : ofParts scheme authority path query fragment = .ok url) : Coded url := by
  obtain ⟨host, port, -, -, hurl⟩ := of_ofParts h
  rw [hurl]
  refine ⟨fun c hc => isPathChar_of_mem_encode hc, fun coded hcoded c hc => ?_⟩
  obtain ⟨text, -, rfl⟩ := Option.map_eq_some_iff.1 hcoded
  exact isQueryChar_of_mem_encode hc

theorem Coded.requestPath (h : Coded url) : ∀ c ∈ url.requestPath, isPathChar c = true := by
  intro c hc
  rw [Url.requestPath] at hc
  split at hc
  · rw [List.mem_singleton.1 hc]
    decide
  · exact h.path c hc

theorem requestPath_ne_nil (url : Url) : url.requestPath ≠ [] := by
  rw [requestPath]
  split
  · exact List.cons_ne_nil _ _
  · next h => exact h

/-- A path in percent coding has no mark of a query. -/
theorem not_mem_of_isPathChar {cs : List Char} (h : ∀ c ∈ cs, isPathChar c = true) :
    '?' ∉ cs := fun hmem => absurd (h _ hmem) (by decide)

/-! ## The check of a path -/

/-- What starts with two slashes. -/
theorem exists_of_isSome_afterStart? {path : List Char}
    (h : (Text.afterStart? ['/', '/'] path).isSome = true) :
    ∃ rest, path = '/' :: '/' :: rest := by
  obtain ⟨rest, hrest⟩ := Option.isSome_iff_exists.1 h
  exact ⟨rest, Text.afterStart?_eq_some_iff.1 hrest⟩

/-- **What follows the first part of a path has no say in its check**, if it starts with
no slash. -/
theorem checkPath_append {front back other : List Char} (hfront : front ≠ [])
    (hother : other.head? ≠ some '/') (h : checkPath url (front ++ back) = .ok ()) :
    checkPath url (front ++ other) = .ok () := by
  obtain ⟨c, cs, rfl⟩ := List.exists_cons_of_ne_nil hfront
  have hslashes : (Text.afterStart? ['/', '/'] (c :: cs ++ other)).isSome = true →
      (Text.afterStart? ['/', '/'] (c :: cs ++ back)).isSome = true := by
    intro hsome
    obtain ⟨rest, hrest⟩ := exists_of_isSome_afterStart? hsome
    cases cs with
    | nil =>
      rw [List.singleton_append, List.cons.injEq] at hrest
      rw [hrest.2] at hother
      exact absurd rfl hother
    | cons d ds =>
      rw [List.cons_append, List.cons_append, List.cons.injEq, List.cons.injEq] at hrest
      rw [hrest.1, hrest.2.1]
      exact Option.isSome_iff_exists.2 ⟨_, Text.afterStart?_eq_some_iff.2 rfl⟩
  rw [checkPath] at h ⊢
  split at h
  · cases h
  · next hrooted =>
    split at h
    · cases h
    · next hdouble =>
      split at h
      · cases h
      · next hcolon =>
        rw [if_neg, if_neg, if_neg]
        · exact fun hno => hcolon hno
        · exact fun hno => hdouble ⟨hno.1, hslashes hno.2⟩
        · exact fun hno => hrooted ⟨hno.1, List.cons_ne_nil _ _, hno.2.2⟩

/-- **Another path and query can be read with the same parts**, if they are in percent
coding and the path passes where the first one does. -/
theorem exists_ofParts {scheme authority path other : List Char}
    {query params fragment : Option (List Char)}
    (h : ofParts scheme authority path query fragment = .ok url)
    (hcheck : ∀ root : Url, checkPath root path = .ok () → checkPath root other = .ok ())
    (hother : ∀ c ∈ other, isPathChar c = true)
    (hparams : ∀ c ∈ params.getD [], isQueryChar c = true) :
    ∃ answered, ofParts scheme authority other params fragment = .ok answered := by
  rcases hcut : cutHost authority with ⟨userinfo, hostText, portText⟩
  rw [ofParts, hcut] at h ⊢
  obtain ⟨⟨⟩, huserinfo, h⟩ := Except.bind_eq_ok.1 h
  obtain ⟨host, hhost, h⟩ := Except.bind_eq_ok.1 h
  obtain ⟨port, hport, h⟩ := Except.bind_eq_ok.1 h
  obtain ⟨⟨⟩, hchecked, h⟩ := Except.bind_eq_ok.1 h
  obtain ⟨⟨⟩, -, h⟩ := Except.bind_eq_ok.1 h
  obtain ⟨⟨⟩, -, h⟩ := Except.bind_eq_ok.1 h
  obtain ⟨⟨⟩, hfragment, h⟩ := Except.bind_eq_ok.1 h
  refine Except.exists_bind_eq_ok huserinfo (Except.exists_bind_eq_ok hhost ?_)
  refine Except.exists_bind_eq_ok hport (Except.exists_bind_eq_ok (hcheck _ hchecked) ?_)
  refine Except.exists_bind_eq_ok (checkHalves_of_isQueryChar fun c hc => ?_) ?_
  · split at hc
    · rcases of_mem_withoutDots hc with rfl | hc
      · decide
      · exact isQueryChar_of_isPathChar (hother c hc)
    · exact isQueryChar_of_isPathChar (hother c hc)
  · refine Except.exists_bind_eq_ok (checkHalves_of_isQueryChar hparams) ?_
    exact Except.exists_bind_eq_ok hfragment ⟨_, rfl⟩

/-- **Another path and query can be put in place of those of an address** where a path and
query can that are not shorter. -/
theorem exists_replaceTarget {answered : Url} {path other : List Char}
    {query params : Option (List Char)} (h : url.replaceTarget path query = .ok answered)
    (hshort : other.length ≤ path.length)
    (hshortQuery : (params.getD []).length ≤ (query.getD []).length)
    (hcheck : ∀ root : Url, checkPath root path = .ok () → checkPath root other = .ok ())
    (hother : ∀ c ∈ other, isPathChar c = true)
    (hparams : ∀ c ∈ params.getD [], isQueryChar c = true) :
    ∃ put, url.replaceTarget other params = .ok put := by
  obtain ⟨⟨⟩, hauthority, h⟩ := Except.bind_eq_ok.1 h
  obtain ⟨⟨⟩, hpath, h⟩ := Except.bind_eq_ok.1 h
  obtain ⟨⟨⟩, hquery, h⟩ := Except.bind_eq_ok.1 h
  obtain ⟨⟨⟩, hfragment, h⟩ := Except.bind_eq_ok.1 h
  rw [checkLength_eq_ok_iff] at hpath hquery
  have hpathOther : checkLength "path" other = .ok () :=
    checkLength_eq_ok_iff.2 (Nat.le_trans hshort hpath)
  have hqueryOther : checkLength "query" (params.getD []) = .ok () :=
    checkLength_eq_ok_iff.2 (Nat.le_trans hshortQuery hquery)
  refine Except.exists_bind_eq_ok hauthority (Except.exists_bind_eq_ok hpathOther ?_)
  refine Except.exists_bind_eq_ok hqueryOther (Except.exists_bind_eq_ok hfragment ?_)
  exact exists_ofParts h hcheck hother hparams

/-! ## Behind a base address -/

/-- Where the target of a base address with something put behind it is cut. -/
theorem cutQuery_target_append {base : Url} (hbase : Coded base) (text : List Char) :
    cutQuery (base.target ++ text) =
      match base.query with
      | none => (base.requestPath ++ (cutQuery text).1, (cutQuery text).2)
      | some query => (base.requestPath, some (query ++ text)) := by
  have hmark := not_mem_of_isPathChar hbase.requestPath
  rw [target]
  cases base.query with
  | none =>
    dsimp only
    rw [List.append_nil, cutQuery, Text.cutAtChar_append_of_not_mem hmark]
    rfl
  | some query =>
    dsimp only
    rw [List.append_assoc, List.cons_append, cutQuery, Text.cutAtChar_append hmark]

/-- What is put behind a base address for a path of one word and what follows it. -/
theorem dropWhile_slash {word : List Char} (hword : IsWord word) (rest : List Char) :
    ('/' :: (word ++ rest)).dropWhile (· = '/') = word ++ rest := by
  obtain ⟨w, ws, rfl⟩ := List.exists_cons_of_ne_nil hword.1
  have hslash : '/' ∉ w :: ws := hword.not_mem (by decide)
  have hw : w ≠ '/' := fun hw => hslash (hw ▸ List.mem_cons_self)
  rw [List.dropWhile_cons_of_pos (by decide), List.cons_append,
    List.dropWhile_cons_of_neg (by simpa using hw)]

/-- **Where a path of a word and something behind it can be put, a path of one word can be
put**, if it is not longer. -/
theorem exists_append_word {base first second answered : Url} (hbase : Coded base)
    {word rest other : List Char} (hword : IsWord word) (hother : IsWord other)
    (hfirst : first.target = '/' :: (word ++ '/' :: rest)) (hsecond : second.target = '/' :: other)
    (hshort : other.length ≤ word.length + 1) (h : base.append first = .ok answered) :
    ∃ url, base.append second = .ok url := by
  have hmark : '?' ∉ other := hother.not_mem (by decide)
  have hcutOther : cutQuery other = (other, none) := Text.cutAtChar_of_not_mem hmark
  have hdropOther : ('/' :: other).dropWhile (· = '/') = other := by
    have hdrop := dropWhile_slash hother []
    rwa [List.append_nil] at hdrop
  have hhead : other.head? ≠ some '/' := by
    intro hslash
    exact hother.not_mem (by decide) (List.mem_of_mem_head? hslash)
  rw [append, hfirst, dropWhile_slash hword _, withRawTarget] at h
  rw [append, hsecond, hdropOther, withRawTarget]
  rw [cutQuery_target_append hbase] at h ⊢
  cases hquery : base.query with
  | none =>
    rw [hquery] at h
    dsimp only at h ⊢
    have hcut : (cutQuery (word ++ '/' :: rest)).1 = word ++ '/' :: (cutQuery rest).1 := by
      rw [cutQuery, Text.cutAtChar_append_of_not_mem (hword.not_mem (by decide)), Text.cutAtChar,
        if_neg (by decide)]
      rfl
    rw [hcut] at h
    rw [hcutOther]
    refine exists_replaceTarget h ?_ (Nat.zero_le _) (fun root => ?_) (fun c hc => ?_) ?_
    · simp only [List.length_append, List.length_cons]
      omega
    · exact checkPath_append (requestPath_ne_nil base) hhead
    · exact (List.mem_append.1 hc).elim (hbase.requestPath c) (hother.isPathChar c)
    · exact List.forall_mem_nil _
  | some query =>
    rw [hquery] at h
    dsimp only at h ⊢
    refine exists_replaceTarget h (Nat.le_refl _) ?_ (fun _ hcheck => hcheck) hbase.requestPath
      fun c hc => ?_
    · simp only [Option.getD_some, List.length_append, List.length_cons]
      omega
    · rcases List.mem_append.1 hc with hc | hc
      · exact hbase.query query hquery c hc
      · exact isQueryChar_of_isPathChar (hother.isPathChar c hc)

end Http.Url

namespace Api

open Http.Url (IsWord)

/-- What a client is opened with is in percent coding. -/
theorem coded_of_connect {serial : Nat} {settings : Settings} {client : Client}
    (h : Client.connect serial settings = .ok client) : client.base.Coded := by
  obtain ⟨url, hurl, hbase⟩ := exists_read_of_connect h
  rcases Http.Url.of_withFinalSlash hbase with ⟨hsame, -⟩ | hput
  · rw [hsame]
    exact Http.Url.coded_of_ofParts (Http.Url.ofParts_of_ofChars hurl)
  · exact Http.Url.coded_of_ofParts (Http.Url.ofParts_of_withRawTarget hput)

/-- The path of a kind is read as it is. -/
theorem exists_ofChars_entityPath {kind : Kind} {path : String}
    (h : kind.entityPath? = some path) :
    ∃ url, Http.Url.ofChars path.toList = .ok url ∧ url.target = path.toList := by
  refine Except.map_toOption_eq_some_iff.1 ?_
  cases kind <;> cases h <;> decide +kernel

/-- No path of a kind is much longer than that of workflows. -/
theorem length_entityPath_le {kind : Kind} {path : String} (h : kind.entityPath? = some path) :
    path.toList.length ≤ 11 := by
  cases kind <;> cases h <;> decide

/-- **A client that can ask for a workflow can send to the path of a kind.** -/
theorem exists_outgoing_of_workflow {client : Client} (hbase : client.base.Coded) {id : String}
    {request : Http.Request}
    (h : outgoing client .get ("/workflows" ++ "/" ++ id) [] none = .ok request) {kind : Kind}
    {path : String} (hpath : kind.entityPath? = some path) (method : Http.Method) :
    ∃ sent, outgoing client method path [] none = .ok sent := by
  obtain ⟨url, haddress, h⟩ := Except.bind_eq_ok.1 h
  obtain ⟨⟨⟩, hbody, h⟩ := Except.bind_eq_ok.1 h
  obtain ⟨⟨⟩, hhost, h⟩ := Except.bind_eq_ok.1 h
  obtain ⟨⟨⟩, hopen, h⟩ := Except.bind_eq_ok.1 h
  obtain ⟨name, hname, -⟩ := Except.bind_eq_ok.1 h
  obtain ⟨reference, hreference, happend⟩ := of_address haddress
  have hworkflowsPath : Kind.workflows.entityPath? = some "/workflows" := rfl
  obtain ⟨word, hword, hletters⟩ := exists_word hworkflowsPath
  obtain ⟨other, hother, hotherLetters⟩ := exists_word hpath
  have htext : ("/workflows" ++ "/" ++ id).toList = '/' :: (word ++ '/' :: id.toList) := by
    rw [String.toList_append, String.toList_append, hword]
    simp
  rw [htext] at hreference
  obtain ⟨hreferencePath, -⟩ := Http.Url.of_ofChars_word hletters hreference
  obtain ⟨rest, hrest⟩ : ∃ rest, reference.target = '/' :: (word ++ '/' :: rest) := by
    rw [Http.Url.target, Http.Url.requestPath, hreferencePath, if_neg (List.cons_ne_nil _ _)]
    exact ⟨_, by simp only [List.cons_append, List.append_assoc]; rfl⟩
  obtain ⟨second, hsecond, htarget⟩ := exists_ofChars_entityPath hpath
  rw [hother] at htarget
  have hshort : other.length ≤ word.length + 1 := by
    have hlength := length_entityPath_le hpath
    have hworkflows : ("/workflows").toList.length = word.length + 1 := congrArg List.length hword
    rw [show ("/workflows").toList.length = 10 from rfl] at hworkflows
    rw [hother, List.length_cons] at hlength
    omega
  obtain ⟨sibling, hsibling⟩ :=
    Http.Url.exists_append_word hbase hletters hotherLetters hrest htarget hshort happend
  -- the two addresses have the same host, so what is checked of it passes again
  have hsame := Http.Url.rest_of_append happend hsibling
  have hplace : address client path [] = .ok sibling := by
    refine Except.bind_eq_ok.2 ⟨second, Except.mapError_eq_ok_iff.2 hsecond, ?_⟩
    exact Except.bind_eq_ok.2 ⟨sibling, Except.mapError_eq_ok_iff.2 hsibling, rfl⟩
  have hhostSibling : checkHost sibling = .ok () := by
    rw [hsame]
    exact hhost
  have hnameSibling : sibling.plainHost.mapError Fault.hostName = .ok name := by
    rw [hsame]
    exact hname
  refine Except.exists_bind_eq_ok hplace (Except.exists_bind_eq_ok hbody ?_)
  refine Except.exists_bind_eq_ok hhostSibling (Except.exists_bind_eq_ok hopen ?_)
  exact Except.exists_bind_eq_ok hnameSibling ⟨_, rfl⟩

end Api

end Backlog
