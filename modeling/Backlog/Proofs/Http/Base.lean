import Backlog.Proofs.Http.Segments
import Backlog.Proofs.Run
/-!
# Paths behind a base address

An address is read from the parts that its text is cut into, each by itself
(`Url.of_ofParts`). A base address (`Url.IsBase`) ends in a slash, has no dot segments
and no query: an address with a slash put at its end is one
(`Url.isBase_of_withFinalSlash`). A text that is put behind it, with the path of a word
in between, stays there as one segment if and only if it is one as it is written
(`Url.stays_iff`): it has none of the characters that end a segment or start an escape,
and is not `.` or `..`.
-/

namespace Backlog

namespace Http.Url

variable {scheme authority path : List Char} {query fragment : Option (List Char)} {url : Url}

/-- **What the parts of an address are read as**: each by itself, but for whether dot
segments are taken from the path. -/
theorem of_ofParts (h : ofParts scheme authority path query fragment = .ok url) :
    ∃ host port, Host.ofChars (cutHost authority).2.1 = .ok host ∧
      readPort scheme (cutHost authority).2.2 = .ok port ∧
      url = { scheme := scheme.map Char.toLower
              userinfo := Percent.encode isUserinfoChar (cutHost authority).1
              host
              port
              path := Percent.encode isPathChar (if url.isRooted then withoutDots path else path)
              query := query.map (Percent.encode isQueryChar)
              fragment := fragment.map (Percent.encode isFragmentChar) } := by
  rcases hcut : cutHost authority with ⟨userinfo, hostText, portText⟩
  rw [ofParts, hcut] at h
  obtain ⟨⟨⟩, -, h⟩ := Except.bind_eq_ok.1 h
  obtain ⟨host, hhost, h⟩ := Except.bind_eq_ok.1 h
  obtain ⟨port, hport, h⟩ := Except.bind_eq_ok.1 h
  obtain ⟨⟨⟩, -, h⟩ := Except.bind_eq_ok.1 h
  obtain ⟨⟨⟩, -, h⟩ := Except.bind_eq_ok.1 h
  obtain ⟨⟨⟩, -, h⟩ := Except.bind_eq_ok.1 h
  obtain ⟨⟨⟩, -, h⟩ := Except.bind_eq_ok.1 h
  cases h
  exact ⟨host, port, hhost, hport, rfl⟩

theorem scheme_eq_nil_iff (h : ofParts scheme authority path query fragment = .ok url) :
    url.scheme = [] ↔ scheme = [] := by
  obtain ⟨host, port, -, -, hurl⟩ := of_ofParts h
  rw [hurl]
  exact List.map_eq_nil_iff

/-- The path and the query of an address with a scheme. -/
theorem of_ofParts_rooted (h : ofParts scheme authority path query fragment = .ok url)
    (hscheme : scheme ≠ []) :
    url.path = Percent.encode isPathChar (withoutDots path) ∧
      url.query = query.map (Percent.encode isQueryChar) := by
  have hsome : url.scheme ≠ [] := mt (scheme_eq_nil_iff h).1 hscheme
  obtain ⟨host, port, -, -, hurl⟩ := of_ofParts h
  have hrooted : url.isRooted = true := by simp [isRooted, hsome]
  rw [hrooted, if_pos rfl] at hurl
  rw [hurl]
  exact ⟨rfl, rfl⟩

/-- A path by itself. -/
theorem of_ofParts_bare (h : ofParts [] [] path query fragment = .ok url) :
    url.path = Percent.encode isPathChar path ∧
      url.query = query.map (Percent.encode isQueryChar) := by
  obtain ⟨host, port, hhost, hport, hurl⟩ := of_ofParts h
  cases hhost
  cases hport
  have hbare : url.isRooted = false := by
    rw [hurl]
    rfl
  rw [hbare, if_neg Bool.false_ne_true] at hurl
  rw [hurl]
  exact ⟨rfl, rfl⟩

/-- **Path and query have no say in the rest of an address.** -/
theorem rest_of_ofParts {other : List Char} {params : Option (List Char)} {answered : Url}
    (h : ofParts scheme authority path query fragment = .ok url)
    (hother : ofParts scheme authority other params fragment = .ok answered) :
    answered = { url with path := answered.path, query := answered.query } := by
  obtain ⟨host, port, hhost, hport, hurl⟩ := of_ofParts h
  obtain ⟨host', port', hhost', hport', hanswered⟩ := of_ofParts hother
  cases hhost.symm.trans hhost'
  cases hport.symm.trans hport'
  rw [hurl, hanswered]

/-- An address is read from the parts that its text is cut into. -/
theorem ofParts_of_ofChars {cs : List Char} (h : ofChars cs = .ok url) :
    ofParts (cutScheme cs).1 (cutAuthority (cutScheme cs).2).1
      (cutQuery (Text.cutAtChar '#' (cutAuthority (cutScheme cs).2).2).1).1
      (cutQuery (Text.cutAtChar '#' (cutAuthority (cutScheme cs).2).2).1).2
      (Text.cutAtChar '#' (cutAuthority (cutScheme cs).2).2).2 = .ok url := by
  rw [ofChars] at h
  split at h
  · cases h
  · dsimp only at h
    split at h
    · cases h
    · exact h

/-- A path has no scheme and no authority. -/
theorem cut_path {c : Char} (hc : c ≠ '/') (cs : List Char) :
    cutScheme ('/' :: c :: cs) = ([], '/' :: c :: cs) ∧
      cutAuthority ('/' :: c :: cs) = ([], '/' :: c :: cs) := by
  refine ⟨rfl, ?_⟩
  rw [cutAuthority]
  rintro rest ⟨⟩
  exact hc rfl

/-! ## Base addresses -/

/-- Letters and digits can stand in a path. -/
theorem isPathChar_of_isAlphanum {c : Char} (h : c.isAlphanum = true) : isPathChar c = true :=
  Text.of_isAlphanum (p := fun c => isPathChar c = true) (by decide) h

/-- What stands in a path in percent coding can stand in a path. -/
theorem isPathChar_of_mem_encode {cs : List Char} {c : Char}
    (h : c ∈ Percent.encode isPathChar cs) : isPathChar c = true := by
  rcases Percent.of_mem_encode h with ⟨-, hsafe⟩ | rfl | halphanum
  · exact hsafe
  · decide
  · exact isPathChar_of_isAlphanum halphanum

/-- A path that ends in a slash does so when its dot segments are taken away, or is
empty. -/
theorem withoutDots_append_slash (path : List Char) :
    withoutDots (path ++ ['/']) = [] ∨ ∃ front, withoutDots (path ++ ['/']) = front ++ ['/'] := by
  have hempty : ¬ IsDots [] := by rintro (h | h) <;> cases h
  have hsplit : (Text.splitAtChar '/' (path ++ ['/'])).foldl pushSegment [] =
      (Text.splitAtChar '/' path).foldl pushSegment [] ++ [[]] := by
    rw [Text.splitAtChar_append_cons, List.foldl_append]
    exact pushSegment_of_not_isDots hempty _
  rw [withoutDots, hsplit]
  by_cases hnone : (Text.splitAtChar '/' path).foldl pushSegment [] = []
  · rw [hnone]
    exact .inl rfl
  · rw [Text.intercalate_append hnone (List.cons_ne_nil _ _)]
    exact .inr ⟨_, rfl⟩

/-- **A base address**: what paths are put behind. -/
structure IsBase (base : Url) : Prop where
  /-- It has a scheme. -/
  scheme : base.scheme ≠ []
  /-- It has no query. -/
  query : base.query = none
  /-- Its path ends in a slash, has no dot segments, and is in percent coding. -/
  path : ∃ front, base.requestPath = front ++ ['/'] ∧ Dotless front ∧
    ∀ c ∈ front, isPathChar c = true

/-- What was read from parts, and ends in a slash, is a base address. -/
theorem isBase_of_path {base : Url} (hscheme : base.scheme ≠ []) (hquery : base.query = none)
    (hpath : base.path = Percent.encode isPathChar (withoutDots path))
    (hslash : base.path = [] ∨ ∃ front, base.path = front ++ ['/']) : IsBase base := by
  refine ⟨hscheme, hquery, ?_⟩
  have hdotless : Dotless base.path := by
    rw [hpath]
    exact dotless_encode (dotless_withoutDots path)
  rcases hslash with hnone | ⟨front, hfront⟩
  · rw [requestPath, if_pos hnone]
    rw [hnone] at hdotless
    exact ⟨[], rfl, hdotless, fun c hc => absurd hc List.not_mem_nil⟩
  · have hsome : base.path ≠ [] := by
      rw [hfront]
      exact List.append_ne_nil_of_right_ne_nil _ (List.cons_ne_nil _ _)
    rw [requestPath, if_neg hsome]
    rw [hfront] at hdotless
    refine ⟨front, hfront, (dotless_append_cons_iff.1 hdotless).1, fun c hc => ?_⟩
    have hmem : c ∈ base.path := by
      rw [hfront]
      exact List.mem_append_left _ hc
    rw [hpath] at hmem
    exact isPathChar_of_mem_encode hmem

/-- What is behind an address when its path and its query are given anew. -/
theorem ofParts_of_replaceTarget {base : Url} (h : base.replaceTarget path query = .ok url) :
    ofParts base.scheme base.authority path query base.fragment = .ok url := by
  obtain ⟨⟨⟩, -, h⟩ := Except.bind_eq_ok.1 h
  obtain ⟨⟨⟩, -, h⟩ := Except.bind_eq_ok.1 h
  obtain ⟨⟨⟩, -, h⟩ := Except.bind_eq_ok.1 h
  obtain ⟨⟨⟩, -, h⟩ := Except.bind_eq_ok.1 h
  exact h

theorem ofParts_of_withRawTarget {target : List Char} {base : Url}
    (h : base.withRawTarget target = .ok url) :
    ofParts base.scheme base.authority (cutQuery target).1 (cutQuery target).2 base.fragment =
      .ok url :=
  ofParts_of_replaceTarget h

/-- An address with a slash at its end is the address itself, or was put together from it. -/
theorem of_withFinalSlash {base : Url} (h : url.withFinalSlash = .ok base) :
    base = url ∧ url.target.getLast? = some '/' ∨
      url.withRawTarget (url.target ++ ['/']) = .ok base := by
  rw [withFinalSlash] at h
  split at h
  · next hslash =>
    cases h
    exact .inl ⟨rfl, hslash⟩
  · exact .inr h

/-- **An address with a slash put at its end is a base address**, if it has a scheme and
no query. -/
theorem isBase_of_withFinalSlash {cs : List Char} {base : Url} (hurl : ofChars cs = .ok url)
    (hbase : url.withFinalSlash = .ok base) (hscheme : base.scheme ≠ [])
    (hquery : base.query = none) : IsBase base := by
  -- the slash is there already, and the text itself was read, or the target is read anew
  rcases of_withFinalSlash hbase with ⟨rfl, hslash⟩ | hbase
  · have hparts := ofParts_of_ofChars hurl
    obtain ⟨hpath, -⟩ := of_ofParts_rooted hparts (mt (scheme_eq_nil_iff hparts).2 hscheme)
    refine isBase_of_path hscheme hquery hpath ?_
    rw [target, hquery, List.append_nil, requestPath] at hslash
    split at hslash
    · next hnone => exact .inl hnone
    · exact .inr (List.getLast?_eq_some_iff.1 hslash)
  · have hparts := ofParts_of_withRawTarget hbase
    obtain ⟨hpath, hcut⟩ := of_ofParts_rooted hparts (mt (scheme_eq_nil_iff hparts).2 hscheme)
    refine isBase_of_path hscheme hquery hpath ?_
    rw [hquery, eq_comm, Option.map_eq_none_iff] at hcut
    rw [hpath, cutQuery, Text.fst_cutAtChar hcut]
    rcases withoutDots_append_slash url.target with hnone | ⟨front, hfront⟩
    · rw [hnone]
      exact .inl rfl
    · rw [hfront, Percent.encode_append]
      exact .inr ⟨_, rfl⟩

/-! ## Paths behind a base -/

/-- Whether the characters are letters, one at least. -/
def IsWord (word : List Char) : Prop := word ≠ [] ∧ ∀ c ∈ word, c.isAlpha = true

/-- What a text stands for in a path: no more than what comes before `#` and `?`. -/
def pathPart (text : List Char) : List Char := (cutQuery (Text.cutAtChar '#' text).1).1

/-- What a text stands for in a query. -/
def queryPart (text : List Char) : Option (List Char) := (cutQuery (Text.cutAtChar '#' text).1).2

namespace IsWord

variable {word : List Char}

theorem isPathChar (h : IsWord word) : ∀ c ∈ word, Url.isPathChar c = true := fun c hc =>
  isPathChar_of_isAlphanum (by rw [Char.isAlphanum, h.2 c hc, Bool.true_or])

/-- What is no letter does not stand in a word. -/
theorem not_mem (h : IsWord word) {c : Char} (hc : c.isAlpha = false) : c ∉ word := fun hmem => by
  rw [h.2 c hmem] at hc
  cases hc

end IsWord

/-- A path of one word and a text. -/
theorem of_ofChars_word {word text : List Char} (hword : IsWord word) {reference : Url}
    (h : ofChars ('/' :: (word ++ '/' :: text)) = .ok reference) :
    reference.path = '/' :: (word ++ '/' :: Percent.encode isPathChar (pathPart text)) ∧
      reference.query = (queryPart text).map (Percent.encode isQueryChar) := by
  have hbefore : '/' :: (word ++ '/' :: text) = ('/' :: (word ++ ['/'])) ++ text := by simp
  have hmark : ∀ c, c.isAlpha = false → c ≠ '/' → c ∉ '/' :: (word ++ ['/']) := by
    intro c hc hslash hmem
    rcases List.mem_cons.1 hmem with heq | hmem
    · exact hslash heq
    · rcases List.mem_append.1 hmem with hmem | hmem
      · exact hword.not_mem hc hmem
      · exact hslash (List.mem_singleton.1 hmem)
  have hparts := ofParts_of_ofChars h
  have hcut : cutScheme ('/' :: (word ++ '/' :: text)) = ([], '/' :: (word ++ '/' :: text)) ∧
      cutAuthority ('/' :: (word ++ '/' :: text)) = ([], '/' :: (word ++ '/' :: text)) := by
    obtain ⟨w, ws, rfl⟩ := List.exists_cons_of_ne_nil hword.1
    have hslash : '/' ∉ w :: ws := hword.not_mem (by decide)
    exact cut_path (fun hw => hslash (hw ▸ List.mem_cons_self)) _
  rw [hcut.1] at hparts
  dsimp only at hparts
  rw [hcut.2] at hparts
  dsimp only at hparts
  rw [hbefore, Text.cutAtChar_append_of_not_mem (hmark '#' (by decide) (by decide))] at hparts
  dsimp only at hparts
  rw [cutQuery, Text.cutAtChar_append_of_not_mem (hmark '?' (by decide) (by decide))] at hparts
  obtain ⟨hpath, hquery⟩ := of_ofParts_bare hparts
  refine ⟨?_, hquery⟩
  have hself : Percent.encode isPathChar ('/' :: (word ++ ['/'])) = '/' :: (word ++ ['/']) := by
    refine Percent.encode_eq_self fun c hc => ?_
    rcases List.mem_cons.1 hc with rfl | hc
    · decide
    · rcases List.mem_append.1 hc with hc | hc
      · exact hword.isPathChar c hc
      · rw [List.mem_singleton.1 hc]
        decide
  rw [hpath, Percent.encode_append, hself, pathPart, cutQuery]
  simp

/-- **Where a path of one word and a text leads**, behind a base address. -/
theorem of_append {base : Url} (hbase : IsBase base) {word text : List Char}
    (hword : IsWord word) {reference : Url}
    (hreference : ofChars ('/' :: (word ++ '/' :: text)) = .ok reference)
    (h : base.append reference = .ok url) :
    url.path = withoutDots
        (base.requestPath ++ (word ++ '/' :: Percent.encode isPathChar (pathPart text))) ∧
      (url.query = none ↔ queryPart text = none) := by
  obtain ⟨hpath, hquery⟩ := of_ofChars_word hword hreference
  obtain ⟨front, hfront, -, hchars⟩ := hbase.path
  obtain ⟨tail, htail⟩ : ∃ tail,
      tail = word ++ '/' :: Percent.encode isPathChar (pathPart text) := ⟨_, rfl⟩
  rw [← htail] at hpath ⊢
  -- everything before the query can stand in a path, so there is no mark in it
  have hsafe : ∀ c ∈ base.requestPath ++ tail, isPathChar c = true := by
    intro c hc
    rw [hfront, htail] at hc
    simp only [List.mem_append, List.mem_cons, List.not_mem_nil, or_false] at hc
    rcases hc with (hc | rfl) | hc | rfl | hc
    · exact hchars c hc
    · decide
    · exact hword.isPathChar c hc
    · decide
    · exact isPathChar_of_mem_encode hc
  have hmark : '?' ∉ base.requestPath ++ tail := by
    intro hmem
    have hno := hsafe _ hmem
    revert hno
    decide
  have hcut : cutQuery (base.target ++ reference.target.dropWhile (· = '/')) =
      (base.requestPath ++ tail, reference.query) := by
    have hdrop : ∀ rest, ('/' :: (tail ++ rest)).dropWhile (· = '/') = tail ++ rest := by
      intro rest
      obtain ⟨w, ws, rfl⟩ := List.exists_cons_of_ne_nil hword.1
      have hslash : '/' ∉ w :: ws := hword.not_mem (by decide)
      have hw : w ≠ '/' := fun hw => hslash (hw ▸ List.mem_cons_self)
      rw [htail, List.dropWhile_cons_of_pos (by decide), List.cons_append, List.cons_append,
        List.dropWhile_cons_of_neg (by simpa using hw)]
    have hrequest : reference.requestPath = '/' :: tail := by
      rw [requestPath, hpath, if_neg (List.cons_ne_nil _ _)]
    rw [target, hbase.query, List.append_nil, target, hrequest, List.cons_append, hdrop,
      ← List.append_assoc]
    cases reference.query with
    | none => rw [List.append_nil, cutQuery, Text.cutAtChar_of_not_mem hmark]
    | some query => rw [cutQuery, Text.cutAtChar_append hmark]
  have hparts := ofParts_of_withRawTarget h
  rw [hcut] at hparts
  obtain ⟨hplace, hread⟩ := of_ofParts_rooted hparts hbase.scheme
  constructor
  · rw [hplace]
    refine Percent.encode_eq_self fun c hc => ?_
    rcases of_mem_withoutDots hc with rfl | hc
    · decide
    · exact hsafe c hc
  · rw [hread, hquery, Option.map_eq_none_iff, Option.map_eq_none_iff]

/-! ## Texts as segments -/

/-- Whether a character stands for itself in a text that is one segment of a path. -/
def isSegmentChar (c : Char) : Bool := isPathChar c && c ≠ '/' && c ≠ '%'

/-- A text as one segment of a path, in percent coding. -/
def segmentOf (text : List Char) : List Char := Percent.encode isSegmentChar text

/-- Whether a text, put into a path as it is, is one segment of it: it has no character
that ends the segment or starts an escape, and it is not one of dots. -/
def SelfContained (text : List Char) : Prop :=
  text ≠ ['.'] ∧ text ≠ ['.', '.'] ∧ ∀ c ∈ text, c ∉ ['/', '?', '#', '%']

instance (text : List Char) : Decidable (SelfContained text) :=
  decidable_of_iff (text ≠ ['.'] ∧ text ≠ ['.', '.'] ∧
      (text.all fun c => c ∉ ['/', '?', '#', '%']) = true)
    (by simp [SelfContained])

theorem isPathChar_of_isSegmentChar {c : Char} (h : isSegmentChar c = true) :
    isPathChar c = true := by
  rw [isSegmentChar, Bool.and_eq_true, Bool.and_eq_true] at h
  exact h.1.1

/-- A text that is one segment as it is becomes one by percent coding. -/
theorem SelfContained.encode_eq {text : List Char} (h : SelfContained text) :
    Percent.encode isPathChar text = segmentOf text := by
  rw [segmentOf, Percent.encode, Percent.encode]
  refine List.flatMap_congr fun c hc => ?_
  have hplain := h.2.2 c hc
  have hsame : isSegmentChar c = isPathChar c := by
    simp only [List.mem_cons, List.not_mem_nil, or_false, not_or] at hplain
    simp [isSegmentChar, hplain]
  rw [hsame]

/-- A text that is one segment as it is has no part that is a query. -/
theorem SelfContained.parts {text : List Char} (h : SelfContained text) :
    pathPart text = text ∧ queryPart text = none := by
  have hmark : ∀ c, c ∈ ['/', '?', '#', '%'] → c ∉ text := fun c hc hmem => h.2.2 c hmem hc
  rw [pathPart, queryPart, Text.cutAtChar_of_not_mem (hmark '#' (by decide)), cutQuery,
    Text.cutAtChar_of_not_mem (hmark '?' (by decide))]
  exact ⟨rfl, rfl⟩

theorem length_encode_le_segmentOf (text : List Char) :
    (Percent.encode isPathChar text).length ≤ (segmentOf text).length ∧
      ∀ c ∈ text, isPathChar c = true → isSegmentChar c = false →
        (Percent.encode isPathChar text).length < (segmentOf text).length :=
  Percent.length_encode_le (fun c (h : isSegmentChar c = true) => isPathChar_of_isSegmentChar h)
    text

/-- If what a text puts into a path is coded no shorter than the whole text as one
segment, it is the whole text, and no mark stands in it. -/
theorem eq_of_length_segmentOf_le {text : List Char}
    (h : (segmentOf text).length ≤ (Percent.encode isPathChar (pathPart text)).length)
    (hquery : queryPart text = none) :
    pathPart text = text ∧ '#' ∉ text ∧ '?' ∉ text := by
  rw [pathPart, cutQuery, Text.fst_cutAtChar hquery] at h ⊢
  obtain ⟨hmark, htext⟩ := Text.of_cutAtChar '#' text
  have hquestion := (Text.of_cutAtChar '?' (Text.cutAtChar '#' text).1).1
  rw [Text.fst_cutAtChar hquery] at hquestion
  -- what stands behind a `#` would make the coding of the whole text longer
  cases hafter : (Text.cutAtChar '#' text).2 with
  | none =>
    rw [hafter, List.append_nil] at htext
    rw [← htext] at hmark hquestion ⊢
    exact ⟨rfl, hmark, hquestion⟩
  | some after =>
    rw [hafter] at htext
    have hmore : 3 ≤ (segmentOf ('#' :: after)).length := by
      have hthree := Percent.three_le_length_encodeChar '#'
      rw [segmentOf, Percent.encode, List.flatMap_cons, if_neg (by decide), List.length_append]
      omega
    have hlength : (segmentOf text).length =
        (segmentOf (Text.cutAtChar '#' text).1).length + (segmentOf ('#' :: after)).length := by
      rw [← List.length_append, segmentOf, segmentOf, segmentOf, ← Percent.encode_append, ← htext]
    have hfirst := (length_encode_le_segmentOf (Text.cutAtChar '#' text).1).1
    omega

/-- **A text is one segment of a path, in percent coding, if and only if it is one as it
is.** -/
theorem stays_iff {base : Url} (hbase : IsBase base) {word : List Char} (hword : IsWord word)
    (text : List Char) :
    (withoutDots (base.requestPath ++
          (word ++ '/' :: Percent.encode isPathChar (pathPart text))) =
        base.requestPath ++ (word ++ '/' :: segmentOf text) ∧ queryPart text = none) ↔
      SelfContained text := by
  obtain ⟨front, hfront, hdotless, -⟩ := hbase.path
  have hslash : '/' ∉ word := hword.not_mem (by decide)
  have hpoint : '.' ∉ word := hword.not_mem (by decide)
  have hplain : ¬ IsDots word := by
    rintro (rfl | rfl) <;> exact hpoint List.mem_cons_self
  have hbefore : ∀ rest, base.requestPath ++ (word ++ '/' :: rest) =
      (front ++ '/' :: word) ++ '/' :: rest := by
    intro rest
    simp [hfront]
  rw [hbefore, hbefore]
  constructor
  · rintro ⟨hstays, hquery⟩
    -- what goes into the path is coded no shorter than the whole text as one segment
    have hle : (segmentOf text).length ≤
        (Percent.encode isPathChar (pathPart text)).length := by
      have hpath := length_withoutDots_le
        ((front ++ '/' :: word) ++ '/' :: Percent.encode isPathChar (pathPart text))
      rw [hstays] at hpath
      simp only [List.length_append, List.length_cons] at hpath
      omega
    obtain ⟨hpart, hmark, hquestion⟩ := eq_of_length_segmentOf_le hle hquery
    rw [hpart] at hstays hle
    have hdots : ¬ IsDots text := by
      intro hdots
      have hcoded : Percent.encode isPathChar text = text := by
        rcases hdots with rfl | rfl <;> rfl
      have hshort := length_withoutDots_of_isDots hdots (front ++ '/' :: word)
      rw [hcoded] at hstays
      rw [hstays] at hshort
      simp only [List.length_append, List.length_cons] at hshort
      omega
    refine ⟨fun hone => hdots (.inl hone), fun htwo => hdots (.inr htwo), fun c hc hmem => ?_⟩
    have hlonger := (length_encode_le_segmentOf text).2 c hc
    simp only [List.mem_cons, List.not_mem_nil, or_false] at hmem
    rcases hmem with rfl | rfl | rfl | rfl
    · exact absurd (hlonger (by decide) (by decide)) (Nat.not_lt.2 hle)
    · exact hquestion hc
    · exact hmark hc
    · exact absurd (hlonger (by decide) (by decide)) (Nat.not_lt.2 hle)
  · intro h
    obtain ⟨hpart, hquery⟩ := h.parts
    have hdots : ¬ IsDots text := by
      rintro (hone | htwo)
      · exact h.1 hone
      · exact h.2.1 htwo
    have hsegment : '/' ∉ text := fun hmem => h.2.2 '/' hmem (by decide)
    rw [hpart, h.encode_eq.symm]
    refine ⟨withoutDots_eq_self ?_, hquery⟩
    rw [dotless_append_cons_iff, dotless_append_cons_iff]
    exact ⟨⟨hdotless, dotless_of_not_mem hslash hplain⟩,
      dotless_of_not_mem (not_mem_encode hsegment) fun hcoded => hdots (isDots_of_encode hcoded)⟩

/-- **What is put behind a base address has no say in the rest of it**: the host and all
else but path and query are the same for all. -/
theorem rest_of_append {base reference other answered : Url} (h : base.append reference = .ok url)
    (hother : base.append other = .ok answered) :
    answered = { url with path := answered.path, query := answered.query } :=
  rest_of_ofParts (ofParts_of_withRawTarget h) (ofParts_of_withRawTarget hother)

end Http.Url

end Backlog
