import Backlog.Proofs.Http.Beside
import Backlog.Proofs.Http.HostName
import Backlog.Proofs.Numeral
/-!
# Addresses that are read back

What stands behind the path of an address is cut off at `?` and `#`
(`Url.ofChars_append_iff`), so a query can be put into a text that has none
(`Url.ofChars_insert_query`). What stands before the path is told apart where the text is
cut again (`Url.Sound`): the characters that would end a part are in percent coding or
between brackets. So an address that was put together from another is read back as itself
from its text (`Url.Sound.settled_of_ofParts`, `Url.Settled.ofChars_display`).
-/

namespace Backlog

/-- Where characters with a property end, whatever stands behind them has no say. -/
theorem List.span_append {p : Char → Bool} {tail : List Char}
    (htail : ∀ c ∈ tail.head?, p c = false) (cs : List Char) :
    (cs ++ tail).takeWhile p = cs.takeWhile p ∧
      (cs ++ tail).dropWhile p = cs.dropWhile p ++ tail := by
  induction cs with
  | nil =>
    cases tail with
    | nil => exact ⟨rfl, rfl⟩
    | cons c tail =>
      have hc := htail c rfl
      simp [hc]
  | cons c cs ih =>
    rw [List.cons_append]
    cases hc : p c with
    | false => simp [hc]
    | true => simp [hc, ih]

namespace Http.Url

variable {url answered bare : Url} {cs scheme authority path place : List Char}
  {query fragment : Option (List Char)}

/-! ## Where a text is cut -/

/-- A part of an address behind its mark. -/
def marked (mark : Char) : Option (List Char) → List Char
  | some text => mark :: text
  | none => []

/-- What stands behind the path of an address. -/
def tail (query fragment : Option (List Char)) : List Char :=
  marked '?' query ++ marked '#' fragment

theorem of_mem_marked {mark c : Char} {part : Option (List Char)} (h : c ∈ marked mark part) :
    c = mark ∨ ∃ text ∈ part, c ∈ text := by
  cases part with
  | none => cases h
  | some text => exact (List.mem_cons.1 h).imp_right fun hmem => ⟨text, rfl, hmem⟩

theorem exists_of_mem_getD {c : Char} {part : Option (List Char)} (h : c ∈ part.getD []) :
    ∃ text ∈ part, c ∈ text := by
  cases part with
  | none => cases h
  | some text => exact ⟨text, rfl, h⟩

/-- What stands behind a path starts with a mark. -/
theorem of_mem_head?_tail {c : Char} (h : c ∈ (tail query fragment).head?) : c = '?' ∨ c = '#' := by
  cases query with
  | some text => exact .inl (Option.some.inj h).symm
  | none =>
    cases fragment with
    | some text => exact .inr (Option.some.inj h).symm
    | none => cases h

/-- **What is cut off as a scheme**: nothing, or what stands before the first colon if that
is a letter and what may follow one in a scheme. -/
theorem of_cutScheme (cs : List Char) :
    cutScheme cs = ([], cs) ∨ ∃ scheme rest, cs = scheme ++ ':' :: rest ∧
      cutScheme cs = (scheme, rest) ∧ (∀ c ∈ scheme, isSchemeChar c = true) ∧
        scheme.head?.all Char.isAlpha = true := by
  rw [cutScheme]
  split
  · next rest hrest =>
    split
    · next halpha =>
      refine .inr ⟨_, rest, ?_, rfl, fun c hc => List.mem_takeWhile_imp hc, halpha⟩
      rw [← hrest, List.takeWhile_append_dropWhile]
    · exact .inl rfl
  · exact .inl rfl

/-- A scheme is cut off at its colon. -/
theorem cutScheme_append_cons (hscheme : ∀ c ∈ scheme, isSchemeChar c = true)
    (halpha : scheme.head?.all Char.isAlpha = true) (rest : List Char) :
    cutScheme (scheme ++ ':' :: rest) = (scheme, rest) := by
  have hcolon : ∀ c ∈ (':' :: rest).head?, isSchemeChar c = false := fun c hc => by
    rw [← Option.some.inj hc]
    decide
  obtain ⟨htake, hdrop⟩ := List.span_append hcolon scheme
  rw [cutScheme, htake, hdrop, List.takeWhile_eq_self_iff.2 hscheme,
    List.dropWhile_eq_nil_iff.2 hscheme, List.nil_append]
  exact if_pos halpha

theorem mem_of_mem_cutScheme {c : Char} (h : c ∈ (cutScheme cs).1 ∨ c ∈ (cutScheme cs).2) :
    c ∈ cs := by
  rcases of_cutScheme cs with hnone | ⟨scheme, rest, hcs, hcut, -, -⟩
  · rw [hnone] at h
    exact h.resolve_left List.not_mem_nil
  · rw [hcut] at h
    rw [hcs, List.mem_append, List.mem_cons]
    exact h.imp_right .inr

/-- **What stands behind the path has no say in where the scheme ends.** -/
theorem cutScheme_append (place : List Char) (query fragment : Option (List Char)) :
    cutScheme (place ++ tail query fragment) =
      ((cutScheme place).1, (cutScheme place).2 ++ tail query fragment) := by
  have hhead : ∀ c ∈ (tail query fragment).head?, isSchemeChar c = false ∧ c ≠ ':' := fun c hc => by
    rcases of_mem_head?_tail hc with rfl | rfl <;> decide
  obtain ⟨htake, hdrop⟩ := List.span_append (fun c hc => (hhead c hc).1) place
  rw [cutScheme, cutScheme, htake, hdrop]
  cases hrest : place.dropWhile isSchemeChar with
  | nil =>
    rw [List.nil_append]
    split
    · next rest heq =>
      rw [heq] at hhead
      exact absurd rfl (hhead ':' rfl).2
    · rfl
  | cons c rest =>
    rw [List.cons_append]
    by_cases hc : c = ':'
    · subst hc
      cases (place.takeWhile isSchemeChar).head?.all Char.isAlpha <;> rfl
    · split
      · next heq => exact absurd (List.cons.inj heq).1 hc
      · split
        · next heq => exact absurd (List.cons.inj heq).1 hc
        · rfl

theorem cutAuthority_of_not (h : ∀ rest, cs ≠ '/' :: '/' :: rest) : cutAuthority cs = ([], cs) := by
  rw [cutAuthority]
  exact h

/-- **What is cut off as an authority**: nothing, or what stands between two slashes and the
next mark. -/
theorem of_cutAuthority (cs : List Char) :
    cutAuthority cs = ([], cs) ∨ ∃ authority rest, cs = '/' :: '/' :: (authority ++ rest) ∧
      cutAuthority cs = (authority, rest) ∧ ∀ c ∈ authority, c ≠ '/' ∧ c ≠ '?' ∧ c ≠ '#' := by
  by_cases hslashes : ∃ rest, cs = '/' :: '/' :: rest
  · obtain ⟨rest, rfl⟩ := hslashes
    refine .inr ⟨_, _, ?_, rfl, fun c hc => ?_⟩
    · rw [List.takeWhile_append_dropWhile]
    · simpa [and_assoc] using List.mem_takeWhile_imp hc
  · exact .inl (cutAuthority_of_not fun rest hcs => hslashes ⟨rest, hcs⟩)

/-- An authority is cut off at the next mark. -/
theorem cutAuthority_append_of_head
    (hauthority : ∀ c ∈ authority, c ≠ '/' ∧ c ≠ '?' ∧ c ≠ '#') {rest : List Char}
    (hrest : ∀ c ∈ rest.head?, c = '/' ∨ c = '?' ∨ c = '#') :
    cutAuthority ('/' :: '/' :: (authority ++ rest)) = (authority, rest) := by
  have hplain : ∀ c ∈ authority, (!(decide (c = '/') || decide (c = '?') || decide (c = '#'))) =
      true := fun c hc => by simpa [and_assoc] using hauthority c hc
  have hmark : ∀ c ∈ rest.head?, (!(decide (c = '/') || decide (c = '?') || decide (c = '#'))) =
      false := fun c hc => by rcases hrest c hc with rfl | rfl | rfl <;> rfl
  obtain ⟨htake, hdrop⟩ := List.span_append hmark authority
  rw [cutAuthority, htake, hdrop, List.takeWhile_eq_self_iff.2 hplain,
    List.dropWhile_eq_nil_iff.2 hplain, List.nil_append]

theorem mem_of_mem_cutAuthority {c : Char}
    (h : c ∈ (cutAuthority cs).1 ∨ c ∈ (cutAuthority cs).2) : c ∈ cs := by
  rcases of_cutAuthority cs with hnone | ⟨authority, rest, hcs, hcut, -⟩
  · rw [hnone] at h
    exact h.resolve_left List.not_mem_nil
  · rw [hcut] at h
    rw [hcs]
    exact List.mem_cons_of_mem _ (List.mem_cons_of_mem _ (List.mem_append.2 h))

/-- **Nor in where the authority ends.** -/
theorem cutAuthority_append (cs : List Char) (query fragment : Option (List Char)) :
    cutAuthority (cs ++ tail query fragment) =
      ((cutAuthority cs).1, (cutAuthority cs).2 ++ tail query fragment) := by
  have hhead : ∀ c ∈ (tail query fragment).head?, c ≠ '/' ∧
      (!(decide (c = '/') || decide (c = '?') || decide (c = '#'))) = false := fun c hc => by
    rcases of_mem_head?_tail hc with rfl | rfl <;> decide
  by_cases hslashes : ∃ rest, cs = '/' :: '/' :: rest
  · obtain ⟨rest, rfl⟩ := hslashes
    obtain ⟨htake, hdrop⟩ := List.span_append (fun c hc => (hhead c hc).2) rest
    rw [List.cons_append, List.cons_append, cutAuthority, htake, hdrop]
    rfl
  · have hnot : ∀ rest, cs ≠ '/' :: '/' :: rest := fun rest hcs => hslashes ⟨rest, hcs⟩
    rw [cutAuthority_of_not hnot]
    refine cutAuthority_of_not fun rest hcs => ?_
    cases cs with
    | nil =>
      rw [List.nil_append] at hcs
      rw [hcs] at hhead
      exact (hhead '/' rfl).1 rfl
    | cons c cs =>
      rw [List.cons_append] at hcs
      obtain ⟨rfl, hsecond⟩ := List.cons.inj hcs
      cases cs with
      | nil =>
        rw [List.nil_append] at hsecond
        rw [hsecond] at hhead
        exact (hhead '/' rfl).1 rfl
      | cons d cs =>
        rw [List.cons_append] at hsecond
        rw [(List.cons.inj hsecond).1] at hnot
        exact hnot cs rfl

/-! ## What stands behind a path -/

/-- No control stands for itself. -/
theorem isControl_of_isQueryChar {c : Char} (h : isQueryChar c = true) : isControl c = false := by
  simp only [isQueryChar, Bool.and_eq_true, decide_eq_true_eq] at h
  simp only [isControl, Bool.or_eq_false_iff, decide_eq_false_iff_not]
  omega

/-- An address is read from the parts that its text is cut into, if that is not too long
and has no controls. -/
theorem ofChars_eq_ok_iff :
    ofChars cs = .ok url ↔ cs.length ≤ maxLength ∧ (∀ c ∈ cs, isControl c = false) ∧
      ofParts (cutScheme cs).1 (cutAuthority (cutScheme cs).2).1
        (cutQuery (Text.cutAtChar '#' (cutAuthority (cutScheme cs).2).2).1).1
        (cutQuery (Text.cutAtChar '#' (cutAuthority (cutScheme cs).2).2).1).2
        (Text.cutAtChar '#' (cutAuthority (cutScheme cs).2).2).2 = .ok url := by
  constructor
  · intro h
    refine ⟨?_, ?_, ofParts_of_ofChars h⟩
    · rw [ofChars] at h
      split at h
      · cases h
      · next hshort => exact Nat.not_lt.1 hshort
    · rw [ofChars] at h
      split at h
      · cases h
      · dsimp only at h
        split at h
        · cases h
        · next hnone =>
          exact fun c hc => by simpa using List.findIdx?_eq_none_iff.1 hnone c hc
  · rintro ⟨hlength, hcontrol, h⟩
    have hnone : cs.findIdx? isControl = none := List.findIdx?_eq_none_iff.2 hcontrol
    rw [ofChars, if_neg (Nat.not_lt.2 hlength), hnone]
    exact h

/-- **How a text with a query and a fragment behind it is read**: what stands before them is
cut as if it stood alone. -/
theorem ofChars_append_iff (hquestion : '?' ∉ place) (hmark : '#' ∉ place)
    (hquery : ∀ text ∈ query, '#' ∉ text) :
    ofChars (place ++ tail query fragment) = .ok url ↔
      (place ++ tail query fragment).length ≤ maxLength ∧
        (∀ c ∈ place ++ tail query fragment, isControl c = false) ∧
          ofParts (cutScheme place).1 (cutAuthority (cutScheme place).2).1
            (cutAuthority (cutScheme place).2).2 query fragment = .ok url := by
  have hpath : ∀ c, c ∉ place → c ∉ (cutAuthority (cutScheme place).2).2 := fun c hno hmem =>
    hno (mem_of_mem_cutScheme (.inr (mem_of_mem_cutAuthority (.inr hmem))))
  generalize hrest : (cutAuthority (cutScheme place).2).2 = rest at hpath
  have hcutFragment : Text.cutAtChar '#' (rest ++ tail query fragment) =
      (rest ++ marked '?' query, fragment) := by
    have hbefore : '#' ∉ rest ++ marked '?' query := by
      rw [List.mem_append]
      rintro (hmem | hmem)
      · exact hpath '#' hmark hmem
      · rcases of_mem_marked hmem with heq | ⟨text, htext, hmem⟩
        · cases heq
        · exact hquery text htext hmem
    rw [tail, ← List.append_assoc]
    cases fragment with
    | none =>
      rw [marked, List.append_nil, Text.cutAtChar_of_not_mem hbefore]
    | some text => exact Text.cutAtChar_append hbefore text
  have hcutQuery : cutQuery (rest ++ marked '?' query) = (rest, query) := by
    cases query with
    | none =>
      rw [marked, List.append_nil]
      exact Text.cutAtChar_of_not_mem (hpath '?' hquestion)
    | some text => exact Text.cutAtChar_append (hpath '?' hquestion) text
  rw [ofChars_eq_ok_iff, cutScheme_append]
  dsimp only
  rw [cutAuthority_append]
  dsimp only
  rw [hrest, hcutFragment]
  dsimp only
  rw [hcutQuery]

/-- **A query can be put into a text that has none**: the address is the same but for its
query, which is taken as it is. -/
theorem ofChars_insert_query (hquestion : '?' ∉ place) (hmark : '#' ∉ place)
    (h : ofChars (place ++ tail none fragment) = .ok url) {text : List Char}
    (htext : ∀ c ∈ text, isQueryChar c = true)
    (hlength : (place ++ tail (some text) fragment).length ≤ maxLength) :
    ofChars (place ++ tail (some text) fragment) = .ok { url with query := some text } := by
  have hno : '#' ∉ text := fun hmem => absurd (htext _ hmem) (by decide)
  obtain ⟨-, hcontrol, hread⟩ := (ofChars_append_iff hquestion hmark (by simp)).1 h
  refine (ofChars_append_iff hquestion hmark (by simpa using hno)).2 ⟨hlength, fun c hc => ?_, ?_⟩
  · simp only [tail, marked, List.nil_append, List.mem_append, List.mem_cons,
      List.cons_append] at hc hcontrol
    rcases hc with hplace | rfl | htail | hfragment
    · exact hcontrol c (.inl hplace)
    · decide
    · exact isControl_of_isQueryChar (htext c htail)
    · exact hcontrol c (.inr hfragment)
  · rw [ofParts_of_ofParts hread (checkHalves_of_isQueryChar htext),
      Percent.encode_eq_self htext]

/-! ## What stands before a path -/

/-- **What stands before a path, told apart**: no part has a character that would end it. -/
structure Sound (url : Url) : Prop where
  /-- The scheme is one, in small letters. -/
  scheme : ∀ c ∈ url.scheme, isSchemeChar c = true ∧ c.toLower = c
  /-- It starts with a letter. -/
  alpha : url.scheme.head?.all Char.isAlpha = true
  /-- What stands before the host is in percent coding. -/
  userinfo : ∀ c ∈ url.userinfo, isUserinfoChar c = true
  /-- The host is one that was read. -/
  host : Host.Shape url.host
  /-- The port has not too many digits. -/
  port : ∀ n ∈ url.port, (Nat.toDigits 10 n.natAbs).length ≤ Decimal.maxNumeralDigits

/-- The port as it stands in an address. -/
def portText (url : Url) : List Char :=
  match url.port with
  | some port => (toString port).toList
  | none => []

/-- The characters of a port. -/
theorem of_mem_portText {c : Char} (h : c ∈ url.portText) : c = '-' ∨ c.isDigit = true := by
  rw [portText] at h
  split at h
  · rw [Decimal.toList_toString, List.mem_append] at h
    rcases h with hsign | hdigit
    · split at hsign
      · exact .inl (List.mem_singleton.1 hsign)
      · cases hsign
    · exact .inr (Decimal.isDigit_of_mem hdigit)
  · cases h

theorem not_mem_portText {c : Char} (hsign : c ≠ '-') (hdigit : c.isDigit = false) :
    c ∉ url.portText := fun hmem => by
  rcases of_mem_portText hmem with heq | hyes
  · exact hsign heq
  · rw [hyes] at hdigit
    cases hdigit

/-- What stands behind the host: nothing, or the port behind a colon. -/
theorem hostLine_eq (url : Url) :
    ∃ back, url.hostLine = Host.display url.host ++ back ∧ back.drop 1 = url.portText ∧
      (back = [] ∨ back = ':' :: url.portText) := by
  rw [hostLine, portText]
  cases url.port with
  | none => exact ⟨[], rfl, rfl, .inl rfl⟩
  | some port => exact ⟨_, rfl, rfl, .inr rfl⟩

theorem isUserinfoChar_of_mem_encode {cs : List Char} {c : Char}
    (h : c ∈ Percent.encode isUserinfoChar cs) : isUserinfoChar c = true := by
  rcases Percent.of_mem_encode h with ⟨-, hsafe⟩ | rfl | halphanum
  · exact hsafe
  · decide
  · exact Text.of_isAlphanum (p := fun c => isUserinfoChar c = true) (by decide) halphanum

theorem isFragmentChar_of_mem_encode {cs : List Char} {c : Char}
    (h : c ∈ Percent.encode isFragmentChar cs) : isFragmentChar c = true := by
  rcases Percent.of_mem_encode h with ⟨-, hsafe⟩ | rfl | halphanum
  · exact hsafe
  · decide
  · exact Text.of_isAlphanum (p := fun c => isFragmentChar c = true) (by decide) halphanum

/-- What stands for itself before a host. -/
theorem of_isUserinfoChar {c : Char} (h : isUserinfoChar c = true) :
    isQueryChar c = true ∧ isHostChar c = true := by
  rw [isUserinfoChar, Bool.and_eq_true] at h
  have hquery := isQueryChar_of_isPathChar h.1
  have hascii : c.toNat < 0x80 := by
    simp only [isQueryChar, Bool.and_eq_true, decide_eq_true_eq] at hquery
    omega
  have hall : ∀ n < 0x80, isUserinfoChar (Char.ofNat n) = true →
      isHostChar (Char.ofNat n) = true := by decide +kernel
  refine ⟨hquery, Text.of_ascii (p := fun c => isUserinfoChar c = true → isHostChar c = true) hall
    hascii ?_⟩
  rw [isUserinfoChar, Bool.and_eq_true]
  exact h

theorem isHostChar_of_mem_hostLine (h : Sound url) : ∀ c ∈ url.hostLine, isHostChar c = true := by
  intro c hc
  obtain ⟨back, hline, -, hback⟩ := hostLine_eq url
  rw [hline] at hc
  rcases List.mem_append.1 hc with hhost | hport
  · exact h.host.isHostChar_of_mem_display c hhost
  · rcases hback with rfl | rfl
    · cases hport
    · rcases List.mem_cons.1 hport with rfl | hport
      · decide
      · rcases of_mem_portText hport with rfl | hdigit
        · decide
        · exact Text.of_isAlphanum (p := fun c => isHostChar c = true) (by decide +kernel)
            (by rw [Char.isAlphanum, hdigit, Bool.or_true])

theorem Sound.isAuthorityChar_of_mem (h : Sound url) :
    ∀ c ∈ url.authority, isAuthorityChar c = true := by
  have hhost : ∀ c, isHostChar c = true → isAuthorityChar c = true := fun c hc => by
    rw [isHostChar, Bool.and_eq_true] at hc
    exact hc.1
  intro c hc
  rw [authority] at hc
  rcases List.mem_append.1 hc with hbefore | hline
  · split at hbefore
    · cases hbefore
    · rcases List.mem_append.1 hbefore with huser | hmark
      · exact hhost c (of_isUserinfoChar (h.userinfo c huser)).2
      · rw [List.mem_singleton.1 hmark]
        decide
  · exact hhost c (isHostChar_of_mem_hostLine h c hline)

/-- A host in brackets ends behind the last one. -/
theorem cut_brackets {inner back : List Char} (hback : ']' ∉ back) :
    (if ((('[' :: inner) ++ [']']) ++ back).head? = some '[' ∧
        (((('[' :: inner) ++ [']']) ++ back).reverse.dropWhile (· ≠ ']')).reverse ≠ [] then
      (((('[' :: inner) ++ [']']) ++ back).reverse.dropWhile (· ≠ ']')).reverse
    else ((('[' :: inner) ++ [']']) ++ back).takeWhile fun c => c ≠ ':' && c ≠ '@') =
      ('[' :: inner) ++ [']'] := by
  rw [Text.reverse_dropWhile_append hback, if_pos]
  exact ⟨rfl, List.append_ne_nil_of_right_ne_nil _ (List.cons_ne_nil _ _)⟩

/-- Any other host ends before the first colon. -/
theorem cut_colon {host back : List Char} (hback : back = [] ∨ ∃ port, back = ':' :: port)
    (hhost : ∀ c ∈ host, c ≠ ':' ∧ c ≠ '@' ∧ c ≠ '[') :
    (if (host ++ back).head? = some '[' ∧
        ((host ++ back).reverse.dropWhile (· ≠ ']')).reverse ≠ [] then
      ((host ++ back).reverse.dropWhile (· ≠ ']')).reverse
    else (host ++ back).takeWhile fun c => c ≠ ':' && c ≠ '@') = host := by
  have hnot : (host ++ back).head? ≠ some '[' := by
    intro hhead
    cases host with
    | nil => rcases hback with rfl | ⟨port, rfl⟩ <;> cases hhead
    | cons c host =>
      rw [List.cons_append, List.head?_cons] at hhead
      exact (hhost c List.mem_cons_self).2.2 (Option.some.inj hhead)
  have hall : ∀ c ∈ host, (decide (c ≠ ':') && decide (c ≠ '@')) = true := fun c hc => by
    simp [(hhost c hc).1, (hhost c hc).2.1]
  rw [if_neg fun hno => hnot hno.1, List.takeWhile_append_of_pos hall]
  rcases hback with rfl | ⟨port, rfl⟩ <;> simp

/-- **How an authority is cut**: behind its last `@`, and at the colon or behind the brackets
of the host. -/
theorem cutHost_append {front host back : List Char}
    (hfront : front = [] ∨ ∃ before, front = before ++ ['@']) (hhost : '@' ∉ host ++ back)
    (hback : back = [] ∨ ∃ port, back = ':' :: port) (hbracket : ']' ∉ back)
    (hshape : (∃ inner, host = ('[' :: inner) ++ [']']) ∨ ':' ∉ host ∧ '[' ∉ host) :
    cutHost (front ++ (host ++ back)) = (front.dropLast, host, back.drop 1) := by
  have hbefore : ((front ++ (host ++ back)).take
      ((front ++ (host ++ back)).length - (host ++ back).length)).dropLast = front.dropLast := by
    rw [List.length_append, Nat.add_sub_cancel, List.take_left]
  have hcut : (if (host ++ back).head? = some '[' ∧
        ((host ++ back).reverse.dropWhile (· ≠ ']')).reverse ≠ [] then
      ((host ++ back).reverse.dropWhile (· ≠ ']')).reverse
    else (host ++ back).takeWhile fun c => c ≠ ':' && c ≠ '@') = host := by
    rcases hshape with ⟨inner, rfl⟩ | ⟨hcolon, hopen⟩
    · exact cut_brackets hbracket
    · refine cut_colon hback fun c hc => ⟨?_, ?_, ?_⟩
      · exact fun heq => hcolon (heq ▸ hc)
      · exact fun heq => hhost (heq ▸ List.mem_append_left back hc)
      · exact fun heq => hopen (heq ▸ hc)
  rw [cutHost, Text.reverse_takeWhile_append hfront hhost, hbefore, hcut, List.drop_left]
  rcases hback with rfl | ⟨port, rfl⟩ <;> rfl

/-- **The parts of a sound authority are told apart.** -/
theorem Sound.cutHost_authority (h : Sound url) :
    cutHost url.authority = (url.userinfo, Host.display url.host, url.portText) := by
  obtain ⟨back, hline, hport, hback⟩ := hostLine_eq url
  have hno : '@' ∉ Host.display url.host ++ back := fun hmem =>
    absurd (isHostChar_of_mem_hostLine h '@' (hline ▸ hmem)) (by decide)
  have hbracket : ']' ∉ back := by
    rcases hback with rfl | rfl
    · exact List.not_mem_nil
    · refine List.not_mem_cons_of_ne_of_not_mem (by decide) ?_
      exact not_mem_portText (by decide) (by decide)
  have hshape : (∃ inner, Host.display url.host = ('[' :: inner) ++ [']']) ∨
      ':' ∉ Host.display url.host ∧ '[' ∉ Host.display url.host := by
    cases h.host with
    | numeric haddress _ => exact .inl ⟨_, Host.display_of_address6 haddress⟩
    | plain hchars =>
      rw [Host.display_of_plain hchars]
      exact .inr ⟨Host.not_mem_of_plain hchars (by decide),
        Host.not_mem_of_plain hchars (by decide)⟩
  have hfront : (if url.userinfo = [] then [] else url.userinfo ++ ['@']) = [] ∨
      ∃ before, (if url.userinfo = [] then [] else url.userinfo ++ ['@']) = before ++ ['@'] := by
    split
    · exact .inl rfl
    · exact .inr ⟨_, rfl⟩
  have hlast : (if url.userinfo = [] then [] else url.userinfo ++ ['@']).dropLast =
      url.userinfo := by
    split
    · next hnone => exact hnone.symm
    · exact List.dropLast_concat
  rw [authority, hline, cutHost_append hfront hno (hback.imp_right fun heq => ⟨_, heq⟩) hbracket
    hshape, hlast, hport]

/-! ## Reading an authority again -/

theorem of_isSchemeChar {p : Char → Prop}
    (h : ∀ n < 0x80, isSchemeChar (Char.ofNat n) = true → p (Char.ofNat n)) {c : Char}
    (hc : isSchemeChar c = true) : p c := by
  have hascii : c.toNat < 0x80 := by
    simp only [isSchemeChar, Bool.or_eq_true, decide_eq_true_eq] at hc
    rcases hc with ((halphanum | rfl) | rfl) | rfl
    · exact Text.lt_of_isAlphanum halphanum
    all_goals decide
  exact Text.of_ascii (p := fun c => isSchemeChar c = true → p c) h hascii hc

/-- What is cut off as a host is in the authority and has no `@`. -/
theorem of_mem_cutHost {c : Char} (h : c ∈ (cutHost authority).2.1) : c ∈ authority ∧ c ≠ '@' := by
  obtain ⟨rest, hrest⟩ : ∃ rest, (authority.reverse.takeWhile (· ≠ '@')).reverse = rest := ⟨_, rfl⟩
  have hmem : c ∈ rest := by
    rw [cutHost, hrest] at h
    dsimp only at h
    split at h
    · exact List.mem_reverse.1 ((List.dropWhile_sublist _).subset (List.mem_reverse.1 h))
    · exact (List.takeWhile_sublist _).subset h
  rw [← hrest, List.mem_reverse] at hmem
  refine ⟨List.mem_reverse.1 ((List.takeWhile_sublist _).subset hmem), ?_⟩
  simpa using List.mem_takeWhile_imp hmem

/-- What is read as a port is the number that it spells. -/
theorem of_readPort {text : List Char} {port : Option Int} (h : readPort scheme text = .ok port) :
    ∀ n ∈ port, Decimal.readInteger (String.ofList text) = .ok n := by
  intro n hn
  rw [readPort] at h
  split at h
  · cases h
    cases hn
  · split at h
    · cases h
    · next number hnumber =>
      split at h
      · cases h
        cases hn
      · cases h
        rw [hnumber, Option.some.inj hn]

/-- How the port of a sound address is read. -/
theorem Sound.readPort_portText (h : Sound url) (scheme : List Char) :
    readPort scheme url.portText =
      .ok (url.port.filter fun n => decide (defaultPort? scheme ≠ some n)) := by
  rw [portText]
  cases hport : url.port with
  | none => rfl
  | some n =>
    have hdigits := h.port n hport
    have hsome : (toString n).toList ≠ [] := by
      obtain ⟨c, cs, hcons, -⟩ := Decimal.exists_digits_eq_cons n.natAbs
      rw [Decimal.toList_toString, hcons]
      exact List.append_ne_nil_of_right_ne_nil _ (List.cons_ne_nil _ _)
    dsimp only
    rw [readPort, if_neg hsome, String.ofList_toList, Decimal.readInteger_toString hdigits]
    by_cases hdefault : defaultPort? scheme = some n <;> simp [hdefault, Option.filter]

/-- **What is read has its parts told apart**, if no character of the authority ends it. -/
theorem sound_of_ofParts (h : ofParts scheme authority path query fragment = .ok url)
    (hscheme : ∀ c ∈ scheme, isSchemeChar c = true)
    (halpha : scheme.head?.all Char.isAlpha = true)
    (hauthority : ∀ c ∈ authority, isAuthorityChar c = true) : Sound url := by
  obtain ⟨host, port, hhost, hport, hurl⟩ := of_ofParts h
  have hlower : ∀ c, isSchemeChar c = true →
      isSchemeChar c.toLower = true ∧ c.toLower.toLower = c.toLower := fun c hc =>
    of_isSchemeChar
      (p := fun c => isSchemeChar c.toLower = true ∧ c.toLower.toLower = c.toLower)
      (by decide +kernel) hc
  rw [hurl]
  refine ⟨fun c hc => ?_, ?_, fun c hc => isUserinfoChar_of_mem_encode hc, ?_, fun n hn => ?_⟩
  · obtain ⟨d, hd, rfl⟩ := List.mem_map.1 hc
    exact hlower d (hscheme d hd)
  · cases scheme with
    | nil => rfl
    | cons c scheme =>
      exact of_isSchemeChar (p := fun c => c.isAlpha = true → c.toLower.isAlpha = true)
        (by decide +kernel) (hscheme c List.mem_cons_self) halpha
  · refine Host.shape_of_ofChars hhost fun c hc => ?_
    obtain ⟨hmem, hat⟩ := of_mem_cutHost hc
    rw [isHostChar, hauthority c hmem, Bool.true_and]
    exact decide_eq_true hat
  · exact Decimal.length_toDigits_of_readInteger (of_readPort hport n hn)

/-- **An address that was read has its parts told apart.** -/
theorem sound_of_ofChars (h : ofChars cs = .ok url) : Sound url := by
  obtain ⟨-, hcontrol, hread⟩ := ofChars_eq_ok_iff.1 h
  have hauthority : ∀ c ∈ (cutAuthority (cutScheme cs).2).1, isAuthorityChar c = true := by
    intro c hc
    have hplain := hcontrol c (mem_of_mem_cutScheme (.inr (mem_of_mem_cutAuthority (.inl hc))))
    rcases of_cutAuthority (cutScheme cs).2 with hnone | ⟨authority, rest, -, hcut, hends⟩
    · rw [hnone] at hc
      cases hc
    · rw [hcut] at hc
      obtain ⟨hslash, hquestion, hmark⟩ := hends c hc
      simp [isAuthorityChar, hslash, hquestion, hmark, hplain]
  rcases of_cutScheme cs with hnone | ⟨scheme, rest, -, hcut, hscheme, halpha⟩
  · rw [hnone] at hread hauthority
    exact sound_of_ofParts hread (fun c hc => absurd hc List.not_mem_nil) rfl hauthority
  · rw [hcut] at hread hauthority
    exact sound_of_ofParts hread hscheme halpha hauthority

/-- **Reading what stands before a path again** leaves its parts told apart, and what comes
out is then read as itself. -/
theorem Sound.read_again (hbare : Sound bare)
    (h : ofParts bare.scheme bare.authority path query fragment = .ok url) :
    Sound url ∧ url.scheme = bare.scheme ∧ (url.host = [] ↔ bare.host = []) ∧
      Host.ofChars (Host.display url.host) = .ok url.host ∧
      readPort url.scheme url.portText = .ok url.port := by
  have hsound := sound_of_ofParts h (fun c hc => (hbare.scheme c hc).1) hbare.alpha
    hbare.isAuthorityChar_of_mem
  obtain ⟨host, port, hhost, hport, hurl⟩ := of_ofParts h
  rw [hbare.cutHost_authority] at hhost hport
  dsimp only at hhost hport
  have hscheme : url.scheme = bare.scheme := by
    rw [hurl]
    conv_rhs => rw [← List.map_id bare.scheme]
    exact List.map_congr_left fun c hc => (hbare.scheme c hc).2
  have hhostEq : url.host = host := by rw [hurl]
  have hportEq : url.port = port := by rw [hurl]
  obtain ⟨hagain, hnil⟩ := Host.ofChars_display hbare.host hhost
  refine ⟨hsound, hscheme, by rw [hhostEq]; exact hnil, by rw [hhostEq]; exact hagain, ?_⟩
  rw [hsound.readPort_portText, hscheme, hportEq]
  rw [hbare.readPort_portText] at hport
  rw [← Except.ok.inj hport, Option.filter_filter]
  simp

/-! ## The path -/

/-- Whether a path is empty or starts with a slash. -/
def IsRootedPath (path : List Char) : Prop := ∀ c ∈ path.head?, c = '/'

/-- The segment in front stays in front. -/
theorem exists_foldl_pushSegment (segments before : List (List Char)) :
    ∃ after, segments.foldl pushSegment ([] :: before) = [] :: after := by
  induction segments generalizing before with
  | nil => exact ⟨before, rfl⟩
  | cons segment segments ih =>
    rw [List.foldl_cons, pushSegment]
    split
    · exact ih before
    · split
      · split
        · exact ih before
        · next htop =>
          have hsome : before ≠ [] := fun hnone => htop (.inr (by rw [hnone]))
          rw [List.dropLast_cons_of_ne_nil hsome]
          exact ih _
      · exact ih _

/-- **A path that starts with a slash does so without its dot segments**, or is empty. -/
theorem isRootedPath_withoutDots (h : IsRootedPath path) : IsRootedPath (withoutDots path) := by
  have hfirst : ∃ others, Text.splitAtChar '/' path = [] :: others := by
    cases path with
    | nil => exact ⟨[], rfl⟩
    | cons c path =>
      have hcut : Text.splitAtChar '/' ([] ++ '/' :: path) =
          Text.splitAtChar '/' [] ++ Text.splitAtChar '/' path :=
        Text.splitAtChar_append_cons [] path
      rw [h c rfl]
      exact ⟨_, hcut⟩
  obtain ⟨others, hothers⟩ := hfirst
  obtain ⟨after, hafter⟩ := exists_foldl_pushSegment others []
  have hpush : pushSegment [] [] = [[]] := rfl
  rw [withoutDots, hothers, List.foldl_cons, hpush, hafter]
  cases after with
  | nil => exact fun c hc => by cases hc
  | cons next after =>
    rw [List.intercalate_cons_cons]
    exact fun c hc => (Option.some.inj hc).symm

theorem isRootedPath_encode (h : IsRootedPath path) :
    IsRootedPath (Percent.encode isPathChar path) := by
  cases path with
  | nil => exact fun c hc => by cases hc
  | cons c path =>
    rw [h c rfl]
    exact fun d hd => (Option.some.inj hd).symm

/-- The path of an address with a host. -/
theorem isRootedPath_of_ofParts (h : ofParts scheme authority path query fragment = .ok url)
    (hhost : url.host ≠ []) : IsRootedPath path := by
  obtain ⟨host, port, hhostText, hportText, hurl⟩ := of_ofParts h
  have hsome : host ≠ [] := by
    rw [hurl] at hhost
    exact hhost
  rcases hcut : cutHost authority with ⟨userinfo, hostChars, portChars⟩
  rw [hcut] at hhostText
  rw [ofParts, hcut] at h
  obtain ⟨⟨⟩, -, h⟩ := Except.bind_eq_ok.1 h
  obtain ⟨host', hhost', h⟩ := Except.bind_eq_ok.1 h
  obtain ⟨port', -, h⟩ := Except.bind_eq_ok.1 h
  obtain ⟨⟨⟩, hcheck, -⟩ := Except.bind_eq_ok.1 h
  cases hhost'.symm.trans hhostText
  rw [checkPath] at hcheck
  split at hcheck
  · cases hcheck
  · next hroot =>
    intro c hc
    refine Classical.byContradiction fun hslash => hroot ⟨?_, ?_, ?_⟩
    · simp [hasAuthority, hsome]
    · rintro rfl
      cases hc
    · intro hhead
      rw [Option.mem_def.1 hc] at hhead
      exact hslash (Option.some.inj hhead)

/-! ## The whole address -/

/-- The text of an address with a scheme and a host, in its parts. -/
theorem display_eq (hscheme : url.scheme ≠ []) (hauthority : url.authority ≠ []) :
    url.display = (url.scheme ++ ':' :: ('/' :: '/' :: (url.authority ++ url.path))) ++
      tail url.query url.fragment := by
  rw [display, if_neg hscheme, if_neg hauthority, tail]
  cases url.query <;> cases url.fragment <;> simp [marked]

theorem authority_ne_nil (h : url.host ≠ []) : url.authority ≠ [] := by
  rw [authority, hostLine, Host.display]
  refine List.append_ne_nil_of_right_ne_nil _ (List.append_ne_nil_of_left_ne_nil ?_ _)
  split
  · exact List.cons_ne_nil _ _
  · exact h

/-- **An address that is read as itself**: its parts are told apart, and each is what it is
read as. -/
structure Settled (url : Url) : Prop extends Sound url where
  /-- It has a scheme. -/
  scheme_ne_nil : url.scheme ≠ []
  /-- It has a host. -/
  host_ne_nil : url.host ≠ []
  /-- The host is read as itself. -/
  host_again : Host.ofChars (Host.display url.host) = .ok url.host
  /-- So is the port. -/
  port_again : readPort url.scheme url.portText = .ok url.port
  /-- Path and query are in percent coding. -/
  coded : Coded url
  /-- The path is empty or starts with a slash. -/
  rooted : IsRootedPath url.path
  /-- It has no dot segments. -/
  dotless : Dotless url.path
  /-- The fragment is in percent coding. -/
  fragment : ∀ text ∈ url.fragment, ∀ c ∈ text, isFragmentChar c = true

/-- What is put together from another address with a scheme and a host is settled. -/
theorem Sound.settled_of_ofParts (hbare : Sound bare) (hscheme : bare.scheme ≠ [])
    (hhost : bare.host ≠ [])
    (h : ofParts bare.scheme bare.authority path query fragment = .ok url) : Settled url := by
  obtain ⟨hsound, hsame, hnil, hhostRead, hportRead⟩ := hbare.read_again h
  obtain ⟨hpath, -⟩ := of_ofParts_rooted h hscheme
  have hhostUrl : url.host ≠ [] := mt hnil.1 hhost
  have hrooted := isRootedPath_withoutDots (isRootedPath_of_ofParts h hhostUrl)
  have hfragment : ∀ text ∈ url.fragment, ∀ c ∈ text, isFragmentChar c = true := by
    obtain ⟨host, port, -, -, hurl⟩ := of_ofParts h
    rw [hurl]
    intro text htext c hc
    obtain ⟨plain, -, rfl⟩ := Option.map_eq_some_iff.1 htext
    exact isFragmentChar_of_mem_encode hc
  exact
    { toSound := hsound
      scheme_ne_nil := by rwa [hsame]
      host_ne_nil := hhostUrl
      host_again := hhostRead
      port_again := hportRead
      coded := coded_of_ofParts h
      rooted := by
        rw [hpath]
        exact isRootedPath_encode hrooted
      dotless := by
        rw [hpath]
        exact dotless_encode (dotless_withoutDots path)
      fragment := hfragment }

theorem isQueryChar_of_isFragmentChar {c : Char} (h : isFragmentChar c = true) (hmark : c ≠ '#') :
    isQueryChar c = true := by
  simp only [isFragmentChar, Bool.and_eq_true, decide_eq_true_eq, List.mem_cons, not_or] at h
  simp [isQueryChar, h.1.1, h.1.2, h.2.1, h.2.2.1, h.2.2.2.1, hmark]

theorem checkHalves_of_isFragmentChar {cs : List Char} (h : ∀ c ∈ cs, isFragmentChar c = true) :
    checkHalves cs = .ok () := by
  have hnone : cs.find? Text.isHalf = none := List.find?_eq_none.2 fun c hc => by
    have hfit := h c hc
    simp only [isFragmentChar, Bool.and_eq_true, decide_eq_true_eq] at hfit
    simp [Text.isHalf_of_le hfit.1.2]
  rw [checkHalves, hnone]

/-- What is in percent coding is coded as it is. -/
theorem map_encode_eq_self {safe : Char → Bool} {part : Option (List Char)}
    (h : ∀ text ∈ part, ∀ c ∈ text, safe c = true) : part.map (Percent.encode safe) = part := by
  cases part with
  | none => rfl
  | some text => exact congrArg some (Percent.encode_eq_self (h text rfl))

/-- **The parts of a settled address are read as that address.** -/
theorem Settled.ofParts_self (h : Settled url) :
    ofParts url.scheme url.authority url.path url.query url.fragment = .ok url := by
  have hscheme : url.scheme.map Char.toLower = url.scheme := by
    conv_rhs => rw [← List.map_id url.scheme]
    exact List.map_congr_left fun c hc => (h.scheme c hc).2
  have hpathSelf : withoutDots url.path = url.path := withoutDots_eq_self h.dotless
  have huserinfo : checkHalves url.userinfo = .ok () :=
    checkHalves_of_isQueryChar fun c hc => (of_isUserinfoChar (h.userinfo c hc)).1
  have hpath : checkHalves url.path = .ok () :=
    checkHalves_of_isQueryChar fun c hc => isQueryChar_of_isPathChar (h.coded.path c hc)
  have hquery : checkHalves (url.query.getD []) = .ok () := by
    refine checkHalves_of_isQueryChar fun c hc => ?_
    obtain ⟨text, htext, hmem⟩ := exists_of_mem_getD hc
    exact h.coded.query text htext c hmem
  have hfragment : checkHalves (url.fragment.getD []) = .ok () := by
    refine checkHalves_of_isFragmentChar fun c hc => ?_
    obtain ⟨text, htext, hmem⟩ := exists_of_mem_getD hc
    exact h.fragment text htext c hmem
  have hcheck : ∀ root : Url, root.scheme = url.scheme → checkPath root url.path = .ok () := by
    intro root hroot
    have hrooted : root.isRooted = true := by simp [isRooted, hroot, h.scheme_ne_nil]
    rw [checkPath, if_neg, if_neg, if_neg]
    · simp [hrooted]
    · simp [hrooted]
    · rintro ⟨-, hsome, hslash⟩
      obtain ⟨c, cs, hcs⟩ := List.exists_cons_of_ne_nil hsome
      have hc : c = '/' := h.rooted c (by rw [hcs]; rfl)
      exact hslash (by rw [hcs, hc]; rfl)
  rw [ofParts, h.toSound.cutHost_authority]
  refine Except.bind_eq_ok.2 ⟨(), huserinfo, Except.bind_eq_ok.2 ⟨_, h.host_again, ?_⟩⟩
  refine Except.bind_eq_ok.2 ⟨_, h.port_again, ?_⟩
  rw [hscheme, Percent.encode_eq_self h.userinfo, map_encode_eq_self h.coded.query,
    map_encode_eq_self h.fragment]
  refine Except.bind_eq_ok.2 ⟨(), hcheck _ rfl, ?_⟩
  simp only [hpathSelf, ite_self, Percent.encode_eq_self h.coded.path]
  refine Except.bind_eq_ok.2 ⟨(), hpath, Except.bind_eq_ok.2 ⟨(), hquery, ?_⟩⟩
  exact Except.bind_eq_ok.2 ⟨(), hfragment, rfl⟩

/-- Whether a character can stand in what comes before a query. -/
def isPlaceChar (c : Char) : Bool := c ≠ '?' && c ≠ '#' && !isControl c

theorem isPlaceChar_of_isAuthorityChar {c : Char} (h : isAuthorityChar c = true) :
    isPlaceChar c = true := by
  simp only [isAuthorityChar, Bool.and_eq_true] at h
  rw [isPlaceChar, h.1.1.2, h.1.2, h.2]
  rfl

theorem isPlaceChar_of_isPathChar {c : Char} (h : isPathChar c = true) : isPlaceChar c = true := by
  have hquestion : c ≠ '?' := by
    rintro rfl
    revert h
    decide
  have hmark : c ≠ '#' := by
    rintro rfl
    revert h
    decide
  simp [isPlaceChar, hquestion, hmark, isControl_of_isQueryChar (isQueryChar_of_isPathChar h)]

/-- What stands before the query of a settled address. -/
theorem Settled.isPlaceChar_of_mem (h : Settled url) :
    ∀ c ∈ url.scheme ++ ':' :: ('/' :: '/' :: (url.authority ++ url.path)),
      isPlaceChar c = true := by
  intro c hc
  simp only [List.mem_append, List.mem_cons] at hc
  rcases hc with hscheme | rfl | rfl | rfl | hauthority | hpath
  · exact of_isSchemeChar (p := fun c => isPlaceChar c = true) (by decide +kernel)
      (h.scheme c hscheme).1
  · decide
  · decide
  · decide
  · exact isPlaceChar_of_isAuthorityChar (h.isAuthorityChar_of_mem c hauthority)
  · exact isPlaceChar_of_isPathChar (h.coded.path c hpath)

/-- What stands behind the path of a settled address has no controls. -/
theorem Settled.isControl_of_mem_tail (h : Settled url) :
    ∀ c ∈ tail url.query url.fragment, isControl c = false := by
  intro c hc
  rw [tail, List.mem_append] at hc
  rcases hc with hquery | hfragment
  · rcases of_mem_marked hquery with rfl | ⟨text, htext, hmem⟩
    · decide
    · exact isControl_of_isQueryChar (h.coded.query text htext c hmem)
  · rcases of_mem_marked hfragment with rfl | ⟨text, htext, hmem⟩
    · decide
    · by_cases hmark : c = '#'
      · rw [hmark]
        decide
      · exact isControl_of_isQueryChar
          (isQueryChar_of_isFragmentChar (h.fragment text htext c hmem) hmark)

/-- **A settled address is read back from its text**, unless that is too long. -/
theorem Settled.ofChars_display (h : Settled url) (hlength : url.display.length ≤ maxLength) :
    ofChars url.display = .ok url := by
  have hplace := h.isPlaceChar_of_mem
  have hends : ∀ c ∈ url.authority, c ≠ '/' ∧ c ≠ '?' ∧ c ≠ '#' := fun c hc => by
    have hfit := h.isAuthorityChar_of_mem c hc
    simp only [isAuthorityChar, Bool.and_eq_true, decide_eq_true_eq] at hfit
    exact ⟨hfit.1.1.1, hfit.1.1.2, hfit.1.2⟩
  have hcutAuthority : cutAuthority ('/' :: '/' :: (url.authority ++ url.path)) =
      (url.authority, url.path) :=
    cutAuthority_append_of_head hends fun c hc => .inl (h.rooted c hc)
  have hcutScheme := cutScheme_append_cons (fun c hc => (h.scheme c hc).1) h.alpha
    ('/' :: '/' :: (url.authority ++ url.path))
  rw [display_eq h.scheme_ne_nil (authority_ne_nil h.host_ne_nil)] at hlength ⊢
  refine (ofChars_append_iff (fun hmem => absurd (hplace _ hmem) (by decide))
    (fun hmem => absurd (hplace _ hmem) (by decide)) fun text htext hmem => ?_).2
      ⟨hlength, fun c hc => ?_, ?_⟩
  · exact absurd (h.coded.query text htext _ hmem) (by decide)
  · rcases List.mem_append.1 hc with hmem | hmem
    · have hfit := hplace c hmem
      simp only [isPlaceChar, Bool.and_eq_true, Bool.not_eq_true'] at hfit
      exact hfit.2
    · exact h.isControl_of_mem_tail c hmem
  · rw [hcutScheme]
    dsimp only
    rw [hcutAuthority]
    exact h.ofParts_self

end Http.Url

end Backlog
