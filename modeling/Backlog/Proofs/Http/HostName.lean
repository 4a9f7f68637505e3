import Backlog.Proofs.Http.Segments
import Backlog.Proofs.Run
/-!
# Hosts that are read again

A host name in its ASCII form has letters, digits, hyphens and points only
(`Domain.isFormChar_of_mem_encode`): a label that is ASCII passed the check of labels or
stands for one that did, and what is written for any other label are its own ASCII
characters and digits. So a host that was read stands for itself, unless it is a numeric
address in brackets (`Host.Shape`), and what it is read as again does not change any more
(`Host.ofChars_display`).
-/

namespace Backlog

namespace Text

/-- **What stands behind the last separator**, and what stands before it with the
separator. -/
theorem exists_cutLast (sep : Char) (cs : List Char) :
    ∃ front, cs = front ++ (cs.reverse.takeWhile (· ≠ sep)).reverse ∧
      (front = [] ∨ ∃ before, front = before ++ [sep]) := by
  refine ⟨(cs.reverse.dropWhile (· ≠ sep)).reverse, ?_, ?_⟩
  · rw [← List.reverse_append, List.takeWhile_append_dropWhile, List.reverse_reverse]
  · cases hrest : cs.reverse.dropWhile (· ≠ sep) with
    | nil => exact .inl rfl
    | cons c rest =>
      have hc := List.head?_dropWhile_not (fun c => decide (c ≠ sep)) cs.reverse
      rw [hrest, List.head?_cons] at hc
      have hsep : c = sep := by simpa using hc
      exact .inr ⟨rest.reverse, by rw [hsep, List.reverse_cons]⟩

/-- **Cutting at the last separator** gives back what was put behind it. -/
theorem reverse_takeWhile_append {sep : Char} {front back : List Char}
    (hfront : front = [] ∨ ∃ before, front = before ++ [sep]) (hback : sep ∉ back) :
    ((front ++ back).reverse.takeWhile (· ≠ sep)).reverse = back := by
  have hall : ∀ c ∈ back.reverse, (decide (c ≠ sep)) = true := fun c hc => by
    refine decide_eq_true fun heq => hback ?_
    rw [← heq]
    exact List.mem_reverse.1 hc
  rw [List.reverse_append, List.takeWhile_append_of_pos hall]
  rcases hfront with rfl | ⟨before, rfl⟩
  · simp
  · simp

/-- So it does with what ends in the separator. -/
theorem reverse_dropWhile_append {sep : Char} {back : List Char} (hback : sep ∉ back)
    (front : List Char) :
    (((front ++ [sep]) ++ back).reverse.dropWhile (· ≠ sep)).reverse = front ++ [sep] := by
  have hall : ∀ c ∈ back.reverse, (decide (c ≠ sep)) = true := fun c hc => by
    refine decide_eq_true fun heq => hback ?_
    rw [← heq]
    exact List.mem_reverse.1 hc
  rw [List.reverse_append, List.dropWhile_append_of_pos hall]
  simp

end Text

namespace Http

namespace Domain

/-- Whether a character can stand in the ASCII form of a name. -/
def isFormChar (c : Char) : Bool := c.isAlphanum || c = '-' || c = '.'

theorem isFormChar_of_isAlphanum {c : Char} (h : c.isAlphanum = true) : isFormChar c = true := by
  rw [isFormChar, h]
  rfl

/-! ## Labels that pass -/

/-- What can stand in a label stands there by itself or among its neighbours. -/
theorem of_checkCharacter {label before after : List Char} {c : Char}
    (h : checkCharacter label before c after = .ok ()) :
    (isLetter c || needsNeighbours c) = true := by
  rw [checkCharacter] at h
  split at h
  · next hletter => rw [hletter, Bool.true_or]
  · split at h
    · cases h
    · next hneeds =>
      have hsome : needsNeighbours c = true := by simpa using hneeds
      rw [hsome, Bool.or_true]

theorem of_checkCharacters {label before cs : List Char}
    (h : checkCharacters label before cs = .ok ()) :
    ∀ c ∈ cs, (isLetter c || needsNeighbours c) = true := by
  induction cs generalizing before with
  | nil => exact fun c hc => absurd hc List.not_mem_nil
  | cons first rest ih =>
    obtain ⟨⟨⟩, hfirst, hrest⟩ := Except.bind_eq_ok.1 h
    exact List.forall_mem_cons.2 ⟨of_checkCharacter hfirst, ih hrest⟩

/-- The characters of ASCII that no label holds. -/
def strangers : Text.CodeRanges := [(0, 0x2C), (0x2E, 0x2F), (0x3A, 0x60), (0x7B, 0x7F)]

theorem strangers_apart : ∀ range ∈ strangers, ∀ other ∈ letters ++ barelyKnownLetters,
    range.2 < other.1 ∨ other.2 < range.1 := by
  decide +kernel

theorem isFormChar_of_isLetter {c : Char} (hascii : c.toNat < 0x80)
    (h : (isLetter c || needsNeighbours c) = true) : isFormChar c = true := by
  have hall : ∀ n < 0x80, isFormChar (Char.ofNat n) = true ∨
      strangers.contains (Char.ofNat n) = true ∧ needsNeighbours (Char.ofNat n) = false := by
    decide +kernel
  rcases Text.of_ascii (p := fun c => isFormChar c = true ∨
    strangers.contains c = true ∧ needsNeighbours c = false) hall hascii with hform | ⟨hno, hneeds⟩
  · exact hform
  · have hletters := Text.CodeRanges.contains_eq_false (fun range hrange other hother =>
      strangers_apart range hrange other (List.mem_append_left _ hother)) hno
    have hbarely := Text.CodeRanges.contains_eq_false (fun range hrange other hother =>
      strangers_apart range hrange other (List.mem_append_right _ hother)) hno
    rw [isLetter, isBarelyKnown, hletters, hbarely, hneeds] at h
    cases h

/-- **The ASCII characters of a label that passes** are small letters, digits and
hyphens. -/
theorem isFormChar_of_checkLabel {label : List Char} (h : checkLabel label = .ok ()) {c : Char}
    (hc : c ∈ label) (hascii : c.toNat < 0x80) : isFormChar c = true := by
  have hcharacters : checkCharacters label [] label = .ok () := by
    rw [checkLabel] at h
    cases hempty : label.isEmpty with
    | true =>
      rw [if_pos hempty] at h
      cases h
    | false =>
      rw [if_neg (by simp [hempty])] at h
      cases hcomposed : isComposed label with
      | false =>
        rw [if_pos (by simp [hcomposed])] at h
        cases h
      | true =>
        rw [if_neg (by simp [hcomposed])] at h
        obtain ⟨⟨⟩, -, h⟩ := Except.bind_eq_ok.1 h
        split at h
        · cases h
        · obtain ⟨⟨⟩, hcharacters, -⟩ := Except.bind_eq_ok.1 h
          exact hcharacters
  exact isFormChar_of_isLetter hascii (of_checkCharacters hcharacters c hc)

namespace Punycode

/-! ## What is written -/

theorem isAlphanum_digit {n : Nat} (h : n < 36) : (digit n).isAlphanum = true := by
  have hall : ∀ n < 36, (digit n).isAlphanum = true := by decide
  exact hall n h

theorem threshold_le (place bias : Nat) : threshold place bias ≤ 26 := by
  unfold threshold
  split <;> omega

theorem isAlphanum_of_mem_digits {bias place n : Nat} {c : Char} (h : c ∈ digits bias place n) :
    c.isAlphanum = true := by
  fun_induction digits bias place n with
  | case1 place n least hlast =>
    have hle : least ≤ 26 := threshold_le place bias
    rw [List.mem_singleton.1 h]
    exact isAlphanum_digit (by omega)
  | case2 place n least hmore ih =>
    have hle : least ≤ 26 := threshold_le place bias
    rcases List.mem_cons.1 h with rfl | hrest
    · have hmod := Nat.mod_lt (n - least) (show 0 < 36 - least by omega)
      exact isAlphanum_digit (by omega)
    · exact ih hrest

/-- **What stands for the characters outside ASCII** are letters and digits. -/
theorem isAlphanum_of_mem_written {cs : List Char} {plain next : Nat} {codes : List Nat}
    {state : Writing} (hstate : ∀ c ∈ state.written, c.isAlphanum = true) :
    ∀ c ∈ (writeCodes cs plain next codes state).written, c.isAlphanum = true := by
  have hpass : ∀ (code : Nat) (state : Writing) (c : Char),
      (∀ d ∈ state.written, d.isAlphanum = true) →
        ∀ d ∈ (state.pass plain code c).written, d.isAlphanum = true := by
    intro code state c hstate
    rw [Writing.pass]
    split
    · exact hstate
    · split
      · intro d hd
        rcases List.mem_append.1 hd with hd | hd
        · exact isAlphanum_of_mem_digits (List.mem_reverse.1 hd)
        · exact hstate d hd
      · exact hstate
  have hround : ∀ (code : Nat) (cs : List Char) (state : Writing),
      (∀ d ∈ state.written, d.isAlphanum = true) →
        ∀ d ∈ (cs.foldl (Writing.pass plain code) state).written, d.isAlphanum = true := by
    intro code cs
    induction cs with
    | nil => exact fun _ hstate => hstate
    | cons c cs ih => exact fun state hstate => ih _ (hpass code state c hstate)
  induction codes generalizing next state with
  | nil => exact hstate
  | cons code codes ih =>
    rw [writeCodes]
    exact ih (hround code cs _ hstate)

/-- The characters of what is written: those in ASCII, a hyphen, and digits. -/
theorem of_mem_encode {cs : List Char} {c : Char} (h : c ∈ encode cs) :
    (c ∈ cs ∧ c.toNat < 0x80) ∨ isFormChar c = true := by
  rcases List.mem_append.1 h with hplain | hwritten
  · split at hplain
    · cases hplain
    · rcases List.mem_append.1 hplain with hplain | hhyphen
      · obtain ⟨hmem, hascii⟩ := List.mem_filter.1 hplain
        exact .inl ⟨hmem, of_decide_eq_true hascii⟩
      · rw [List.mem_singleton.1 hhyphen]
        exact .inr (by decide)
  · refine .inr (isFormChar_of_isAlphanum ?_)
    exact isAlphanum_of_mem_written (by simp) c (List.mem_reverse.1 hwritten)

/-! ## What is read -/

theorem isAlphanum_of_digitValue? {c : Char} {value : Nat} (h : digitValue? c = some value) :
    c.isAlphanum = true := by
  have hcases : ('a' ≤ c ∧ c ≤ 'z') ∨ ('A' ≤ c ∧ c ≤ 'Z') ∨ ('0' ≤ c ∧ c ≤ '9') := by
    rw [digitValue?] at h
    split at h
    · next hlower => exact .inl hlower
    · split at h
      · next hupper => exact .inr (.inl hupper)
      · split at h
        · next hdigit => exact .inr (.inr hdigit)
        · cases h
  have hbelow : c.toNat < 0x80 := by
    rcases hcases with ⟨-, hle⟩ | ⟨-, hle⟩ | ⟨-, hle⟩ <;>
      exact Nat.lt_of_le_of_lt (UInt32.le_iff_toNat_le.1 hle) (by decide)
  have hall : ∀ n < 0x80, (digitValue? (Char.ofNat n)).isSome = true →
      (Char.ofNat n).isAlphanum = true := by decide +kernel
  exact Text.of_ascii (p := fun c => (digitValue? c).isSome = true → c.isAlphanum = true) hall
    hbelow (by rw [h]; rfl)

/-- A number takes digits off. -/
theorem of_number? {bias place weight size : Nat} {cs rest : List Char}
    (h : number? bias place weight cs = some (size, rest)) :
    ∃ taken, cs = taken ++ rest ∧ ∀ c ∈ taken, c.isAlphanum = true := by
  induction cs generalizing place weight size with
  | nil => cases h
  | cons c cs ih =>
    rw [number?] at h
    split at h
    · cases h
    · next value hvalue =>
      have hc := isAlphanum_of_digitValue? hvalue
      dsimp only at h
      split at h
      · obtain ⟨-, rfl⟩ := Prod.mk.inj (Option.some.inj h)
        exact ⟨[c], rfl, fun d hd => (List.mem_singleton.1 hd) ▸ hc⟩
      · obtain ⟨⟨more, others⟩, hmore, heq⟩ := Option.map_eq_some_iff.1 h
        obtain ⟨-, rfl⟩ := Prod.mk.inj heq
        obtain ⟨taken, rfl, htaken⟩ := ih hmore
        exact ⟨c :: taken, rfl, List.forall_mem_cons.2 ⟨hc, htaken⟩⟩

/-- **What is in place stays**, and the numbers are letters and digits. -/
theorem of_insertAll? {fuel : Nat} {isFirst : Bool} {bias code place : Nat}
    {placed numbers label : List Char}
    (h : insertAll? fuel isFirst bias code place placed numbers = some label) :
    (∀ c ∈ placed, c ∈ label) ∧ ∀ c ∈ numbers, c.isAlphanum = true := by
  induction fuel generalizing isFirst bias code place placed numbers with
  | zero =>
    cases numbers with
    | nil =>
      cases h
      exact ⟨fun c hc => hc, fun c hc => absurd hc List.not_mem_nil⟩
    | cons c numbers => cases h
  | succ fuel ih =>
    cases numbers with
    | nil =>
      cases h
      exact ⟨fun c hc => hc, fun c hc => absurd hc List.not_mem_nil⟩
    | cons c numbers =>
      rw [insertAll?] at h
      · split at h
        · cases h
        · next size rest hnumber =>
          dsimp only at h
          split at h
          · cases h
          · obtain ⟨hplaced, hrest⟩ := ih h
            obtain ⟨taken, htaken, hdigits⟩ := of_number? hnumber
            refine ⟨fun d hd => hplaced d ?_, fun d hd => ?_⟩
            · rw [List.mem_append, List.mem_cons]
              rw [← List.take_append_drop ((place + size) % (placed.length + 1)) placed,
                List.mem_append] at hd
              exact hd.imp_right .inr
            · rw [htaken] at hd
              exact (List.mem_append.1 hd).elim (hdigits d) (hrest d)
      · exact List.cons_ne_nil _ _

/-- The characters of an ASCII form: some of what it stands for, a hyphen, and
digits. -/
theorem of_mem_decode? {cs label : List Char} (h : decode? cs = some label) {c : Char}
    (hc : c ∈ cs) : c ∈ label ∨ isFormChar c = true := by
  obtain ⟨front, hcs, hfront⟩ := Text.exists_cutLast '-' cs
  obtain ⟨numbers, hnumbers⟩ : ∃ numbers, (cs.reverse.takeWhile (· ≠ '-')).reverse = numbers :=
    ⟨_, rfl⟩
  rw [hnumbers] at hcs
  have htake : cs.take (cs.length - numbers.length) = front := by
    rw [hcs, List.length_append, Nat.add_sub_cancel, List.take_left]
  rw [decode?, hnumbers, htake] at h
  split at h
  · cases h
  · obtain ⟨hplaced, hdigits⟩ := of_insertAll? h
    rw [hcs] at hc
    rcases List.mem_append.1 hc with hc | hc
    · rcases hfront with rfl | ⟨before, rfl⟩
      · cases hc
      · rw [List.dropLast_concat] at hplaced
        rcases List.mem_append.1 hc with hc | hc
        · exact .inl (hplaced c hc)
        · rw [List.mem_singleton.1 hc]
          exact .inr (by decide)
    · exact .inr (isFormChar_of_isAlphanum (hdigits c hc))

end Punycode

/-! ## ASCII forms -/

theorem isFormChar_of_mem_codedMark {c : Char} (h : c ∈ codedMark) : isFormChar c = true := by
  have hall : codedMark.all isFormChar = true := by decide
  exact List.all_eq_true.1 hall c h

/-- A label that is ASCII and passes. -/
theorem isFormChar_of_decodeLabel {form label : List Char} (h : decodeLabel form = .ok label)
    (hascii : ∀ c ∈ form, c.toNat < 0x80) : ∀ c ∈ form, isFormChar c = true := by
  intro c hc
  rw [decodeLabel] at h
  cases hmark : Text.afterStart? codedMark form with
  | none =>
    rw [hmark] at h
    dsimp only at h
    cases hcheck : checkLabel form with
    | error fault =>
      rw [hcheck] at h
      cases h
    | ok _ => exact isFormChar_of_checkLabel hcheck hc (hascii c hc)
  | some coded =>
    rw [hmark] at h
    dsimp only at h
    by_cases hempty : coded.isEmpty = true
    · rw [if_pos hempty] at h
      cases h
    · rw [if_neg hempty] at h
      by_cases hlast : coded.getLast? = some '-'
      · rw [if_pos hlast] at h
        cases h
      · rw [if_neg hlast] at h
        cases hread : Punycode.decode? coded with
        | none =>
          rw [hread] at h
          cases h
        | some name =>
          rw [hread] at h
          obtain ⟨⟨⟩, hcheck, -⟩ := Except.bind_eq_ok.1 h
          have hform := Text.afterStart?_eq_some_iff.1 hmark
          have hsmall := hascii c hc
          rw [hform] at hc
          rcases List.mem_append.1 hc with hc | hc
          · exact isFormChar_of_mem_codedMark hc
          · rcases Punycode.of_mem_decode? hread hc with hname | hplain
            · exact isFormChar_of_checkLabel hcheck hname hsmall
            · exact hplain

/-- What the ASCII form of a label is: the label itself, or its coding behind the
mark. -/
theorem of_encodeLabel {label form : List Char} (h : encodeLabel label = .ok form) :
    ((∀ c ∈ label, c.toNat < 0x80) ∧ (∃ name, decodeLabel label = .ok name) ∧ form = label) ∨
      (checkLabel label = .ok () ∧ form = codedMark ++ Punycode.encode label) := by
  rw [encodeLabel] at h
  split at h
  · next hascii =>
    obtain ⟨written, hwritten, h⟩ := Except.bind_eq_ok.1 h
    obtain ⟨name, hname, rfl⟩ := Except.map_eq_ok_iff.1 hwritten
    dsimp only at h
    split at h
    · cases h
    · cases h
      exact .inl ⟨fun c hc => of_decide_eq_true (List.all_eq_true.1 hascii c hc), ⟨name, hname⟩,
        rfl⟩
  · obtain ⟨written, hwritten, h⟩ := Except.bind_eq_ok.1 h
    obtain ⟨⟨⟩, hcheck, rfl⟩ := Except.map_eq_ok_iff.1 hwritten
    dsimp only at h
    split at h
    · cases h
    · cases h
      exact .inr ⟨hcheck, rfl⟩

theorem isFormChar_of_encodeLabel {label form : List Char} (h : encodeLabel label = .ok form) :
    ∀ c ∈ form, isFormChar c = true := by
  rcases of_encodeLabel h with ⟨hascii, ⟨name, hname⟩, rfl⟩ | ⟨hcheck, rfl⟩
  · exact isFormChar_of_decodeLabel hname hascii
  · intro c hc
    rcases List.mem_append.1 hc with hc | hc
    · exact isFormChar_of_mem_codedMark hc
    · rcases Punycode.of_mem_encode hc with ⟨hlabel, hascii⟩ | hplain
      · exact isFormChar_of_checkLabel hcheck hlabel hascii
      · exact hplain

/-- **The ASCII form of a name has letters, digits, hyphens and points** only. -/
theorem isFormChar_of_mem_encode {name form : List Char} (h : encode name = .ok form) {c : Char}
    (hc : c ∈ form) : isFormChar c = true := by
  obtain ⟨joined, hjoined, h⟩ := Except.bind_eq_ok.1 h
  obtain ⟨forms, hforms, rfl⟩ : ∃ forms, (labels name).1.mapM encodeLabel = .ok forms ∧
      joined = join forms (labels name).2 := by
    rw [mapLabels] at hjoined
    split at hjoined
    · cases hjoined
    · dsimp only at hjoined
      split at hjoined
      · cases hjoined
      · obtain ⟨forms, hforms, hjoin⟩ := Except.bind_eq_ok.1 hjoined
        cases hjoin
        exact ⟨forms, hforms, rfl⟩
  have hform : form = join forms (labels name).2 := by
    dsimp only at h
    generalize (if (labels name).2 = true then maxName + 1 else maxName) = room at h
    split at h
    · cases h
    · cases h
      rfl
  rw [hform] at hc
  rcases List.mem_append.1 hc with hc | hstop
  · rcases Text.of_mem_intercalate hc with rfl | ⟨written, hwritten, hc⟩
    · decide
    · obtain ⟨label, -, hlabel⟩ := Except.exists_of_mem_mapM hforms hwritten
      exact isFormChar_of_encodeLabel hlabel c hc
  · split at hstop
    · rw [List.mem_singleton.1 hstop]
      decide
    · cases hstop

end Domain

namespace Url

/-- Whether a character can stand in what is read as an authority. -/
def isAuthorityChar (c : Char) : Bool := c ≠ '/' && c ≠ '?' && c ≠ '#' && !isControl c

/-- Whether a character can stand in what is read as a host. -/
def isHostChar (c : Char) : Bool := isAuthorityChar c && c ≠ '@'

end Url

/-! ## Hosts -/

namespace Host

open Url (isHostChar)

variable {cs host again : List Char}

/-- **What a host is read as**: a numeric address of version 6, or characters that stand
for themselves. -/
inductive Shape (host : List Char) : Prop
  /-- A numeric address of version 6. -/
  | numeric (haddress : isAddress6 host = true) (hchars : ∀ c ∈ host, isHostChar c = true)
  /-- Characters that stand for themselves. -/
  | plain (hchars : ∀ c ∈ host, isPlain c = true)

/-- What holds of the characters of ASCII that stand for themselves holds of all that do. -/
theorem of_isPlain {p : Char → Prop}
    (h : ∀ n < 0x80, isPlain (Char.ofNat n) = true → p (Char.ofNat n)) {c : Char}
    (hc : isPlain c = true) : p c := by
  have hascii : c.toNat < 0x80 := by
    rw [isPlain, Bool.or_eq_true] at hc
    rcases hc with halphanum | hmem
    · exact Text.lt_of_isAlphanum halphanum
    · have hall : "-._~!$&'()*+,;=\"\x60\x7b\x7d%|\\".toList.all (·.toNat < 0x80) = true := by
        decide
      exact of_decide_eq_true (List.all_eq_true.1 hall c (List.contains_iff_mem.1 hmem))
  exact Text.of_ascii (p := fun c => isPlain c = true → p c) h hascii hc

theorem isHostChar_of_isPlain {c : Char} (h : isPlain c = true) : isHostChar c = true :=
  of_isPlain (p := fun c => isHostChar c = true) (by decide +kernel) h

theorem isAscii_of_isPlain {c : Char} (h : isPlain c = true) : isAscii c = true :=
  of_isPlain (p := fun c => isAscii c = true) (by decide +kernel) h

theorem isPlain_toLower {c : Char} (h : isPlain c = true) : isPlain c.toLower = true :=
  of_isPlain (p := fun c => isPlain c.toLower = true) (by decide +kernel) h

theorem isPlain_of_isAlphanum {c : Char} (h : c.isAlphanum = true) : isPlain c = true := by
  rw [isPlain, h, Bool.true_or]

theorem isPlain_of_isFormChar {c : Char} (h : Domain.isFormChar c = true) : isPlain c = true := by
  simp only [Domain.isFormChar, Bool.or_eq_true, decide_eq_true_eq] at h
  rcases h with (halphanum | rfl) | rfl
  · exact isPlain_of_isAlphanum halphanum
  · decide
  · decide

theorem not_mem_of_plain (h : ∀ c ∈ host, isPlain c = true) {c : Char} (hc : isPlain c = false) :
    c ∉ host := fun hmem => by
  rw [h c hmem] at hc
  cases hc

/-- What is taken for an address of version 4 has digits and points. -/
theorem of_looksLikeAddress4 (h : looksLikeAddress4 cs = true) :
    ∀ c ∈ cs, c = '.' ∨ c.isDigit = true := by
  intro c hc
  rw [looksLikeAddress4, Bool.and_eq_true, List.all_eq_true] at h
  rw [← (Text.of_splitAtChar '.' cs).1] at hc
  refine (Text.of_mem_intercalate hc).imp_right fun ⟨part, hpart, hmem⟩ => ?_
  have hdigits := h.2 part hpart
  rw [Bool.and_eq_true, List.all_eq_true] at hdigits
  exact hdigits.2 c hmem

/-- The groups of an address are three at least, with the empty ones. -/
theorem three_le_of_areGroups {parts : List (List Char)} (h : areGroups parts = true) :
    3 ≤ parts.length := by
  rw [areGroups] at h
  split at h
  · cases h
  · next hcount =>
    simp only [Bool.or_eq_true, decide_eq_true_eq, not_or] at hcount
    omega

/-- What has no colon is not of three groups. -/
theorem mem_of_groups? {address : List Char} {parts : List (List Char)}
    (h : groups? address = some parts) (hcount : 3 ≤ parts.length) : ':' ∈ address := by
  refine Classical.byContradiction fun hno => ?_
  rw [groups?, Text.splitAtChar_of_not_mem hno] at h
  dsimp only [List.getLast?_singleton] at h
  split at h
  · split at h
    · cases h
      exact absurd hcount (by simp)
    · cases h
  · cases h
    exact absurd hcount (by simp)

/-- An address of version 6 has a colon. -/
theorem mem_of_isAddress6 (h : isAddress6 host = true) : ':' ∈ host := by
  obtain ⟨-, hhost⟩ := Text.of_cutAtChar '%' host
  rcases hcut : Text.cutAtChar '%' host with ⟨address, zone⟩
  rw [hcut] at hhost
  rw [isAddress6, hcut, Bool.and_eq_true] at h
  obtain ⟨-, h⟩ := h
  split at h
  · next parts hparts =>
    rw [hhost]
    exact List.mem_append_left _ (mem_of_groups? hparts (three_le_of_areGroups h))
  · cases h

theorem display_of_address6 (h : isAddress6 host = true) :
    display host = '[' :: (host ++ [']']) := by
  rw [display, if_pos (mem_of_isAddress6 h), List.cons_append]

theorem display_of_plain (h : ∀ c ∈ host, isPlain c = true) : display host = host := by
  rw [display, if_neg (not_mem_of_plain h (by decide))]

/-- The characters of a host as it stands in an address. -/
theorem Shape.isHostChar_of_mem_display (h : Shape host) :
    ∀ c ∈ display host, isHostChar c = true := by
  intro c hc
  cases h with
  | numeric haddress hchars =>
    rw [display_of_address6 haddress] at hc
    rcases List.mem_cons.1 hc with rfl | hc
    · decide
    · rcases List.mem_append.1 hc with hc | hc
      · exact hchars c hc
      · rw [List.mem_singleton.1 hc]
        decide
  | plain hchars =>
    rw [display_of_plain hchars] at hc
    exact isHostChar_of_isPlain (hchars c hc)

/-- **What is read as a host has its shape.** -/
theorem shape_of_ofChars (h : ofChars cs = .ok host) (hcs : ∀ c ∈ cs, isHostChar c = true) :
    Shape host := by
  rw [ofChars] at h
  split at h
  · next hlooks =>
    split at h
    · cases h
      refine .plain fun c hc => ?_
      rcases of_looksLikeAddress4 hlooks c hc with rfl | hdigit
      · decide
      · exact isPlain_of_isAlphanum (by rw [Char.isAlphanum, hdigit, Bool.or_true])
    · cases h
  · split at h
    · dsimp only at h
      split at h
      · next haddress =>
        cases h
        refine .numeric haddress fun c hc => hcs c ?_
        exact List.mem_of_mem_drop ((List.dropLast_sublist _).subset hc)
      · cases h
    · split at h
      · cases h
        refine .plain fun c hc => ?_
        rcases Percent.of_mem_encode hc with ⟨-, hplain⟩ | rfl | halphanum
        · exact hplain
        · decide
        · exact isPlain_of_isAlphanum halphanum
      · obtain hname := Except.mapError_eq_ok_iff.1 h
        exact .plain fun c hc => isPlain_of_isFormChar (Domain.isFormChar_of_mem_encode hname hc)

/-! ### Small letters -/

theorem isPlain_of_mem_lower (h : ∀ c ∈ cs, isPlain c = true) :
    ∀ c ∈ cs.map Char.toLower, isPlain c = true := by
  intro c hc
  obtain ⟨d, hd, rfl⟩ := List.mem_map.1 hc
  exact isPlain_toLower (h d hd)

theorem lower_lower (h : ∀ c ∈ cs, isPlain c = true) :
    (cs.map Char.toLower).map Char.toLower = cs.map Char.toLower := by
  rw [List.map_map]
  refine List.map_congr_left fun c hc => ?_
  exact of_isPlain (p := fun c => c.toLower.toLower = c.toLower) (by decide +kernel) (h c hc)

/-- Small letters are no digits, so what looks like an address in small letters does so
before. -/
theorem looksLikeAddress4_of_lower (h : ∀ c ∈ cs, isPlain c = true)
    (hlooks : looksLikeAddress4 (cs.map Char.toLower) = true) : looksLikeAddress4 cs = true := by
  have hsame : cs.map Char.toLower = cs := by
    conv_rhs => rw [← List.map_id cs]
    refine List.map_congr_left fun c hc => ?_
    have hdigit := of_looksLikeAddress4 hlooks c.toLower (List.mem_map_of_mem hc)
    exact of_isPlain
      (p := fun c => (c.toLower = '.' ∨ c.toLower.isDigit = true) → c.toLower = id c)
      (by decide +kernel) (h c hc) hdigit
  rwa [hsame] at hlooks

/-! ### Reading again -/

/-- How characters that stand for themselves are read. -/
theorem ofChars_of_plain (h : ∀ c ∈ cs, isPlain c = true) :
    ofChars cs =
      if looksLikeAddress4 cs then
        if isAddress4 cs then .ok cs else .error (.badAddress4 (String.ofList cs))
      else .ok (cs.map Char.toLower) := by
  have hbracket : ¬(cs.head? = some '[' ∧ cs.getLast? = some ']' ∧ 2 ≤ cs.length) := fun hno =>
    not_mem_of_plain h (by decide) (List.mem_of_mem_head? hno.1)
  have hascii : cs.all isAscii = true :=
    List.all_eq_true.2 fun c hc => isAscii_of_isPlain (h c hc)
  rw [ofChars, if_neg hbracket, if_pos hascii, Percent.encode_eq_self (isPlain_of_mem_lower h)]

/-- How an address of version 6 is read. -/
theorem ofChars_of_address6 (h : isAddress6 host = true) :
    ofChars ('[' :: (host ++ [']'])) = .ok host := by
  have hlooks : ¬ looksLikeAddress4 ('[' :: (host ++ [']'])) = true := fun hno => by
    rcases of_looksLikeAddress4 hno '[' List.mem_cons_self with hpoint | hdigit
    · cases hpoint
    · exact absurd hdigit (by decide)
  have hbracket : ('[' :: (host ++ [']'])).head? = some '[' ∧
      ('[' :: (host ++ [']'])).getLast? = some ']' ∧ 2 ≤ ('[' :: (host ++ [']'])).length := by
    refine ⟨rfl, ?_, ?_⟩
    · rw [← List.cons_append, List.getLast?_concat]
    · simp
  have hinner : (('[' :: (host ++ [']'])).drop 1).dropLast = host := List.dropLast_concat
  rw [ofChars, if_neg hlooks, if_pos hbracket, hinner, if_pos h]

/-- **A host that was read twice is read as itself.** -/
theorem ofChars_display (hshape : Shape host) (h : ofChars (display host) = .ok again) :
    ofChars (display again) = .ok again ∧ (again = [] ↔ host = []) := by
  cases hshape with
  | numeric haddress hchars =>
    rw [display_of_address6 haddress, ofChars_of_address6 haddress] at h
    cases h
    rw [display_of_address6 haddress, ofChars_of_address6 haddress]
    exact ⟨rfl, Iff.rfl⟩
  | plain hchars =>
    rw [display_of_plain hchars] at h
    have hread := h
    rw [ofChars_of_plain hchars] at h
    split at h
    · split at h
      · cases h
        rw [display_of_plain hchars]
        exact ⟨hread, Iff.rfl⟩
      · cases h
    · next hlooks =>
      cases h
      have hlower := isPlain_of_mem_lower hchars
      have hnever : ¬ looksLikeAddress4 (host.map Char.toLower) = true := fun hno =>
        hlooks (looksLikeAddress4_of_lower hchars hno)
      rw [display_of_plain hlower, ofChars_of_plain hlower, if_neg hnever, lower_lower hchars]
      exact ⟨rfl, List.map_eq_nil_iff⟩

end Host

end Http

end Backlog
