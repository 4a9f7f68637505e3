import Backlog.Http.Form
import Backlog.Http.Url
/-!
# What is written is read back

The query of an address is written in form coding, which stands on percent
coding, which stands on UTF-8. Each of the three is read back as what was
written: characters from their bytes (`Text.Utf8.decodeLossy_encode`), bytes
from their percent coding (`Http.Percent.bytes_encodeChar_append`), and named
values from their form coding (`Http.Form.decode_encode`). What form coding
writes can stand in a query as it is (`Http.Form.isQueryChar_of_mem_encode`).
-/

namespace Backlog

namespace Text

namespace Utf8

variable {b low high code n : Nat} {rest : List UInt8}

/-- Reading a byte, and then the others. -/
theorem decodeFrom_cons (pending : Pending) (byte : UInt8) (rest : List UInt8) :
    decodeFrom pending (byte :: rest) =
      (step pending byte.toNat).1 ++ decodeFrom (step pending byte.toNat).2 rest := by
  cases pending <;> rfl

/-- A byte that carries the unfinished character on, not as its last. -/
theorem decodeFrom_more {count : Nat} (hb : b < 256) (hlow : low ≤ b) (hhigh : b ≤ high) :
    decodeFrom (.some (count + 2) low high code) (UInt8.ofNat b :: rest) =
      decodeFrom (.some (count + 1) 0x80 0xBF (code * 64 + (b - 0x80))) rest := by
  have hbyte : (UInt8.ofNat b).toNat = b := by rw [UInt8.toNat_ofNat', Nat.mod_eq_of_lt hb]
  rw [decodeFrom_cons, hbyte, step, if_pos ⟨hlow, hhigh⟩]
  simp

/-- The last byte of the unfinished character. -/
theorem decodeFrom_last (hb : b < 256) (hlow : low ≤ b) (hhigh : b ≤ high) :
    decodeFrom (.some 1 low high code) (UInt8.ofNat b :: rest) =
      some (Char.ofNat (code * 64 + (b - 0x80))) :: decodeFrom .none rest := by
  have hbyte : (UInt8.ofNat b).toNat = b := by rw [UInt8.toNat_ofNat', Nat.mod_eq_of_lt hb]
  rw [decodeFrom_cons, hbyte, step, if_pos ⟨hlow, hhigh⟩]
  rfl

/-- The first byte of a character of several bytes. -/
theorem decodeFrom_first {pending : Pending} (hb : b < 256) (hstart : start b = ([], pending)) :
    decodeFrom .none (UInt8.ofNat b :: rest) = decodeFrom pending rest := by
  have hbyte : (UInt8.ofNat b).toNat = b := by rw [UInt8.toNat_ofNat', Nat.mod_eq_of_lt hb]
  rw [decodeFrom_cons, hbyte, step, hstart, List.nil_append]

/-- The first byte of three admits the second, unless they code for half of a
pair. -/
theorem start_of_three (hlow : 0x800 ≤ n) (hhigh : n ≤ 0xFFFF) (hwhole : n < 0xD800 ∨ 0xDFFF < n) :
    ∃ low high, start (n / 4096 + 0xE0) = ([], .some 2 low high (n / 4096)) ∧
      low ≤ n / 64 % 64 + 0x80 ∧ n / 64 % 64 + 0x80 ≤ high := by
  by_cases hzero : n / 4096 = 0
  · refine ⟨0xA0, 0xBF, ?_, by omega, by omega⟩
    rw [hzero]
    rfl
  · by_cases hd : n / 4096 = 0xD
    · refine ⟨0x80, 0x9F, ?_, by omega, by omega⟩
      rw [hd]
      rfl
    · refine ⟨0x80, 0xBF, ?_, by omega, by omega⟩
      have hcode : n / 4096 + 0xE0 - 0xE0 = n / 4096 := by omega
      rw [start, if_neg (by omega), if_neg (by omega), if_neg (by omega), if_neg (by omega),
        if_pos (by omega), hcode]

/-- The first byte of four admits the second. -/
theorem start_of_four (hlow : 0xFFFF < n) (hhigh : n < 0x110000) :
    ∃ low high, start (n / 262144 + 0xF0) = ([], .some 3 low high (n / 262144)) ∧
      low ≤ n / 4096 % 64 + 0x80 ∧ n / 4096 % 64 + 0x80 ≤ high := by
  by_cases hzero : n / 262144 = 0
  · refine ⟨0x90, 0xBF, ?_, by omega, by omega⟩
    rw [hzero]
    rfl
  · by_cases hfour : n / 262144 = 4
    · refine ⟨0x80, 0x8F, ?_, by omega, by omega⟩
      rw [hfour]
      rfl
    · refine ⟨0x80, 0xBF, ?_, by omega, by omega⟩
      have hcode : n / 262144 + 0xF0 - 0xF0 = n / 262144 := by omega
      rw [start, if_neg (by omega), if_neg (by omega), if_neg (by omega), if_neg (by omega),
        if_neg (by omega), if_neg (by omega), if_pos (by omega), hcode]

/-- **The bytes of a character are read as that character**, whatever follows
them. -/
theorem decodeFrom_utf8EncodeChar (c : Char) (rest : List UInt8) :
    decodeFrom .none (String.utf8EncodeChar c ++ rest) = some c :: decodeFrom .none rest := by
  obtain ⟨n, hn⟩ : ∃ n, c.val.toNat = n := ⟨_, rfl⟩
  have hvalid : n < 0xD800 ∨ (0xDFFF < n ∧ n < 0x110000) := hn ▸ c.valid
  have hc : ∀ m, m = n → Char.ofNat m = c := fun m hm => by
    rw [hm, ← hn]
    exact Char.ofNat_toNat c
  rw [String.utf8EncodeChar, hn]
  -- a character of one, two, three or four bytes
  split
  · next hone =>
    have hbyte : (UInt8.ofNat n).toNat = n := by
      rw [UInt8.toNat_ofNat', Nat.mod_eq_of_lt (by omega)]
    rw [List.singleton_append, decodeFrom_cons, hbyte, step, start, if_pos (by omega), hc n rfl]
    rfl
  · split
    · next htwo =>
      have hstart : start (n / 64 % 0x20 + 0xC0) = ([], .some 1 0x80 0xBF (n / 64)) := by
        have hcode : n / 64 % 0x20 + 0xC0 - 0xC0 = n / 64 := by omega
        rw [start, if_neg (by omega), if_pos (by omega), hcode]
      rw [List.cons_append, List.singleton_append, decodeFrom_first (by omega) hstart,
        decodeFrom_last (by omega) (by omega) (by omega), hc _ (by omega)]
    · split
      · next htwo hthree =>
        obtain ⟨low, high, hstart, hlow, hhigh⟩ := start_of_three (n := n) (by omega) hthree
          (by omega)
        have hfirst : n / 4096 % 0x10 = n / 4096 := by omega
        rw [List.cons_append, List.cons_append, List.singleton_append, hfirst,
          decodeFrom_first (by omega) hstart, decodeFrom_more (by omega) hlow hhigh,
          decodeFrom_last (by omega) (by omega) (by omega), hc _ (by omega)]
      · next htwo hthree =>
        obtain ⟨low, high, hstart, hlow, hhigh⟩ := start_of_four (n := n) (by omega) (by omega)
        have hfirst : n / 262144 % 0x08 = n / 262144 := by omega
        rw [List.cons_append, List.cons_append, List.cons_append, List.singleton_append, hfirst,
          decodeFrom_first (by omega) hstart, decodeFrom_more (by omega) hlow hhigh,
          decodeFrom_more (by omega) (by omega) (by omega),
          decodeFrom_last (by omega) (by omega) (by omega), hc _ (by omega)]

theorem decodeFrom_encode (cs : List Char) : decodeFrom .none (encode cs) = cs.map some := by
  induction cs with
  | nil => rfl
  | cons c cs ih =>
    have hcons : encode (c :: cs) = String.utf8EncodeChar c ++ encode cs := rfl
    rw [hcons, decodeFrom_utf8EncodeChar, ih, List.map_cons]

/-- **Characters are read back from their bytes.** -/
theorem decodeLossy_encode (cs : List Char) : decodeLossy (encode cs) = cs := by
  rw [decodeLossy, decodeFrom_encode, List.map_map]
  exact List.map_id cs

end Utf8

/-! ## ASCII -/

/-- What holds of the characters with the first codes holds of those of ASCII. -/
theorem of_ascii {p : Char → Prop} (h : ∀ n < 0x80, p (Char.ofNat n)) {c : Char}
    (hc : c.toNat < 0x80) : p c := by
  have hchar := h c.toNat hc
  rwa [Char.ofNat_toNat] at hchar

/-- Letters and digits are ASCII. -/
theorem lt_of_isAlphanum {c : Char} (h : c.isAlphanum = true) : c.toNat < 0x80 := by
  have hbelow : ∀ last : Char, c.val ≤ last.val → last.toNat < 0x80 → c.toNat < 0x80 :=
    fun last hc hlast => Nat.lt_of_le_of_lt (UInt32.le_iff_toNat_le.1 hc) hlast
  rcases Bool.or_eq_true_iff.1 h with halpha | hdigit
  · rcases Bool.or_eq_true_iff.1 halpha with hupper | hlower
    · exact hbelow 'Z' (of_decide_eq_true hupper).2 (by decide)
    · exact hbelow 'z' (of_decide_eq_true (Bool.and_eq_true_iff.1 hlower).2) (by decide)
  · exact hbelow '9' (of_decide_eq_true (Bool.and_eq_true_iff.1 hdigit).2) (by decide)

/-- What holds of the letters and digits of ASCII holds of all letters and digits. -/
theorem of_isAlphanum {p : Char → Prop}
    (h : ∀ n < 0x80, (Char.ofNat n).isAlphanum = true → p (Char.ofNat n)) {c : Char}
    (hc : c.isAlphanum = true) : p c :=
  of_ascii (p := fun c => c.isAlphanum = true → p c) h (lt_of_isAlphanum hc) hc

/-! ## Pieces between separators -/

/-- The pieces of pieces with separators between them. -/
theorem splitAtChar_intercalate {sep : Char} {pieces : List (List Char)} (hne : pieces ≠ [])
    (h : ∀ piece ∈ pieces, sep ∉ piece) : splitAtChar sep ([sep].intercalate pieces) = pieces := by
  -- a piece in front of pieces that are split already
  have happend : ∀ (piece rest : List Char) (first : List Char) (others : List (List Char)),
      sep ∉ piece → splitAtChar sep rest = first :: others →
        splitAtChar sep (piece ++ rest) = (piece ++ first) :: others := by
    intro piece rest first others hpiece hrest
    induction piece with
    | nil => exact hrest
    | cons c piece ih =>
      obtain ⟨hc, hpiece⟩ := List.ne_and_not_mem_of_not_mem_cons hpiece
      have hcons := ih hpiece
      rw [splitAtChar] at hcons ⊢
      rw [List.cons_append, splitWhere, if_neg (by simpa using Ne.symm hc), hcons]
      rfl
  induction pieces with
  | nil => exact absurd rfl hne
  | cons piece rest ih =>
    have hpiece := h piece List.mem_cons_self
    cases rest with
    | nil =>
      have hsplit := happend piece [] [] [] hpiece rfl
      rw [List.append_nil] at hsplit
      rw [List.intercalate_singleton, hsplit]
    | cons next rest =>
      have hrest := ih (by simp) fun other hother => h other (List.mem_cons_of_mem _ hother)
      rw [List.intercalate_cons_cons, List.append_assoc, List.singleton_append]
      have hsep : splitAtChar sep (sep :: [sep].intercalate (next :: rest)) =
          [] :: next :: rest := by
        rw [splitAtChar, splitWhere, if_pos (by simp), ← splitAtChar, hrest]
      rw [happend piece _ [] _ hpiece hsep, List.append_nil]

/-- A text is cut behind whatever has no separator. -/
theorem cutAtChar_append_of_not_mem {sep : Char} {before : List Char} (h : sep ∉ before)
    (cs : List Char) : cutAtChar sep (before ++ cs) =
      (before ++ (cutAtChar sep cs).1, (cutAtChar sep cs).2) := by
  induction before with
  | nil => rfl
  | cons c before ih =>
    obtain ⟨hc, hbefore⟩ := List.ne_and_not_mem_of_not_mem_cons h
    rw [List.cons_append, cutAtChar, if_neg (Ne.symm hc), ih hbefore]
    rfl

/-- A text is cut at the first separator. -/
theorem cutAtChar_append {sep : Char} {before : List Char} (h : sep ∉ before)
    (after : List Char) : cutAtChar sep (before ++ sep :: after) = (before, some after) := by
  rw [cutAtChar_append_of_not_mem h, cutAtChar, if_pos rfl, List.append_nil]

/-- A text without the separator is not cut. -/
theorem cutAtChar_of_not_mem {sep : Char} {cs : List Char} (h : sep ∉ cs) :
    cutAtChar sep cs = (cs, none) := by
  have hcut := cutAtChar_append_of_not_mem h []
  rwa [List.append_nil, cutAtChar, List.append_nil] at hcut

/-- **What stands before the first separator has none**, and what stands behind it is
the rest. -/
theorem of_cutAtChar (sep : Char) (cs : List Char) :
    sep ∉ (cutAtChar sep cs).1 ∧ cs = (cutAtChar sep cs).1 ++
      match (cutAtChar sep cs).2 with
      | some after => sep :: after
      | none => [] := by
  induction cs with
  | nil => exact ⟨List.not_mem_nil, rfl⟩
  | cons c cs ih =>
    obtain ⟨hbefore, hcs⟩ := ih
    rw [cutAtChar]
    split
    · next hc => exact ⟨List.not_mem_nil, by rw [hc]; rfl⟩
    · next hc =>
      refine ⟨List.not_mem_cons_of_ne_of_not_mem (Ne.symm hc) hbefore, ?_⟩
      exact congrArg (c :: ·) hcs

/-- What was not cut is whole. -/
theorem fst_cutAtChar {sep : Char} {cs : List Char} (h : (cutAtChar sep cs).2 = none) :
    (cutAtChar sep cs).1 = cs := by
  have hcs := (of_cutAtChar sep cs).2
  rw [h, List.append_nil] at hcs
  exact hcs.symm

end Text

namespace Http

/-! ## Percent coding -/

namespace Percent

theorem hexValue?_upperHexDigit {n : Nat} (h : n < 16) :
    Text.hexValue? (Text.upperHexDigit n) = some n := by
  have hall : ∀ n < 16, Text.hexValue? (Text.upperHexDigit n) = some n := by decide
  exact hall n h

/-- A byte is read back from its coding. -/
theorem bytes_encodeByte_append (b : UInt8) (rest : List Char) :
    bytes (encodeByte b ++ rest) = b :: bytes rest := by
  have hb : b.toNat < 256 := UInt8.toNat_lt b
  have hvalue : b.toNat / 16 * 16 + b.toNat % 16 = b.toNat := by omega
  rw [encodeByte]
  have hhigh : Text.hexValue? (Text.upperHexDigit (b.toNat / 16)) = some (b.toNat / 16) :=
    hexValue?_upperHexDigit (by omega)
  have hlow : Text.hexValue? (Text.upperHexDigit (b.toNat % 16)) = some (b.toNat % 16) :=
    hexValue?_upperHexDigit (by omega)
  simp only [List.cons_append, List.nil_append, bytes, hhigh, hlow, hvalue]
  rw [UInt8.ofNat_toNat]

/-- **A character in percent coding stands for its bytes.** -/
theorem bytes_encodeChar_append (c : Char) (rest : List Char) :
    bytes (encodeChar c ++ rest) = Text.Utf8.encode [c] ++ bytes rest := by
  have hall : ∀ bs : List UInt8, bytes (bs.flatMap encodeByte ++ rest) = bs ++ bytes rest := by
    intro bs
    induction bs with
    | nil => rfl
    | cons b bs ih =>
      rw [List.flatMap_cons, List.append_assoc, bytes_encodeByte_append, ih, List.cons_append]
  exact hall _

/-- A character that stands for itself stands for its bytes. -/
theorem bytes_cons {c : Char} (h : c ≠ '%') (rest : List Char) :
    bytes (c :: rest) = Text.Utf8.encode [c] ++ bytes rest := by
  rw [bytes]
  rintro high low others rfl
  exact absurd rfl h

/-- What is safe is written as it is. -/
theorem encode_eq_self {safe : Char → Bool} {cs : List Char} (h : ∀ c ∈ cs, safe c = true) :
    encode safe cs = cs := by
  rw [encode]
  induction cs with
  | nil => rfl
  | cons c cs ih =>
    rw [List.flatMap_cons, if_pos (h c List.mem_cons_self),
      ih fun d hd => h d (List.mem_cons_of_mem _ hd), List.singleton_append]

/-- Percent coding takes three characters for each byte. -/
theorem three_le_length_encodeChar (c : Char) : 3 ≤ (encodeChar c).length := by
  have hbytes : 1 ≤ (Text.Utf8.encode [c]).length := by
    rw [Text.Utf8.encode, List.flatMap_singleton, String.length_utf8EncodeChar]
    exact Char.utf8Size_pos c
  have hbyte : ∀ b : UInt8, (encodeByte b).length = 3 := fun _ => rfl
  rw [encodeChar, List.length_flatMap]
  simp only [hbyte, List.map_const', List.sum_replicate_nat]
  omega

/-- The digits of a byte in percent coding. -/
theorem isAlphanum_upperHexDigit {n : Nat} (h : n < 16) :
    (Text.upperHexDigit n).isAlphanum = true := by
  have hall : ∀ n < 16, (Text.upperHexDigit n).isAlphanum = true := by decide
  exact hall n h

/-- The characters of percent coding. -/
theorem of_mem_encodeChar {c d : Char} (h : d ∈ encodeChar c) : d = '%' ∨ d.isAlphanum = true := by
  obtain ⟨b, -, hd⟩ := List.mem_flatMap.1 h
  have hb : b.toNat < 256 := UInt8.toNat_lt b
  simp only [encodeByte, List.mem_cons, List.not_mem_nil, or_false] at hd
  rcases hd with rfl | rfl | rfl
  · exact .inl rfl
  · exact .inr (isAlphanum_upperHexDigit (by omega))
  · exact .inr (isAlphanum_upperHexDigit (by omega))

end Percent

/-! ## Form coding -/

namespace Form

/-- The characters of form coding. -/
theorem of_mem_encodeText {s : String} {d : Char} (h : d ∈ encodeText s) :
    isPlain d = true ∨ d = '+' ∨ d = '%' := by
  obtain ⟨c, -, hd⟩ := List.mem_flatMap.1 h
  split at hd
  · next hplain =>
    cases List.mem_singleton.1 hd
    exact .inl hplain
  · split at hd
    · exact .inr (.inl (List.mem_singleton.1 hd))
    · rcases Percent.of_mem_encodeChar hd with hpercent | halphanum
      · exact .inr (.inr hpercent)
      · exact .inl (by simp [isPlain, halphanum])

/-- The characters that form coding puts between texts do not stand in them. -/
theorem not_mem_encodeText {sep : Char} (hsep : sep = '&' ∨ sep = '=') (s : String) :
    sep ∉ encodeText s := by
  intro h
  have hcases := of_mem_encodeText h
  rcases hsep with rfl | rfl <;> revert hcases <;> decide

/-- **A text is read back from its coding.** -/
theorem decodeText_encodeText (s : String) : decodeText (encodeText s) = s := by
  have hbytes : ∀ cs : List Char,
      Percent.bytes ((cs.flatMap fun c => if isPlain c then [c] else if c = ' ' then ['+']
        else Percent.encodeChar c).map fun c => if c = '+' then ' ' else c) =
      Text.Utf8.encode cs := by
    intro cs
    induction cs with
    | nil => rfl
    | cons c cs ih =>
      have hcons : Text.Utf8.encode (c :: cs) = Text.Utf8.encode [c] ++ Text.Utf8.encode cs := by
        rw [Text.Utf8.encode, Text.Utf8.encode, Text.Utf8.encode, List.flatMap_cons,
          List.flatMap_singleton]
      rw [List.flatMap_cons, List.map_append, hcons, ← ih]
      split
      · next hplain =>
        have hpercent : c ≠ '%' := by
          rintro rfl
          revert hplain
          decide
        have hplus : c ≠ '+' := by
          rintro rfl
          revert hplain
          decide
        rw [List.map_singleton, if_neg hplus, List.singleton_append, Percent.bytes_cons hpercent]
      · split
        · next hspace =>
          subst hspace
          exact Percent.bytes_cons (by decide) _
        · -- no character of percent coding is read as a space
          have hsame : (Percent.encodeChar c).map (fun d => if d = '+' then ' ' else d) =
              Percent.encodeChar c := by
            rw [List.map_congr_left, List.map_id]
            intro d hd
            have hplus : d ≠ '+' := by
              rintro rfl
              have hcases := Percent.of_mem_encodeChar hd
              revert hcases
              decide
            exact if_neg hplus
          rw [hsame, Percent.bytes_encodeChar_append]
  rw [decodeText, Percent.decode, encodeText, hbytes, Text.Utf8.decodeLossy_encode,
    String.ofList_toList]

/-- A named value is read back from its coding. -/
theorem decodePair_encodePair (pair : String × String) : decodePair (encodePair pair) = pair := by
  rw [decodePair, encodePair, Text.cutAtChar_append (not_mem_encodeText (.inr rfl) pair.1)]
  dsimp only
  rw [decodeText_encodeText, Option.getD_some, decodeText_encodeText]

/-- **Named values are read back from their coding.** -/
theorem decode_encode (pairs : List (String × String)) : decode (encode pairs) = pairs := by
  cases pairs with
  | nil => rfl
  | cons pair rest =>
    have hsep : ∀ piece ∈ (pair :: rest).map encodePair, '&' ∉ piece := by
      intro piece hpiece
      obtain ⟨other, -, rfl⟩ := List.mem_map.1 hpiece
      rw [encodePair, List.mem_append, List.mem_cons]
      rintro (hname | hmark | hvalue)
      · exact not_mem_encodeText (.inl rfl) _ hname
      · revert hmark
        decide
      · exact not_mem_encodeText (.inl rfl) _ hvalue
    have hnonempty : ∀ piece ∈ (pair :: rest).map encodePair, (!piece.isEmpty) = true := by
      intro piece hpiece
      obtain ⟨other, -, rfl⟩ := List.mem_map.1 hpiece
      simp [encodePair]
    rw [decode, encode, Text.splitAtChar_intercalate (by simp) hsep,
      List.filter_eq_self.2 hnonempty, List.map_map, List.map_congr_left, List.map_id]
    exact fun other _ => decodePair_encodePair other

/-- Named values follow each other with an ampersand between. -/
theorem encode_cons_cons (pair next : String × String) (rest : List (String × String)) :
    encode (pair :: next :: rest) = encodePair pair ++ '&' :: encode (next :: rest) := by
  rw [encode, List.map_cons, List.map_cons, List.intercalate_cons_cons, List.append_assoc,
    List.singleton_append]
  rfl

/-- A text is no longer than its coding. -/
theorem length_le_encodeText (s : String) : s.length ≤ (encodeText s).length := by
  have hone : ∀ c : Char, 1 ≤ (if isPlain c then [c] else if c = ' ' then ['+']
      else Percent.encodeChar c).length := by
    intro c
    split
    · exact Nat.le_refl 1
    · split
      · exact Nat.le_refl 1
      · exact Nat.le_trans (by decide) (Percent.three_le_length_encodeChar c)
  rw [← String.length_toList, encodeText]
  induction s.toList with
  | nil => exact Nat.le_refl 0
  | cons c cs ih =>
    rw [List.length_cons, List.flatMap_cons, List.length_append]
    have hc := hone c
    omega

/-- A value is no longer than the coding of the named values that it is
among. -/
theorem length_le_encode {pairs : List (String × String)} {pair : String × String}
    (h : pair ∈ pairs) : pair.2.length ≤ (encode pairs).length := by
  have hpair : ∀ pair : String × String, pair.2.length ≤ (encodePair pair).length := by
    intro pair
    have htext := length_le_encodeText pair.2
    rw [encodePair, List.length_append, List.length_cons]
    omega
  induction pairs with
  | nil => cases h
  | cons first rest ih =>
    cases rest with
    | nil =>
      cases List.mem_singleton.1 h
      rw [encode, List.map_singleton, List.intercalate_singleton]
      exact hpair pair
    | cons next rest =>
      rw [encode_cons_cons, List.length_append, List.length_cons]
      rcases List.mem_cons.1 h with rfl | hrest
      · have hfirst := hpair pair
        omega
      · have hothers := ih hrest
        omega

/-- A character that stands for itself in form coding does so in a query. -/
theorem isQueryChar_of_isPlain {c : Char} (h : isPlain c = true) : Url.isQueryChar c = true := by
  have hascii : c.toNat < 0x80 := by
    have hcases := h
    simp only [isPlain, Bool.or_eq_true, decide_eq_true_eq] at hcases
    rcases hcases with (((halphanum | rfl) | rfl) | rfl) | rfl
    · exact Text.lt_of_isAlphanum halphanum
    all_goals decide
  have hall : ∀ n < 0x80, isPlain (Char.ofNat n) = true →
      Url.isQueryChar (Char.ofNat n) = true := by decide
  exact Text.of_ascii (p := fun c => isPlain c = true → Url.isQueryChar c = true) hall hascii h

/-- **What form coding writes can stand in a query** as it is. -/
theorem isQueryChar_of_mem_encode {pairs : List (String × String)} {c : Char}
    (h : c ∈ encode pairs) : Url.isQueryChar c = true := by
  have htext : ∀ s : String, c ∈ encodeText s → Url.isQueryChar c = true := by
    intro s hs
    rcases of_mem_encodeText hs with hplain | rfl | rfl
    · exact isQueryChar_of_isPlain hplain
    · decide
    · decide
  have hpair : ∀ pair : String × String, c ∈ encodePair pair → Url.isQueryChar c = true := by
    intro pair hc
    rw [encodePair, List.mem_append, List.mem_cons] at hc
    rcases hc with hname | rfl | hvalue
    · exact htext _ hname
    · decide
    · exact htext _ hvalue
  induction pairs with
  | nil => cases h
  | cons pair rest ih =>
    cases rest with
    | nil =>
      rw [encode, List.map_singleton, List.intercalate_singleton] at h
      exact hpair pair h
    | cons next rest =>
      rw [encode_cons_cons, List.mem_append, List.mem_cons] at h
      rcases h with hfirst | rfl | hrest
      · exact hpair pair hfirst
      · decide
      · exact ih hrest

end Form

end Http

end Backlog
