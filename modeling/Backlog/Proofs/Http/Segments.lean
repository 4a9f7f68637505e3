import Backlog.Http.Url
import Backlog.Proofs.Http.Coding
/-!
# The segments of a path

A path is its segments with slashes between them. Where no segment is `.` or `..`
(`Url.Dotless`), taking dot segments away leaves the path as it is
(`Url.withoutDots_eq_self`), and a path from which they were taken away has none
(`Url.dotless_withoutDots`). It never becomes longer by that
(`Url.length_withoutDots_le`).
-/

namespace Backlog

namespace Text

variable {sep : Char}

/-- Pieces behind pieces have a separator between them. -/
theorem intercalate_append {pieces others : List (List Char)} (h : pieces ≠ [])
    (hothers : others ≠ []) :
    [sep].intercalate (pieces ++ others) =
      [sep].intercalate pieces ++ sep :: [sep].intercalate others := by
  induction pieces with
  | nil => exact absurd rfl h
  | cons piece rest ih =>
    cases rest with
    | nil =>
      obtain ⟨next, others, rfl⟩ := List.exists_cons_of_ne_nil hothers
      simp [List.intercalate_cons_cons]
    | cons next rest =>
      have hrest := ih (List.cons_ne_nil _ _)
      rw [List.cons_append, List.cons_append, List.intercalate_cons_cons, ← List.cons_append,
        hrest, List.intercalate_cons_cons]
      simp

theorem splitAtChar_ne_nil (sep : Char) (cs : List Char) : splitAtChar sep cs ≠ [] := by
  cases cs with
  | nil => exact List.cons_ne_nil _ _
  | cons c cs =>
    rw [splitAtChar, splitWhere]
    split
    · exact List.cons_ne_nil _ _
    · split <;> exact List.cons_ne_nil _ _

/-- **The pieces of a text, with separators between them, are the text**, and no
separator stands in a piece. -/
theorem of_splitAtChar (sep : Char) (cs : List Char) :
    [sep].intercalate (splitAtChar sep cs) = cs ∧ ∀ piece ∈ splitAtChar sep cs, sep ∉ piece := by
  induction cs with
  | nil => exact ⟨rfl, by simp [splitAtChar, splitWhere]⟩
  | cons c cs ih =>
    obtain ⟨hcs, hpieces⟩ := ih
    obtain ⟨first, rest, hsplit⟩ := List.exists_cons_of_ne_nil (splitAtChar_ne_nil sep cs)
    rw [hsplit] at hcs hpieces
    obtain ⟨hfirst, hrest⟩ := List.forall_mem_cons.1 hpieces
    by_cases hc : c = sep
    · have hcons : splitAtChar sep (c :: cs) = [] :: first :: rest := by
        rw [splitAtChar, splitWhere, if_pos (by simpa using hc), ← splitAtChar, hsplit]
      rw [hcons, List.intercalate_cons_cons, hcs, hc]
      exact ⟨rfl, List.forall_mem_cons.2 ⟨List.not_mem_nil, hpieces⟩⟩
    · have hcons : splitAtChar sep (c :: cs) = (c :: first) :: rest := by
        rw [splitAtChar, splitWhere, if_neg (by simpa using hc), ← splitAtChar, hsplit]
      rw [hcons]
      refine ⟨?_, List.forall_mem_cons.2 ⟨?_, hrest⟩⟩
      · rw [← hcs]
        cases rest with
        | nil => simp
        | cons next rest => simp [List.intercalate_cons_cons]
      · exact List.not_mem_cons_of_ne_of_not_mem (Ne.symm hc) hfirst

/-- **The pieces of two texts with a separator between them** are those of the one and
those of the other. -/
theorem splitAtChar_append_cons (cs others : List Char) :
    splitAtChar sep (cs ++ sep :: others) = splitAtChar sep cs ++ splitAtChar sep others := by
  obtain ⟨hcs, hpieces⟩ := of_splitAtChar sep cs
  obtain ⟨hothers, hpieces'⟩ := of_splitAtChar sep others
  have hsplit := splitAtChar_intercalate
    (List.append_ne_nil_of_left_ne_nil (splitAtChar_ne_nil sep cs) (splitAtChar sep others))
    fun piece hmem => (List.mem_append.1 hmem).elim (hpieces piece) (hpieces' piece)
  rw [intercalate_append (splitAtChar_ne_nil sep cs) (splitAtChar_ne_nil sep others), hcs,
    hothers] at hsplit
  exact hsplit

/-- The characters of pieces with separators between them. -/
theorem of_mem_intercalate {c : Char} {pieces : List (List Char)}
    (h : c ∈ [sep].intercalate pieces) : c = sep ∨ ∃ piece ∈ pieces, c ∈ piece := by
  induction pieces with
  | nil => exact absurd h List.not_mem_nil
  | cons piece rest ih =>
    cases rest with
    | nil => exact .inr ⟨piece, List.mem_cons_self, by simpa using h⟩
    | cons next rest =>
      rw [List.intercalate_cons_cons, List.mem_append, List.mem_append,
        List.mem_singleton] at h
      rcases h with (hpiece | hsep) | hrest
      · exact .inr ⟨piece, List.mem_cons_self, hpiece⟩
      · exact .inl hsep
      · exact (ih hrest).imp_right fun ⟨other, hother, hc⟩ =>
          ⟨other, List.mem_cons_of_mem _ hother, hc⟩

theorem mem_intercalate_of_mem {c : Char} {piece : List Char} {pieces : List (List Char)}
    (hpiece : piece ∈ pieces) (hc : c ∈ piece) : c ∈ [sep].intercalate pieces := by
  induction pieces with
  | nil => exact absurd hpiece List.not_mem_nil
  | cons first rest ih =>
    cases rest with
    | nil =>
      rw [List.intercalate_singleton]
      exact List.mem_singleton.1 hpiece ▸ hc
    | cons next rest =>
      rw [List.intercalate_cons_cons]
      rcases List.mem_cons.1 hpiece with rfl | hrest
      · exact List.mem_append_left _ (List.mem_append_left _ hc)
      · exact List.mem_append_right _ (ih hrest)

/-- A text without a separator is one piece. -/
theorem splitAtChar_of_not_mem {cs : List Char} (h : sep ∉ cs) : splitAtChar sep cs = [cs] := by
  have hsplit := splitAtChar_intercalate (List.cons_ne_nil cs [])
    fun piece hmem => (List.mem_singleton.1 hmem).symm ▸ h
  rwa [List.intercalate_singleton] at hsplit

end Text

namespace Http

namespace Percent

variable {safe : Char → Bool}

/-- The characters of percent coding. -/
theorem of_mem_encode {cs : List Char} {d : Char} (h : d ∈ encode safe cs) :
    (d ∈ cs ∧ safe d = true) ∨ d = '%' ∨ d.isAlphanum = true := by
  obtain ⟨c, hc, hd⟩ := List.mem_flatMap.1 h
  split at hd
  · next hsafe =>
    cases List.mem_singleton.1 hd
    exact .inl ⟨hc, hsafe⟩
  · exact .inr (of_mem_encodeChar hd)

theorem encode_append (cs others : List Char) :
    encode safe (cs ++ others) = encode safe cs ++ encode safe others := List.flatMap_append

/-- What stands between pieces stays between them. -/
theorem encode_intercalate {sep : Char} (hsep : safe sep = true) (pieces : List (List Char)) :
    encode safe ([sep].intercalate pieces) = [sep].intercalate (pieces.map (encode safe)) := by
  induction pieces with
  | nil => rfl
  | cons piece rest ih =>
    cases rest with
    | nil => simp
    | cons next rest =>
      rw [List.intercalate_cons_cons, encode_append, encode_append, ih, List.map_cons,
        List.map_cons, List.map_cons, List.intercalate_cons_cons]
      have hself : encode safe [sep] = [sep] :=
        encode_eq_self fun c hc => (List.mem_singleton.1 hc).symm ▸ hsep
      rw [hself]

/-- Where there is nothing in percent coding, nothing was put in it. -/
theorem eq_of_encode_eq {cs others : List Char} (h : encode safe cs = others)
    (hothers : '%' ∉ others) : cs = others := by
  rw [← h]
  refine (encode_eq_self fun c hc => Bool.of_not_eq_false fun hno => ?_).symm
  refine hothers (h ▸ List.mem_flatMap.2 ⟨c, hc, ?_⟩)
  rw [hno, if_neg Bool.false_ne_true, encodeChar]
  cases hbytes : Text.Utf8.encode [c] with
  | nil =>
    have hlength := three_le_length_encodeChar c
    rw [encodeChar, hbytes] at hlength
    simp at hlength
  | cons b bs =>
    rw [List.flatMap_cons, encodeByte]
    exact List.mem_cons_self

/-- **The fewer characters are safe, the longer the coding**: it is longer if a
character that is in the text stops being safe. -/
theorem length_encode_le {stricter : Char → Bool}
    (h : ∀ c, stricter c = true → safe c = true) (cs : List Char) :
    (encode safe cs).length ≤ (encode stricter cs).length ∧
      ∀ c ∈ cs, safe c = true → stricter c = false →
        (encode safe cs).length < (encode stricter cs).length := by
  induction cs with
  | nil => exact ⟨Nat.le_refl _, fun c hc => absurd hc List.not_mem_nil⟩
  | cons first cs ih =>
    obtain ⟨hle, hlt⟩ := ih
    have hthree := three_le_length_encodeChar first
    rw [← List.singleton_append, encode_append, encode_append, List.length_append,
      List.length_append]
    have hfirst : (encode safe [first]).length ≤ (encode stricter [first]).length ∧
        (safe first = true → stricter first = false →
          (encode safe [first]).length < (encode stricter [first]).length) := by
      simp only [encode, List.flatMap_singleton]
      cases hsafe : safe first <;> cases hstricter : stricter first
      · exact ⟨Nat.le_refl _, fun hno => by cases hno⟩
      · rw [h first hstricter] at hsafe
        cases hsafe
      · exact ⟨by simp; omega, fun _ _ => by simp; omega⟩
      · exact ⟨by simp, fun _ hno => by cases hno⟩
    refine ⟨by omega, fun c hc hsafe hstricter => ?_⟩
    rcases List.mem_cons.1 hc with rfl | hc
    · have hmore := hfirst.2 hsafe hstricter
      omega
    · have hmore := hlt c hc hsafe hstricter
      omega

end Percent

namespace Url

/-! ## Dot segments -/

/-- Whether a segment is one of dots, which is taken away. -/
def IsDots (segment : List Char) : Prop := segment = ['.'] ∨ segment = ['.', '.']

/-- Whether no segment of a path is one of dots. -/
def Dotless (path : List Char) : Prop := ∀ segment ∈ Text.splitAtChar '/' path, ¬ IsDots segment

variable {segments : List (List Char)} {segment path : List Char}

theorem pushSegment_of_not_isDots (h : ¬ IsDots segment) (segments : List (List Char)) :
    pushSegment segments segment = segments ++ [segment] := by
  rw [pushSegment, if_neg fun hone => h (.inl hone), if_neg fun htwo => h (.inr htwo)]

/-- What a segment of dots takes away. -/
theorem pushSegment_of_isDots (h : IsDots segment) (segments : List (List Char)) :
    pushSegment segments segment = segments ∨ pushSegment segments segment = segments.dropLast := by
  rcases h with rfl | rfl
  · exact .inl rfl
  · by_cases htop : segments = [] ∨ segments = [[]]
    · exact .inl (if_pos htop)
    · exact .inr (if_neg htop)

/-- Segments that are not of dots are all kept. -/
theorem foldl_pushSegment (h : ∀ segment ∈ segments, ¬ IsDots segment)
    (before : List (List Char)) : segments.foldl pushSegment before = before ++ segments := by
  induction segments generalizing before with
  | nil => rw [List.foldl_nil, List.append_nil]
  | cons segment rest ih =>
    obtain ⟨hsegment, hrest⟩ := List.forall_mem_cons.1 h
    rw [List.foldl_cons, pushSegment_of_not_isDots hsegment, ih hrest, List.append_assoc,
      List.singleton_append]

/-- Which segments are kept: some of those that are not of dots. -/
theorem of_mem_foldl_pushSegment {before : List (List Char)}
    (h : segment ∈ segments.foldl pushSegment before) :
    segment ∈ before ∨ segment ∈ segments ∧ ¬ IsDots segment := by
  induction segments generalizing before with
  | nil => exact .inl h
  | cons first rest ih =>
    rcases ih h with hbefore | ⟨hrest, hplain⟩
    · by_cases hdots : IsDots first
      · rcases pushSegment_of_isDots hdots before with hsame | hdropped
        · exact .inl (hsame ▸ hbefore)
        · rw [hdropped] at hbefore
          exact .inl ((List.dropLast_sublist _).subset hbefore)
      · rw [pushSegment_of_not_isDots hdots] at hbefore
        rcases List.mem_append.1 hbefore with hbefore | hfirst
        · exact .inl hbefore
        · rw [List.mem_singleton.1 hfirst]
          exact .inr ⟨List.mem_cons_self, hdots⟩
    · exact .inr ⟨List.mem_cons_of_mem _ hrest, hplain⟩

/-- **A path without dot segments stays as it is.** -/
theorem withoutDots_eq_self (h : Dotless path) : withoutDots path = path := by
  rw [withoutDots, foldl_pushSegment h, List.nil_append]
  exact (Text.of_splitAtChar '/' path).1

/-- **What dot segments were taken from has none.** -/
theorem dotless_withoutDots (path : List Char) : Dotless (withoutDots path) := by
  have hkept : ∀ segment ∈ (Text.splitAtChar '/' path).foldl pushSegment [],
      '/' ∉ segment ∧ ¬ IsDots segment := by
    intro segment hmem
    obtain ⟨hsplit, hplain⟩ :=
      (of_mem_foldl_pushSegment hmem).resolve_left List.not_mem_nil
    exact ⟨(Text.of_splitAtChar '/' path).2 segment hsplit, hplain⟩
  rw [Dotless, withoutDots]
  by_cases hnone : (Text.splitAtChar '/' path).foldl pushSegment [] = []
  · rw [hnone]
    rintro segment hmem (rfl | rfl) <;> revert hmem <;> decide
  · rw [Text.splitAtChar_intercalate hnone fun segment hmem => (hkept segment hmem).1]
    exact fun segment hmem => (hkept segment hmem).2

theorem dotless_append_cons_iff {path other : List Char} :
    Dotless (path ++ '/' :: other) ↔ Dotless path ∧ Dotless other := by
  rw [Dotless, Text.splitAtChar_append_cons, List.forall_mem_append, Dotless, Dotless]

/-- A path of one segment. -/
theorem dotless_of_not_mem (h : '/' ∉ path) (hdots : ¬ IsDots path) : Dotless path := by
  rw [Dotless, Text.splitAtChar_of_not_mem h]
  intro segment hmem
  rwa [List.mem_singleton.1 hmem]

/-- Percent coding makes no segment one of dots. -/
theorem isDots_of_encode {safe : Char → Bool} (h : IsDots (Percent.encode safe segment)) :
    IsDots segment := by
  rcases h with hone | htwo
  · exact .inl (Percent.eq_of_encode_eq hone (by decide))
  · exact .inr (Percent.eq_of_encode_eq htwo (by decide))

/-- No slash comes from percent coding. -/
theorem not_mem_encode {safe : Char → Bool} (h : '/' ∉ segment) :
    '/' ∉ Percent.encode safe segment := by
  intro hmem
  rcases Percent.of_mem_encode hmem with ⟨hsegment, -⟩ | hpercent | halphanum
  · exact h hsegment
  · cases hpercent
  · revert halphanum
    decide

theorem dotless_encode (h : Dotless path) : Dotless (Percent.encode isPathChar path) := by
  obtain ⟨hpath, hsegments⟩ := Text.of_splitAtChar '/' path
  have hsplit : Text.splitAtChar '/' (Percent.encode isPathChar path) =
      (Text.splitAtChar '/' path).map (Percent.encode isPathChar) := by
    have hcoded : ∀ piece ∈ (Text.splitAtChar '/' path).map (Percent.encode isPathChar),
        '/' ∉ piece := by
      intro piece hmem
      obtain ⟨segment, hsegment, rfl⟩ := List.mem_map.1 hmem
      exact not_mem_encode (hsegments segment hsegment)
    have hpieces := Text.splitAtChar_intercalate
      (fun hnone => Text.splitAtChar_ne_nil '/' path (List.map_eq_nil_iff.1 hnone)) hcoded
    rwa [← Percent.encode_intercalate (by decide), hpath] at hpieces
  rw [Dotless, hsplit]
  intro segment hmem hdots
  obtain ⟨plain, hplain, rfl⟩ := List.mem_map.1 hmem
  exact h plain hplain (isDots_of_encode hdots)

/-- What is left of a path without dot segments are characters of the path. -/
theorem of_mem_withoutDots {c : Char} (h : c ∈ withoutDots path) : c = '/' ∨ c ∈ path := by
  refine (Text.of_mem_intercalate h).imp_right fun ⟨segment, hmem, hc⟩ => ?_
  obtain ⟨hsegment, -⟩ := (of_mem_foldl_pushSegment hmem).resolve_left List.not_mem_nil
  rw [← (Text.of_splitAtChar '/' path).1]
  exact Text.mem_intercalate_of_mem hsegment hc

/-! ## Length -/

/-- How long segments are, with a slash behind each. -/
def totalLength : List (List Char) → Nat
  | [] => 0
  | segment :: rest => segment.length + 1 + totalLength rest

@[simp] theorem totalLength_nil : totalLength [] = 0 := rfl

@[simp] theorem totalLength_cons (segment : List Char) (rest : List (List Char)) :
    totalLength (segment :: rest) = segment.length + 1 + totalLength rest := rfl

theorem totalLength_append (segments others : List (List Char)) :
    totalLength (segments ++ others) = totalLength segments + totalLength others := by
  induction segments with
  | nil => simp
  | cons segment rest ih => simp [ih, Nat.add_assoc]

/-- Between segments stands one slash less. -/
theorem length_intercalate (h : segments ≠ []) :
    (['/'].intercalate segments).length + 1 = totalLength segments := by
  induction segments with
  | nil => exact absurd rfl h
  | cons segment rest ih =>
    cases rest with
    | nil => simp
    | cons next rest =>
      have hrest := ih (List.cons_ne_nil _ _)
      rw [List.intercalate_cons_cons, List.length_append, List.length_append,
        List.length_singleton, totalLength_cons]
      omega

theorem length_intercalate_le {bound : Nat} (h : totalLength segments ≤ bound + 1) :
    (['/'].intercalate segments).length ≤ bound := by
  by_cases hnone : segments = []
  · rw [hnone]
    exact Nat.zero_le bound
  · have hlength := length_intercalate hnone
    omega

theorem totalLength_splitAtChar (path : List Char) :
    totalLength (Text.splitAtChar '/' path) = path.length + 1 := by
  rw [← length_intercalate (Text.splitAtChar_ne_nil '/' path), (Text.of_splitAtChar '/' path).1]

theorem totalLength_pushSegment (segments : List (List Char)) (segment : List Char) :
    totalLength (pushSegment segments segment) ≤ totalLength segments + (segment.length + 1) ∧
      (IsDots segment → totalLength (pushSegment segments segment) ≤ totalLength segments) := by
  have hdropped : totalLength segments.dropLast ≤ totalLength segments := by
    rcases segments.eq_nil_or_concat with rfl | ⟨front, last, rfl⟩
    · exact Nat.le_refl _
    · rw [List.concat_eq_append, List.dropLast_concat, totalLength_append]
      exact Nat.le_add_right _ _
  by_cases hdots : IsDots segment
  · have hle : totalLength (pushSegment segments segment) ≤ totalLength segments := by
      rcases pushSegment_of_isDots hdots segments with hsame | hdrop
      · exact Nat.le_of_eq (congrArg totalLength hsame)
      · rwa [hdrop]
    exact ⟨by omega, fun _ => hle⟩
  · rw [pushSegment_of_not_isDots hdots, totalLength_append]
    exact ⟨by simp, fun hno => absurd hno hdots⟩

/-- Taking dot segments away leaves no more than there is. -/
theorem totalLength_foldl_pushSegment (segments before : List (List Char)) :
    totalLength (segments.foldl pushSegment before) ≤
      totalLength before + totalLength segments := by
  induction segments generalizing before with
  | nil => exact Nat.le_refl _
  | cons segment rest ih =>
    have hfirst := (totalLength_pushSegment before segment).1
    have hrest := ih (pushSegment before segment)
    rw [List.foldl_cons, totalLength_cons]
    omega

/-- **A path becomes no longer** when dot segments are taken away. -/
theorem length_withoutDots_le (path : List Char) : (withoutDots path).length ≤ path.length := by
  refine length_intercalate_le ?_
  rw [← totalLength_splitAtChar]
  exact Nat.le_trans (totalLength_foldl_pushSegment _ []) (Nat.le_of_eq (Nat.zero_add _))

/-- A segment of dots at the end leaves no more than what stands before it. -/
theorem length_withoutDots_of_isDots (h : IsDots segment) (path : List Char) :
    (withoutDots (path ++ '/' :: segment)).length ≤ path.length := by
  have hplain : '/' ∉ segment := by
    rcases h with rfl | rfl <;> decide
  refine length_intercalate_le ?_
  rw [Text.splitAtChar_append_cons, Text.splitAtChar_of_not_mem hplain, List.foldl_append,
    ← totalLength_splitAtChar]
  refine Nat.le_trans ((totalLength_pushSegment _ segment).2 h) ?_
  exact Nat.le_trans (totalLength_foldl_pushSegment _ []) (Nat.le_of_eq (Nat.zero_add _))

end Url

end Http

end Backlog
