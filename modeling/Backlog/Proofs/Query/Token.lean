import Backlog.Text.Blank
import Mathlib.Data.List.Basic
/-!
# Reading a query as tokens

The reader of a query takes it apart at the blanks that lie outside double
quotes (`pieces`), and what is left between them are its tokens (`tokens`).
A double quote opens or closes and cannot be escaped. Whether a joined list
of texts is read as that list is decided text by text: each must be `Solid`,
with no blank outside its quotes, and each but the last must leave its
quotes closed. `tokens_intercalate_iff` says that this is enough and that
nothing less is.
-/

namespace Backlog

namespace Query

/-- The mark that opens and closes a quoted stretch. -/
def quote : Char := '"'

/-- Whether the reader is inside quotes after the characters. -/
def quotedAfter (quoted : Bool) (cs : List Char) : Bool :=
  cs.foldl (fun quoted c => quoted ^^ (c == quote)) quoted

/-- The pieces between the blanks outside quotes. -/
def pieces (quoted : Bool) : List Char → List (List Char)
  | [] => [[]]
  | c :: cs =>
    if !quoted && Text.isBlank c then [] :: pieces quoted cs
    else (pieces (quoted ^^ (c == quote)) cs).modifyHead (c :: ·)

/-- The tokens of a query. -/
def tokens (query : String) : List String :=
  ((pieces false query.toList).filter (· ≠ [])).map String.ofList

/-- No blank of the characters lies outside quotes. -/
def Solid (quoted : Bool) : List Char → Prop
  | [] => True
  | c :: cs => (quoted = false → Text.isBlank c = false) ∧ Solid (quoted ^^ (c == quote)) cs

instance Solid.decide : (quoted : Bool) → (cs : List Char) → Decidable (Solid quoted cs)
  | _, [] => .isTrue trivial
  | quoted, c :: cs =>
    have := Solid.decide (quoted ^^ (c == quote)) cs
    inferInstanceAs (Decidable (_ ∧ _))

/-- Each text is solid, and each but the last leaves its quotes closed. -/
def Separable (quoted : Bool) : List (List Char) → Prop
  | [] => True
  | [cs] => Solid quoted cs
  | cs :: next :: rest =>
    Solid quoted cs ∧ quotedAfter quoted cs = false ∧ Separable false (next :: rest)

/-! ## Texts in a row -/

variable {quoted : Bool} {cs : List Char} {texts : List (List Char)}

@[simp]
theorem quotedAfter_nil : quotedAfter quoted [] = quoted := rfl

@[simp]
theorem quotedAfter_cons (c : Char) :
    quotedAfter quoted (c :: cs) = quotedAfter (quoted ^^ (c == quote)) cs := rfl

theorem quotedAfter_append (before after : List Char) :
    quotedAfter quoted (before ++ after) = quotedAfter (quotedAfter quoted before) after :=
  List.foldl_append

theorem solid_append_iff {before after : List Char} :
    Solid quoted (before ++ after) ↔
      Solid quoted before ∧ Solid (quotedAfter quoted before) after := by
  induction before generalizing quoted with
  | nil => simp [Solid]
  | cons c before ih => simp [Solid, ih, and_assoc]

/-- Within quotes everything but a quote is solid and stays inside. -/
theorem solid_inside (h : quote ∉ cs) : Solid true cs ∧ quotedAfter true cs = true := by
  induction cs with
  | nil => exact ⟨trivial, rfl⟩
  | cons c cs ih =>
    have hc : (c == quote) = false := beq_false_of_ne fun heq => h (heq ▸ List.mem_cons_self)
    obtain ⟨hsolid, hafter⟩ := ih fun hmem => h (List.mem_cons_of_mem c hmem)
    simp [Solid, hc, hsolid, hafter]

/-- Without blanks everything is solid. -/
theorem solid_of_no_blank (h : cs.any Text.isBlank = false) : Solid quoted cs := by
  induction cs generalizing quoted with
  | nil => trivial
  | cons c cs ih =>
    rw [List.any_cons, Bool.or_eq_false_iff] at h
    exact ⟨fun _ => h.1, ih h.2⟩

/-- Outside quotes, what has no quote stays outside. -/
theorem quotedAfter_of_no_quote (h : quote ∉ cs) : quotedAfter quoted cs = quoted := by
  induction cs generalizing quoted with
  | nil => rfl
  | cons c cs ih =>
    have hc : (c == quote) = false := beq_false_of_ne fun heq => h (heq ▸ List.mem_cons_self)
    rw [quotedAfter_cons, hc, Bool.xor_false, ih fun hmem => h (List.mem_cons_of_mem c hmem)]

/-! ## Taking apart what was joined -/

/-- A solid text at the front is part of the first piece. -/
theorem pieces_append (h : Solid quoted cs) (rest : List Char) :
    pieces quoted (cs ++ rest) = (pieces (quotedAfter quoted cs) rest).modifyHead (cs ++ ·) := by
  induction cs generalizing quoted with
  | nil => exact (congrFun List.modifyHead_id _).symm
  | cons c cs ih =>
    have hblank : (!quoted && Text.isBlank c) = false := by
      cases quoted with
      | true => rfl
      | false => exact h.1 rfl
    rw [List.cons_append, pieces, hblank, if_neg Bool.false_ne_true, ih h.2, quotedAfter_cons,
      List.modifyHead_modifyHead]
    rfl

/-- A solid text is one piece. -/
theorem pieces_of_solid (h : Solid quoted cs) : pieces quoted cs = [cs] := by
  have hpieces := pieces_append h []
  rwa [List.append_nil, pieces, List.modifyHead_cons, List.append_nil] at hpieces

/-- A blank outside quotes ends a piece. -/
theorem pieces_append_blank (h : Solid quoted cs) (hclosed : quotedAfter quoted cs = false)
    (rest : List Char) : pieces quoted (cs ++ ' ' :: rest) = cs :: pieces false rest := by
  have hblank : (!false && Text.isBlank ' ') = true := by decide
  rw [pieces_append h, hclosed, pieces, hblank, if_pos rfl, List.modifyHead_cons, List.append_nil]

/-- Separable texts are read back. -/
theorem pieces_intercalate (hne : texts ≠ []) (h : Separable quoted texts) :
    pieces quoted ([' '].intercalate texts) = texts := by
  induction texts generalizing quoted with
  | nil => exact absurd rfl hne
  | cons cs texts ih =>
    cases texts with
    | nil => rw [List.intercalate_singleton, pieces_of_solid h]
    | cons next rest =>
      obtain ⟨hsolid, hclosed, hrest⟩ := h
      rw [List.intercalate_cons_cons, List.append_assoc, List.singleton_append,
        pieces_append_blank hsolid hclosed, ih (List.cons_ne_nil _ _) hrest]

/-! ## What is read is separable -/

/-- A character inside a piece keeps the pieces separable. -/
theorem separable_modifyHead {c : Char} (hc : quoted = false → Text.isBlank c = false)
    (h : Separable (quoted ^^ (c == quote)) texts) (hne : texts ≠ []) :
    Separable quoted (texts.modifyHead (c :: ·)) := by
  match texts, h with
  | [], _ => exact absurd rfl hne
  | [_], h => exact ⟨hc, h⟩
  | _ :: _ :: _, ⟨hsolid, hclosed, hrest⟩ => exact ⟨⟨hc, hsolid⟩, hclosed, hrest⟩

theorem pieces_ne_nil (quoted : Bool) (cs : List Char) : pieces quoted cs ≠ [] := by
  induction cs generalizing quoted with
  | nil => exact List.cons_ne_nil _ _
  | cons c cs ih =>
    rw [pieces]
    split
    · exact List.cons_ne_nil _ _
    · rw [Ne, List.modifyHead_eq_nil_iff]
      exact ih _

/-- **Whatever the characters, the pieces read are separable**: the reader
only cuts where it is outside quotes. -/
theorem separable_pieces (quoted : Bool) (cs : List Char) :
    Separable quoted (pieces quoted cs) := by
  induction cs generalizing quoted with
  | nil => trivial
  | cons c cs ih =>
    rw [pieces]
    split
    · -- a cut is made outside quotes only, and the empty piece before it leaves them closed
      next hcut =>
      rw [Bool.and_eq_true, Bool.not_eq_true'] at hcut
      obtain ⟨rfl, -⟩ := hcut
      obtain ⟨first, rest, hpieces⟩ := List.exists_cons_of_ne_nil (pieces_ne_nil false cs)
      have hrest := ih false
      rw [hpieces] at hrest ⊢
      exact ⟨trivial, rfl, hrest⟩
    · next hcut =>
      refine separable_modifyHead (fun hq => ?_) (ih _) (pieces_ne_nil _ _)
      cases hblank : Text.isBlank c with
      | false => rfl
      | true => exact absurd (by rw [hq, hblank]; rfl) hcut

/-- The texts behind the first one are separable. -/
theorem Separable.tail (h : Separable false (cs :: texts)) : Separable false texts := by
  cases texts with
  | nil => trivial
  | cons next rest => exact h.2.2

/-- Fewer texts are still separable. -/
theorem Separable.filter (keep : List Char → Bool) (h : Separable false texts) :
    Separable false (texts.filter keep) := by
  induction texts with
  | nil => trivial
  | cons cs texts ih =>
    rw [List.filter_cons]
    split
    · cases texts with
      | nil => exact h
      | cons next rest =>
        -- what follows a text that is kept need not be what followed it before
        have hrest := ih h.tail
        cases hkept : (next :: rest).filter keep with
        | nil => exact h.1
        | cons first others => exact ⟨h.1, h.2.1, hkept ▸ hrest⟩
    · exact ih h.tail

/-! ## The tokens of joined texts -/

/-- The characters of the tokens are the pieces that are not empty. -/
theorem map_toList_tokens (query : String) :
    (tokens query).map String.toList = (pieces false query.toList).filter (· ≠ []) := by
  rw [tokens, List.map_map]
  exact (List.map_congr_left fun _ _ => String.toList_ofList).trans (List.map_id _)

/-- **Texts joined by spaces are read back** exactly when each has no blank
outside its quotes and each but the last leaves its quotes closed. -/
theorem tokens_intercalate_iff {texts : List String} (hne : ∀ s ∈ texts, s ≠ "") :
    tokens (" ".intercalate texts) = texts ↔ Separable false (texts.map String.toList) := by
  constructor
  · intro h
    rw [← h, map_toList_tokens]
    exact (separable_pieces false _).filter _
  · intro h
    refine List.map_injective_iff.2 (fun _ _ => String.toList_inj.1) ?_
    rw [map_toList_tokens, String.toList_intercalate]
    by_cases hnil : texts = []
    · rw [hnil]
      rfl
    rw [show (" " : String).toList = [' '] from rfl,
      pieces_intercalate (List.map_eq_nil_iff.not.2 hnil) h]
    -- no text is empty, so that no piece is dropped
    refine List.filter_eq_self.2 fun cs hcs => ?_
    obtain ⟨s, hs, rfl⟩ := List.mem_map.1 hcs
    exact decide_eq_true (String.toList_eq_nil_iff.not.2 (hne s hs))

end Query

end Backlog
