/-!
# Parts of a text

Searching for a word and cutting a text at it, on lists of characters.
-/

namespace Backlog

namespace Text

/-- What follows `word` if the characters start with it. -/
def afterStart? : (word cs : List Char) → Option (List Char)
  | [], cs => some cs
  | _ :: _, [] => none
  | w :: word, c :: cs => if w = c then afterStart? word cs else none

/-- The characters before the first occurrence of `word` and those after
it. -/
def cutAt? (word : List Char) : List Char → Option (List Char × List Char)
  | [] => (afterStart? word []).map fun rest => ([], rest)
  | c :: cs =>
    match afterStart? word (c :: cs) with
    | some rest => some ([], rest)
    | none => (cutAt? word cs).map fun (before, after) => (c :: before, after)

/-- Whether `word` occurs in the characters. -/
def occursIn (word cs : List Char) : Bool := (cutAt? word cs).isSome

/-- The pieces between the characters with a property. -/
def splitWhere (isSep : Char → Bool) : List Char → List (List Char)
  | [] => [[]]
  | c :: cs =>
    if isSep c then [] :: splitWhere isSep cs
    else
      match splitWhere isSep cs with
      | [] => [[c]]
      | piece :: pieces => (c :: piece) :: pieces

/-- The pieces between the occurrences of a character. -/
def splitAtChar (sep : Char) (cs : List Char) : List (List Char) := splitWhere (· = sep) cs

/-- The characters before the first occurrence of `sep` and those after it,
which are missing when it does not occur. -/
def cutAtChar (sep : Char) : List Char → List Char × Option (List Char)
  | [] => ([], none)
  | c :: cs =>
    if c = sep then ([], some cs)
    else
      let (before, after) := cutAtChar sep cs
      (c :: before, after)

/-! ## Nothing is lost in a cut -/

theorem afterStart?_eq_some_iff {word cs rest : List Char} :
    afterStart? word cs = some rest ↔ cs = word ++ rest := by
  induction word generalizing cs with
  | nil => simp [afterStart?, eq_comm]
  | cons w word ih =>
    cases cs with
    | nil => simp [afterStart?]
    | cons c cs => by_cases h : w = c <;> simp [afterStart?, h, ih, eq_comm]

/-- **The two sides of a cut and the word between them are the text.** -/
theorem eq_append_of_cutAt? {word cs before after : List Char}
    (h : cutAt? word cs = some (before, after)) : cs = before ++ word ++ after := by
  induction cs generalizing before with
  | nil =>
    obtain ⟨rest, hr, he⟩ := Option.map_eq_some_iff.1 h
    obtain ⟨rfl, rfl⟩ := Prod.mk.inj he
    exact afterStart?_eq_some_iff.1 hr
  | cons c cs ih =>
    rw [cutAt?] at h
    split at h
    · next rest hr =>
      obtain ⟨rfl, rfl⟩ := Prod.mk.inj (Option.some.inj h)
      exact afterStart?_eq_some_iff.1 hr
    · obtain ⟨⟨start, rest⟩, hc, he⟩ := Option.map_eq_some_iff.1 h
      obtain ⟨rfl, rfl⟩ := Prod.mk.inj he
      simp [ih hc]

/-! ## Where a text is cut -/

/-- A text that starts with a word is cut there. -/
theorem cutAt?_self_append (word after : List Char) :
    cutAt? word (word ++ after) = some ([], after) := by
  have hstart : afterStart? word (word ++ after) = some after := afterStart?_eq_some_iff.2 rfl
  cases htext : word ++ after with
  | nil =>
    rw [htext] at hstart
    rw [cutAt?, hstart]
    rfl
  | cons c cs =>
    rw [htext] at hstart
    rw [cutAt?, hstart]

/-- **A text is cut at the first occurrence of a word.** -/
theorem cutAt?_append {word before : List Char} (after : List Char)
    (h : ∀ front back, before = front ++ back → back ≠ [] →
      afterStart? word (back ++ (word ++ after)) = none) :
    cutAt? word (before ++ (word ++ after)) = some (before, after) := by
  induction before with
  | nil => exact cutAt?_self_append word after
  | cons c before ih =>
    have hno := h [] (c :: before) rfl (List.cons_ne_nil _ _)
    have hrest := ih fun front back hsplit hne =>
      h (c :: front) back (congrArg (c :: ·) hsplit) hne
    rw [List.cons_append] at hno
    rw [List.cons_append, cutAt?, hno, hrest]
    rfl

/-- A word occurs in what it is a part of. -/
theorem occursIn_append (word before after : List Char) :
    occursIn word (before ++ (word ++ after)) = true := by
  induction before with
  | nil =>
    rw [List.nil_append, occursIn, cutAt?_self_append]
    rfl
  | cons c before ih =>
    rw [occursIn, Option.isSome_iff_exists] at ih
    obtain ⟨cut, hcut⟩ := ih
    rw [List.cons_append, occursIn, cutAt?]
    split
    · rfl
    · rw [hcut]
      rfl

/-- **A word occurs in a text of which it is a stretch**, and in no other. -/
theorem occursIn_iff_infix {word cs : List Char} : occursIn word cs = true ↔ word <:+: cs := by
  constructor
  · intro h
    obtain ⟨⟨before, after⟩, hcut⟩ := Option.isSome_iff_exists.1 h
    exact ⟨before, after, (eq_append_of_cutAt? hcut).symm⟩
  · rintro ⟨before, after, rfl⟩
    rw [List.append_assoc]
    exact occursIn_append word before after

/-- A text is not cut at a word when one of the word's characters is not in
it. -/
theorem cutAt?_eq_none {c : Char} {word cs : List Char} (hword : c ∈ word) (h : c ∉ cs) :
    cutAt? word cs = none := by
  cases hcut : cutAt? word cs with
  | none => rfl
  | some cut =>
    obtain ⟨before, after⟩ := cut
    rw [eq_append_of_cutAt? hcut] at h
    exact absurd (List.mem_append_left after (List.mem_append_right before hword)) h

end Text

end Backlog
