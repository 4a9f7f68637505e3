import Backlog.Proofs.Json.RoundTrip
import Backlog.Report
/-!
# The payload of a report can be read back

A report shows its data between two tags that stand on lines of their own. A
reader takes what stands between the first opening tag and the first closing one
behind it (`Report.block?`). No line of data that is laid out over lines starts
with a tag (`Json.untagged_indentedAt`), so what the reader takes is the data as
it was written, whatever is in it, and that is read back to the value
(`Report.payload_round_trip`). Two assumptions are made of the values: their texts
hold none of the code points that halves of pairs are kept as but for halves
(`Text.halfOffset`), and writing has no limit of its own to how many digits an
integer has and how deep lists and objects are nested.
-/

namespace Backlog

namespace Text

/-! ## A word on a line of its own -/

/-- A word that ends its line starts nowhere in a text without it, whatever
follows on the next line. -/
theorem afterStart?_eq_none_of_occursIn {word text : List Char} (hword : '\n' ∉ word)
    (htext : occursIn word text = false) {front back : List Char} (hsplit : text = front ++ back)
    (rest : List Char) :
    afterStart? (word ++ ['\n']) (back ++ '\n' :: rest) = none := by
  cases hstart : afterStart? (word ++ ['\n']) (back ++ '\n' :: rest) with
  | none => rfl
  | some behind =>
    have hoccurs : ∀ others, back ≠ word ++ others := by
      rintro others rfl
      rw [hsplit, occursIn_append] at htext
      cases htext
    have heq := afterStart?_eq_some_iff.1 hstart
    rw [List.append_assoc, List.singleton_append] at heq
    rcases List.append_eq_append_iff.1 heq with ⟨others, hword', hrest⟩ | ⟨others, hback, -⟩
    · cases others with
      | nil => exact absurd (by rw [hword', List.append_nil, List.append_nil]) (hoccurs [])
      | cons c others =>
        -- the word would go on behind the end of the line
        cases hrest
        exact absurd (hword' ▸ List.mem_append_right back List.mem_cons_self) hword
    · exact absurd hback (hoccurs others)

end Text

namespace Json

/-! ## Lines without tags -/

/-- Whether every line break is followed by something that opens no tag. -/
def Untagged (cs : List Char) : Prop :=
  ∀ front back, cs = front ++ '\n' :: back → ∃ c rest, back = c :: rest ∧ c ≠ '<'

theorem untagged_of_not_mem {cs : List Char} (h : '\n' ∉ cs) : Untagged cs := by
  rintro front back rfl
  exact absurd (List.mem_append_right front List.mem_cons_self) h

theorem Untagged.append {cs others : List Char} (h : Untagged cs) (h' : Untagged others) :
    Untagged (cs ++ others) := by
  intro front back heq
  rcases List.append_eq_append_iff.1 heq with ⟨middle, -, hothers⟩ | ⟨middle, hcs, hback⟩
  · exact h' middle back hothers
  · cases middle with
    | nil => exact h' [] back hback.symm
    | cons c middle =>
      cases hback
      obtain ⟨c, rest, rfl, hc⟩ := h front middle hcs
      exact ⟨c, rest ++ others, rfl, hc⟩

/-- The start of an inner line ends in a blank. -/
theorem untagged_lineStart_succ (level : Nat) : Untagged (lineStart (level + 1)).toList := by
  intro front back heq
  rw [toList_lineStart] at heq
  cases front with
  | nil =>
    cases heq
    exact ⟨' ', _, rfl, by decide⟩
  | cons c front =>
    have hmem : '\n' ∈ List.replicate (2 * (level + 1)) ' ' := by
      rw [(List.cons.inj heq).2]
      exact List.mem_append_right front List.mem_cons_self
    exact absurd (List.mem_replicate.1 hmem).2 (by decide)

/-- The start of a line with a closing bracket behind it. -/
theorem untagged_closing {c : Char} (htag : c ≠ '<') (hline : '\n' ≠ c) (level : Nat) :
    Untagged ((lineStart level).toList ++ [c]) := by
  have hc : Untagged [c] := untagged_of_not_mem (by simpa using hline)
  cases level with
  | succ level => exact (untagged_lineStart_succ level).append hc
  | zero =>
    intro front back heq
    cases front with
    | nil =>
      cases heq
      exact ⟨c, [], rfl, htag⟩
    | cons d front => exact hc front back (List.cons.inj heq).2

/-- What is written for a character has no line break. -/
theorem Escaped.newline_not_mem {c : Char} {cs : List Char} (h : Escaped c cs) : '\n' ∉ cs := by
  have hunit : ∀ {n}, n < 0x10000 → '\n' ∉ unitEscape n := by
    intro n hn hmem
    have hdigit : ∀ m, '\n' ≠ Nat.digitChar m := fun m => (Nat.digitChar_ne '\n' rfl).symm
    rw [unitEscape, Text.hexDigits_four hn] at hmem
    simp [hdigit] at hmem
  cases h with
  | plain hquote hslash hspace =>
    intro hmem
    cases List.mem_singleton.1 hmem
    exact absurd hspace (by decide)
  | @short e hshort hunit' =>
    intro hmem
    have he : '\n' = e := by simpa using hmem
    rw [← he] at hshort
    cases hshort
  | unit hcode => exact hunit hcode
  | pair hcode =>
    have := Text.toNat_lt_or_gt c
    intro hmem
    rcases List.mem_append.1 hmem with hmem | hmem
    · exact hunit (by omega) hmem
    · exact hunit (by omega) hmem

theorem newline_not_mem_escapedChar (c : Char) : '\n' ∉ escapedChar c :=
  (escaped_escapedChar c).newline_not_mem

/-- What is written for an atom stands on one line. -/
theorem newline_not_mem_atomText {a : Atom} (h : (Value.atom a).Portable) :
    '\n' ∉ (atomText a).toList := by
  cases h with
  | null => decide
  | flag b => cases b <;> decide
  | text hs =>
    rw [atomText, toList_stringText]
    simp [newline_not_mem_escapedChar]
  | int n =>
    have hdigits : '\n' ∉ Nat.toDigits 10 n.natAbs := fun hmem =>
      absurd (Decimal.isDigit_of_mem hmem) (by decide)
    rw [toList_atomText_int]
    split <;> simp [hdigits]

theorem untagged_nameChars (name : String) : Untagged (nameChars name) :=
  untagged_of_not_mem (by simp [nameChars, newline_not_mem_escapedChar])

theorem Untagged.comma {cs : List Char} (h : Untagged cs) : Untagged (',' :: cs) :=
  (untagged_of_not_mem (by decide) : Untagged [',']).append h

/-- The elements of a list open no tag when none of them does. -/
theorem untagged_indentedItems {items : List Value}
    (h : ∀ item ∈ items, ∀ level, Untagged (indentedAt level item).toList) (level : Nat) :
    Untagged (indentedItems (level + 1) items).toList := by
  have hline := untagged_lineStart_succ level
  induction items with
  | nil =>
    rw [indentedItems]
    exact untagged_of_not_mem (by decide)
  | cons v others ih =>
    have hv := h v List.mem_cons_self (level + 1)
    have hothers := ih fun item hitem => h item (List.mem_cons_of_mem v hitem)
    cases others with
    | nil =>
      rw [toList_items_singleton]
      exact hline.append hv
    | cons w others =>
      rw [toList_items_cons]
      exact hline.append (hv.append hothers.comma)

/-- The fields of an object open no tag when none of their values does. -/
theorem untagged_indentedFields {fields : List (String × Value)}
    (h : ∀ field ∈ fields, ∀ level, Untagged (indentedAt level field.2).toList) (level : Nat) :
    Untagged (indentedFields (level + 1) fields).toList := by
  have hline := untagged_lineStart_succ level
  induction fields with
  | nil =>
    rw [indentedFields]
    exact untagged_of_not_mem (by decide)
  | cons field others ih =>
    obtain ⟨name, v⟩ := field
    have hname := untagged_nameChars name
    have hv := h (name, v) List.mem_cons_self (level + 1)
    have hothers := ih fun field hfield => h field (List.mem_cons_of_mem (name, v) hfield)
    cases others with
    | nil =>
      rw [toList_fields_singleton]
      exact hline.append (hname.append hv)
    | cons next others =>
      rw [toList_fields_cons]
      exact hline.append (hname.append (hv.append hothers.comma))

/-- What opens no tag opens none between brackets on lines of their own. -/
theorem Untagged.enclosed {cs : List Char} (h : Untagged cs) {first last : Char}
    (hfirst : '\n' ≠ first) (htag : last ≠ '<') (hlast : '\n' ≠ last) (level : Nat) :
    Untagged (first :: (cs ++ ((lineStart level).toList ++ [last]))) :=
  (untagged_of_not_mem (by simpa using hfirst) : Untagged [first]).append
    (h.append (untagged_closing htag hlast level))

/-- **No line of what is written starts with a tag.** -/
theorem untagged_indentedAt {v : Value} (h : v.Portable) (level : Nat) :
    Untagged (indentedAt level v).toList := by
  have hatom : ∀ {a : Atom}, (Value.atom a).Portable → ∀ level,
      Untagged (indentedAt level (.atom a)).toList := fun ha level => by
    rw [toList_atom]
    exact untagged_of_not_mem (newline_not_mem_atomText ha)
  induction h generalizing level with
  | null => exact hatom .null level
  | flag b => exact hatom (.flag b) level
  | int n => exact hatom (.int n) level
  | text hs => exact hatom (.text hs) level
  | @list items hitems ih =>
    cases items with
    | nil =>
      rw [toList_list_nil]
      exact untagged_of_not_mem (by decide)
    | cons v others =>
      rw [toList_list_cons]
      exact (untagged_indentedItems ih level).enclosed (by decide) (by decide) (by decide) level
  | @object fields hdistinct hnames hfields ih =>
    cases fields with
    | nil =>
      rw [toList_object_nil]
      exact untagged_of_not_mem (by decide)
    | cons field others =>
      rw [toList_object_cons]
      exact (untagged_indentedFields ih level).enclosed (by decide) (by decide) (by decide) level

end Json

namespace Report

/-! ## The block of a report -/

/-- The line that opens the block. -/
def opening : List Char := "<json>\n".toList

/-- The line that closes the block. -/
def closing : List Char := "\n</json>".toList

/-- **What a reader takes from a report**: the text between the first opening tag
and the first closing one behind it. -/
def block? (report : String) : Option String := do
  let (_, behind) ← Text.cutAt? opening report.toList
  let (block, _) ← Text.cutAt? closing behind
  pure (String.ofList block)

/-- No tag opens before the data when none stands in the message. -/
theorem cutAt?_opening {message : List Char} (h : Text.occursIn "<json>".toList message = false)
    (behind : List Char) :
    Text.cutAt? opening ((message ++ ['\n', '\n']) ++ (opening ++ behind)) =
      some (message ++ ['\n', '\n'], behind) := by
  have hopening : opening = "<json>".toList ++ ['\n'] := rfl
  refine Text.cutAt?_append behind fun front back hsplit hne => ?_
  rcases List.append_eq_append_iff.1 hsplit with ⟨others, -, hlines⟩ | ⟨others, hmessage, hback⟩
  · -- the empty line in front of the block starts with no tag
    have hmem : ∀ c ∈ back, c = '\n' := fun c hc => by
      have hc' : c ∈ ['\n', '\n'] := hlines ▸ List.mem_append_right others hc
      simpa using hc'
    obtain ⟨c, back, rfl⟩ := List.exists_cons_of_ne_nil hne
    rw [hmem c List.mem_cons_self]
    rfl
  · rw [hback, List.append_assoc, hopening]
    exact Text.afterStart?_eq_none_of_occursIn (by decide) h hmessage _

/-- No tag closes the block before the end of the data. -/
theorem cutAt?_closing {block : List Char} (h : Json.Untagged block) (behind : List Char) :
    Text.cutAt? closing (block ++ (closing ++ behind)) = some (block, behind) := by
  refine Text.cutAt?_append behind fun front back hsplit hne => ?_
  obtain ⟨c, back, rfl⟩ := List.exists_cons_of_ne_nil hne
  by_cases hline : c = '\n'
  · -- the tag would go on with what opens one
    subst hline
    obtain ⟨d, rest, rfl, hd⟩ := h front back hsplit
    exact (if_pos rfl).trans (if_neg hd.symm)
  · exact if_neg (Ne.symm hline)

/-- Joined parts start with the first of them. -/
theorem exists_intercalate_cons (separator part : String) (others : List String) :
    ∃ rest, separator.intercalate (part :: others) = part ++ rest := by
  cases others with
  | nil => exact ⟨"", by rw [String.intercalate_singleton, String.append_empty]⟩
  | cons next others => exact ⟨_, by rw [String.intercalate_cons_cons, String.append_assoc]⟩

/-- A report with data, as its message, the block and the rest. -/
theorem toList_render {v : Value} (hv : v.isNull = false) (message : String) (token : Value) :
    ∃ rest, (render message v token).toList = (message.toList ++ ['\n', '\n']) ++
      (opening ++ ((Json.indented v).toList ++ (closing ++ rest))) := by
  have hdata : dataPart v = ["<json>\n" ++ Json.indented v ++ "\n</json>"] := by
    rw [dataPart, hv]
    rfl
  obtain ⟨rest, hrest⟩ := exists_intercalate_cons "\n\n"
    ("<json>\n" ++ Json.indented v ++ "\n</json>") (tokenPart token)
  refine ⟨rest.toList, ?_⟩
  have hparts : render message v token =
      message ++ "\n\n" ++ ("<json>\n" ++ Json.indented v ++ "\n</json>" ++ rest) := by
    rw [render, hdata, ← hrest]
    exact String.intercalate_cons_cons
  rw [hparts]
  simp only [String.toList_append, List.append_assoc]
  rfl

/-- **The block of a report is the data as it is written.** -/
theorem block?_render {v : Value} (hv : v.Portable) (hnull : v.isNull = false) {message : String}
    (hmessage : Text.occursIn "<json>".toList message.toList = false) (token : Value) :
    block? (render message v token) = some (Json.indented v) := by
  obtain ⟨rest, hreport⟩ := toList_render hnull message token
  rw [block?, hreport, cutAt?_opening hmessage]
  have hblock := cutAt?_closing (Json.untagged_indentedAt hv 0) rest
  rw [← Json.indented] at hblock
  simp only [Option.bind_eq_bind, Option.bind_some, hblock, String.ofList_toList]
  rfl

/-- **The data of a report can be read back.** Whatever the message before it and
the token behind it, what stands between the first opening tag and the first
closing one behind it is read as the value that was put in, by every reader that
allows its depth and the length of its integers, which are assumed to be within what
can be written. -/
theorem payload_round_trip {v : Value} (hv : v.Portable) (hnull : v.isNull = false)
    {message : String} (hmessage : Text.occursIn "<json>".toList message.toList = false)
    (token : Value) : ∃ block, block? (render message v token) = some block ∧
      ∀ {maxDigits maxDepth}, v.longestInteger ≤ maxDigits → v.depth ≤ maxDepth →
        Json.ofChars maxDigits maxDepth block.toList = .ok v :=
  ⟨Json.indented v, block?_render hv hnull hmessage token, Json.ofChars_indented hv⟩

/-- A value with a text that looks like the end of a block and the start of
another, and with what else is written in a way of its own. -/
def hardValue : Value :=
  .object [("note", .text "a\n</json>\n\n<json>\n\"\\\x00😀"), ("", .list []),
    ("nested", .list [.null, .bool true, .int (-30), .object []])]

theorem portable_hardValue : hardValue.Portable := by
  have htext : Text.Unsplit "a\n</json>\n\n<json>\n\"\\\x00😀".toList :=
    Text.unsplit_of_hasHalf (by decide)
  have hnested : (Value.list [.null, .bool true, .int (-30), .object []]).Portable := by
    refine .list fun item hitem => ?_
    simp only [List.mem_cons, List.not_mem_nil, or_false] at hitem
    rcases hitem with rfl | rfl | rfl | rfl
    · exact .null
    · exact .flag true
    · exact .int (-30)
    · exact .object (by decide) (by simp) (by simp)
  refine .object (by decide) ?_ ?_
  · intro field hfield
    simp only [List.mem_cons, List.not_mem_nil, or_false] at hfield
    rcases hfield with rfl | rfl | rfl <;> exact Text.unsplit_of_hasHalf (by decide)
  · intro field hfield
    simp only [List.mem_cons, List.not_mem_nil, or_false] at hfield
    rcases hfield with rfl | rfl | rfl
    · exact .text htext
    · exact .list (by simp)
    · exact hnested

/-- A text that looks like the end of the block does not end it. -/
theorem reads_hardValue_back :
    ∃ block, block? (render "Story:" hardValue (.text "next")) = some block ∧
      Json.ofChars Json.maxIntegerDigits Json.maxDepth block.toList = .ok hardValue := by
  have hmessage : Text.occursIn "<json>".toList "Story:".toList = false := by decide
  obtain ⟨block, hblock, hread⟩ := payload_round_trip portable_hardValue rfl hmessage (.text "next")
  exact ⟨block, hblock, hread (by decide) (by decide)⟩

end Report

end Backlog
