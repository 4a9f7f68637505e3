import Backlog.Proofs.Json.Scalar
import Backlog.Proofs.Json.Text
import Backlog.Proofs.Table
/-!
# Values that are read as they were written

A value that is laid out over lines is read back: the atoms by their texts, a
list and an object element by element, past the white space between them
(`Json.ofChars_indented`). The reader bounds how long an integer and how deep a
value may be, and it reads every value that keeps within its bounds. Doubles are
left aside here, and so are texts in which the halves of a pair stand side by
side, which are read as the pair. The code points that halves are kept as
(`Text.halfOffset`) are assumed to stand for nothing else.
-/

namespace Backlog

namespace Value

/-! ## Values that JSON carries -/

/-- **A value that JSON carries exactly**: one of null, truth values, integers,
texts, lists and objects whose fields have different names. -/
inductive Portable : Value → Prop where
  | null : Portable .null
  | flag (b : Bool) : Portable (.bool b)
  | int (n : Int) : Portable (.int n)
  | text {s : String} (hs : Text.Unsplit s.toList) : Portable (.text s)
  | list {items : List Value} (hitems : ∀ item ∈ items, Portable item) : Portable (.list items)
  | object {fields : List (String × Value)} (hdistinct : Distinct (Table.keys fields))
      (hnames : ∀ field ∈ fields, Text.Unsplit field.1.toList)
      (hfields : ∀ field ∈ fields, Portable field.2) : Portable (.object fields)

/-- The largest measure among the atoms of a value and its empty parts, where
every list and object around it adds a step. -/
def largest (measure : Atom → Nat) (step : Nat) : Value → Nat
  | .atom a => measure a
  | .list items => ofItems items + step
  | .object fields => ofFields fields + step
where
  /-- The largest among the elements. -/
  ofItems : List Value → Nat
    | [] => 0
    | v :: rest => max (v.largest measure step) (ofItems rest)
  /-- The largest among the fields. -/
  ofFields : List (String × Value) → Nat
    | [] => 0
    | (_, v) :: rest => max (v.largest measure step) (ofFields rest)

/-- How deep lists and objects are nested in a value. -/
def depth (v : Value) : Nat := v.largest (fun _ => 0) 1

/-- How many digits an integer has; other atoms have none. -/
def digits : Atom → Nat
  | .num (.int n) => (Nat.toDigits 10 n.natAbs).length
  | _ => 0

/-- How many digits the longest integer in a value has. -/
def longestInteger (v : Value) : Nat := v.largest digits 0

section

variable {measure : Atom → Nat} {step bound : Nat}

/-- What bounds a list bounds its elements, by a step less. -/
theorem largest_add_le_of_mem {items : List Value}
    (h : (Value.list items).largest measure step ≤ bound) {item : Value} (hitem : item ∈ items) :
    item.largest measure step + step ≤ bound := by
  have hall : item.largest measure step ≤ largest.ofItems measure step items := by
    clear h
    induction items with
    | nil => cases hitem
    | cons v rest ih =>
      rw [largest.ofItems]
      rcases List.mem_cons.1 hitem with rfl | hitem
      · exact Nat.le_max_left ..
      · exact (ih hitem).trans (Nat.le_max_right ..)
  rw [largest] at h
  omega

/-- What bounds an object bounds the values of its fields, by a step less. -/
theorem largest_add_le_of_mem_fields {fields : List (String × Value)}
    (h : (Value.object fields).largest measure step ≤ bound) {field : String × Value}
    (hfield : field ∈ fields) : field.2.largest measure step + step ≤ bound := by
  have hall : field.2.largest measure step ≤ largest.ofFields measure step fields := by
    clear h
    induction fields with
    | nil => cases hfield
    | cons other rest ih =>
      rw [largest.ofFields]
      rcases List.mem_cons.1 hfield with rfl | hfield
      · exact Nat.le_max_left ..
      · exact (ih hfield).trans (Nat.le_max_right ..)
  rw [largest] at h
  omega

end

end Value

namespace Json

/-! ## White space -/

theorem skipSpace_cons {c : Char} (h : isSpace c = false) (cs : List Char) :
    skipSpace (c :: cs) = c :: cs := by
  rw [skipSpace, List.dropWhile_cons, h, if_neg Bool.false_ne_true]

theorem toList_lineStart (level : Nat) :
    (lineStart level).toList = '\n' :: List.replicate (2 * level) ' ' := String.toList_ofList

/-- The start of a line is white space. -/
theorem skipSpace_lineStart (level : Nat) (cs : List Char) :
    skipSpace ((lineStart level).toList ++ cs) = skipSpace cs := by
  have hall : ∀ c ∈ (lineStart level).toList, isSpace c = true := by
    intro c hc
    rw [toList_lineStart, List.mem_cons] at hc
    rcases hc with rfl | hc
    · rfl
    · rw [(List.mem_replicate.1 hc).2]
      rfl
  exact List.dropWhile_append_of_pos hall

theorem stops_lineStart (level : Nat) (cs : List Char) :
    Stops ((lineStart level).toList ++ cs) := by
  rw [toList_lineStart]
  exact stops_newline _

theorem toList_stringText (s : String) :
    (stringText s).toList = '"' :: s.toList.flatMap escapedChar ++ ['"'] := String.toList_ofList

/-! ## The characters of what is written -/

section

variable (level : Nat) (v w : Value) (items : List Value) (name : String)
variable (field : String × Value) (fields : List (String × Value))

theorem toList_atom (a : Atom) : (indentedAt level (.atom a)).toList = (atomText a).toList := by
  rw [indentedAt]

theorem toList_list_nil : (indentedAt level (.list [])).toList = ['[', ']'] := by
  rw [indentedAt]
  rfl

theorem toList_list_cons : (indentedAt level (.list (v :: items))).toList =
    '[' :: ((indentedItems (level + 1) (v :: items)).toList ++
      ((lineStart level).toList ++ [']'])) := by
  rw [indentedAt, String.toList_append, String.toList_append, String.toList_append,
    List.append_assoc, List.append_assoc]
  rfl

theorem toList_object_nil : (indentedAt level (.object [])).toList = ['\x7b', '\x7d'] := by
  rw [indentedAt]
  rfl

theorem toList_object_cons : (indentedAt level (.object (field :: fields))).toList =
    '\x7b' :: ((indentedFields (level + 1) (field :: fields)).toList ++
      ((lineStart level).toList ++ ['\x7d'])) := by
  rw [indentedAt, String.toList_append, String.toList_append, String.toList_append,
    List.append_assoc, List.append_assoc]
  rfl

theorem toList_items_singleton : (indentedItems level [v]).toList =
    (lineStart level).toList ++ (indentedAt level v).toList := by
  rw [indentedItems, String.toList_append]

theorem toList_items_cons : (indentedItems level (v :: w :: items)).toList =
    (lineStart level).toList ++ ((indentedAt level v).toList ++
      ',' :: (indentedItems level (w :: items)).toList) := by
  rw [indentedItems, String.toList_append, String.toList_append, String.toList_append,
    List.append_assoc, List.append_assoc]
  rfl

/-- The characters of the name of a field, and of what stands between it and the
value. -/
def nameChars (name : String) : List Char :=
  '"' :: (name.toList.flatMap escapedChar ++ ['"', ':', ' '])

theorem toList_fields_singleton : (indentedFields level [(name, v)]).toList =
    (lineStart level).toList ++ (nameChars name ++ (indentedAt level v).toList) := by
  simp only [indentedFields, String.toList_append, toList_stringText, nameChars, List.append_assoc,
    List.cons_append]
  rfl

theorem toList_fields_cons : (indentedFields level ((name, v) :: field :: fields)).toList =
    (lineStart level).toList ++ (nameChars name ++ ((indentedAt level v).toList ++
      ',' :: (indentedFields level (field :: fields)).toList)) := by
  simp only [indentedFields, String.toList_append, toList_stringText, nameChars, List.append_assoc,
    List.cons_append]
  rfl

end

/-- A text is not longer than what is written for it. -/
theorem length_le_flatMap_escapedChar (cs : List Char) :
    cs.length ≤ (cs.flatMap escapedChar).length := by
  induction cs with
  | nil => exact Nat.le_refl 0
  | cons c cs ih =>
    have hone := List.length_pos_iff.2 (escaped_escapedChar c).ne_nil
    rw [List.flatMap_cons, List.length_append, List.length_cons]
    omega

/-! ## Starts of values -/

/-- Whether characters start as a value does: not with white space, and not with
the end of a list. -/
def Begins (cs : List Char) : Prop :=
  ∃ c rest, cs = c :: rest ∧ isSpace c = false ∧ c ≠ ']'

theorem Begins.append {cs : List Char} (h : Begins cs) (others : List Char) :
    Begins (cs ++ others) := by
  obtain ⟨c, rest, rfl, hc⟩ := h
  exact ⟨c, rest ++ others, rfl, hc⟩

theorem Begins.skipSpace_eq {cs : List Char} (h : Begins cs) : skipSpace cs = cs := by
  obtain ⟨c, rest, rfl, hc, -⟩ := h
  exact skipSpace_cons hc rest

theorem begins_int (n : Int) : Begins (atomText (.num (.int n))).toList := by
  obtain ⟨c, cs, hcons, rfl | hc⟩ := exists_atomText_int_eq_cons n
  · exact ⟨'-', cs, hcons, rfl, by decide⟩
  · have hne : ∀ d : Char, d.isDigit = false → c ≠ d := fun d hd => ne_of_isDigit hc hd
    exact ⟨c, cs, hcons, by simp [isSpace, hne], hne ']' rfl⟩

/-- What is written for a value starts as a value. -/
theorem begins_indentedAt {v : Value} (h : v.Portable) (level : Nat) :
    Begins (indentedAt level v).toList := by
  cases h with
  | null =>
    rw [toList_atom]
    exact ⟨'n', ['u', 'l', 'l'], rfl, rfl, by decide⟩
  | flag b =>
    rw [toList_atom]
    cases b with
    | false => exact ⟨'f', ['a', 'l', 's', 'e'], rfl, rfl, by decide⟩
    | true => exact ⟨'t', ['r', 'u', 'e'], rfl, rfl, by decide⟩
  | int n =>
    rw [toList_atom]
    exact begins_int n
  | text hs =>
    rw [toList_atom]
    exact ⟨'"', _, toList_stringText _, rfl, by decide⟩
  | @list items hitems =>
    cases items with
    | nil => exact ⟨'[', _, toList_list_nil level, rfl, by decide⟩
    | cons v rest => exact ⟨'[', _, toList_list_cons level v rest, rfl, by decide⟩
  | @object fields hdistinct hnames hfields =>
    cases fields with
    | nil => exact ⟨'\x7b', _, toList_object_nil level, rfl, by decide⟩
    | cons field rest => exact ⟨'\x7b', _, toList_object_cons level field rest, rfl, by decide⟩

/-! ## Reading back -/

/-- Whether a value is read back from what is written for it, wherever a value
may end, by a reader whose bounds it keeps within. -/
def ReadsBack (maxDigits : Nat) (v : Value) : Prop :=
  ∀ ⦃depth fuel level : Nat⦄ ⦃rest : List Char⦄, v.depth ≤ depth →
    (indentedAt level v).toList.length ≤ fuel → Stops rest →
    value maxDigits fuel depth ((indentedAt level v).toList ++ rest) = .ok (v, rest)

section

variable {maxDigits : Nat}

/-- A word or an integer is read back. -/
theorem readsBack_scalar {a : Atom} {c : Char} {cs : List Char}
    (hcons : (atomText a).toList = c :: cs) (hquote : c ≠ '"') (hlist : c ≠ '[')
    (hobject : c ≠ '\x7b')
    (hscalar : ∀ rest, Stops rest →
      scalar? maxDigits ((atomText a).toList ++ rest) = some (a, rest)) :
    ReadsBack maxDigits (.atom a) := by
  intro depth fuel level rest hdepth hfuel hrest
  have hread := hscalar rest hrest
  rw [toList_atom, hcons] at hfuel
  rw [toList_atom, hcons, List.cons_append]
  rw [hcons, List.cons_append] at hread
  cases fuel with
  | zero => cases hfuel
  | succ fuel =>
    rw [value, hread]
    · rfl
    · exact fun others heq => hquote (List.cons.inj heq).1
    · exact fun others heq => hlist (List.cons.inj heq).1
    · exact fun others heq => hobject (List.cons.inj heq).1

theorem readsBack_text {s : String} (hs : Text.Unsplit s.toList) :
    ReadsBack maxDigits (.text s) := by
  intro depth fuel level rest hdepth hfuel hrest
  rw [toList_atom, atomText, toList_stringText] at hfuel ⊢
  have hlength := length_le_flatMap_escapedChar s.toList
  cases fuel with
  | zero => cases hfuel
  | succ fuel =>
    have hbody : s.toList.length < fuel := by
      simp only [List.length_append, List.length_cons, List.length_nil] at hfuel
      omega
    have hread := stringBody?_flatMap_escapedChar hs hbody rest
    rw [List.append_assoc, List.cons_append, List.singleton_append, value, hread]
    simp [orMalformed, bind, Except.bind, pure, Except.pure]

/-- **The elements of a list are read back.** -/
theorem items_indentedItems {items : List Value} (hne : items ≠ [])
    (hbegins : ∀ item ∈ items, ∀ level, Begins (indentedAt level item).toList)
    (hitems : ∀ item ∈ items, ReadsBack maxDigits item) {depth fuel level : Nat}
    (hdepth : ∀ item ∈ items, item.depth ≤ depth)
    (hfuel : (indentedItems level items).toList.length ≤ fuel) (outer : Nat) (rest : List Char) :
    Json.items maxDigits fuel depth (skipSpace ((indentedItems level items).toList ++
      ((lineStart outer).toList ++ ']' :: rest))) = .ok (items, rest) := by
  induction items generalizing fuel with
  | nil => exact absurd rfl hne
  | cons v others ih =>
    have hv := hitems v List.mem_cons_self
    have hdepthv := hdepth v List.mem_cons_self
    have hbeginsv := hbegins v List.mem_cons_self level
    have hline := congrArg List.length (toList_lineStart level)
    rw [List.length_cons] at hline
    cases others with
    | nil =>
      -- the list ends behind the last element
      rw [toList_items_singleton, List.length_append] at hfuel
      rw [toList_items_singleton, List.append_assoc, skipSpace_lineStart,
        (hbeginsv.append _).skipSpace_eq]
      obtain ⟨fuel, rfl⟩ : ∃ f, fuel = f + 1 := ⟨fuel - 1, by omega⟩
      have hclose : isSpace ']' = false := rfl
      rw [Json.items, hv hdepthv (by omega) (stops_lineStart _ _)]
      simp only [bind, Except.bind, skipSpace_lineStart, skipSpace_cons hclose]
      rfl
    | cons w others =>
      -- the reader goes on behind the comma, with less to read
      rw [toList_items_cons, List.length_append, List.length_append, List.length_cons] at hfuel
      rw [toList_items_cons, List.append_assoc, List.append_assoc, List.cons_append,
        skipSpace_lineStart, (hbeginsv.append _).skipSpace_eq]
      obtain ⟨fuel, rfl⟩ : ∃ f, fuel = f + 1 := ⟨fuel - 1, by omega⟩
      have hcomma : isSpace ',' = false := rfl
      have hshort : (indentedItems level (w :: others)).toList.length ≤ fuel := by omega
      have hrest := ih (List.cons_ne_nil _ _)
        (fun item hitem => hbegins item (List.mem_cons_of_mem _ hitem))
        (fun item hitem => hitems item (List.mem_cons_of_mem _ hitem))
        (fun item hitem => hdepth item (List.mem_cons_of_mem _ hitem)) hshort
      rw [Json.items, hv hdepthv (by omega) (stops_comma _)]
      simp only [bind, Except.bind, skipSpace_cons hcomma, hrest]
      rfl

/-- The name of a field is read, and what stands in front of the value. -/
theorem stringBody?_nameChars {name : String} (hname : Text.Unsplit name.toList) {fuel : Nat}
    (hfuel : (nameChars name).length ≤ fuel) (rest : List Char) :
    stringBody? fuel (name.toList.flatMap escapedChar ++ '"' :: ':' :: ' ' :: rest) =
      some (name.toList, ':' :: ' ' :: rest) := by
  refine stringBody?_flatMap_escapedChar hname ?_ _
  have hlength := length_le_flatMap_escapedChar name.toList
  simp only [nameChars, List.length_append, List.length_cons, List.length_nil] at hfuel
  omega

/-- **The fields of an object are read back.** -/
theorem fields_indentedFields {fields : List (String × Value)} (hne : fields ≠ [])
    (hnames : ∀ field ∈ fields, Text.Unsplit field.1.toList)
    (hbegins : ∀ field ∈ fields, ∀ level, Begins (indentedAt level field.2).toList)
    (hfields : ∀ field ∈ fields, ReadsBack maxDigits field.2) {depth fuel level : Nat}
    (hdepth : ∀ field ∈ fields, field.2.depth ≤ depth)
    (hfuel : (indentedFields level fields).toList.length ≤ fuel) (outer : Nat)
    (rest : List Char) :
    Json.fields maxDigits fuel depth (skipSpace ((indentedFields level fields).toList ++
      ((lineStart outer).toList ++ '\x7d' :: rest))) = .ok (fields, rest) := by
  induction fields generalizing fuel with
  | nil => exact absurd rfl hne
  | cons field others ih =>
    obtain ⟨name, v⟩ := field
    have hname : Text.Unsplit name.toList := hnames _ List.mem_cons_self
    have hv : ReadsBack maxDigits v := hfields _ List.mem_cons_self
    have hdepthv : v.depth ≤ depth := hdepth _ List.mem_cons_self
    have hbeginsv : Begins (indentedAt level v).toList := hbegins _ List.mem_cons_self level
    have hquote : isSpace '"' = false := rfl
    have hcolon : isSpace ':' = false := rfl
    have hblank : ∀ cs, skipSpace (' ' :: cs) = skipSpace cs := fun cs => rfl
    have hline := congrArg List.length (toList_lineStart level)
    rw [List.length_cons] at hline
    have hsplit : ∀ cs, nameChars name ++ cs =
        '"' :: (name.toList.flatMap escapedChar ++ '"' :: ':' :: ' ' :: cs) := by
      intro cs
      simp [nameChars]
    cases others with
    | nil =>
      rw [toList_fields_singleton, List.length_append, List.length_append] at hfuel
      rw [toList_fields_singleton, List.append_assoc, List.append_assoc, skipSpace_lineStart,
        hsplit, skipSpace_cons hquote]
      obtain ⟨fuel, rfl⟩ : ∃ f, fuel = f + 1 := ⟨fuel - 1, by omega⟩
      have hclose : isSpace '\x7d' = false := rfl
      have hlength : (indentedAt level v).toList.length ≤ fuel := by omega
      rw [Json.fields, stringBody?_nameChars hname (by omega)]
      simp only [bind, Except.bind, orMalformed, skipSpace_cons hcolon, hblank,
        (hbeginsv.append _).skipSpace_eq, hv hdepthv hlength (stops_lineStart _ _),
        skipSpace_lineStart, skipSpace_cons hclose, String.ofList_toList]
      rfl
    | cons next others =>
      rw [toList_fields_cons, List.length_append, List.length_append, List.length_append,
        List.length_cons] at hfuel
      rw [toList_fields_cons, List.append_assoc, List.append_assoc, List.append_assoc,
        List.cons_append, skipSpace_lineStart, hsplit, skipSpace_cons hquote]
      obtain ⟨fuel, rfl⟩ : ∃ f, fuel = f + 1 := ⟨fuel - 1, by omega⟩
      have hcomma : isSpace ',' = false := rfl
      have hshort : (indentedFields level (next :: others)).toList.length ≤ fuel := by omega
      have hrest := ih (List.cons_ne_nil _ _)
        (fun field hfield => hnames field (List.mem_cons_of_mem _ hfield))
        (fun field hfield => hbegins field (List.mem_cons_of_mem _ hfield))
        (fun field hfield => hfields field (List.mem_cons_of_mem _ hfield))
        (fun field hfield => hdepth field (List.mem_cons_of_mem _ hfield)) hshort
      have hlength : (indentedAt level v).toList.length ≤ fuel := by omega
      rw [Json.fields, stringBody?_nameChars hname (by omega)]
      simp only [bind, Except.bind, orMalformed, skipSpace_cons hcolon, hblank,
        (hbeginsv.append _).skipSpace_eq, hv hdepthv hlength (stops_comma _),
        skipSpace_cons hcomma, hrest, String.ofList_toList]
      rfl

/-- Elements start with the first of them, on a line of its own. -/
theorem exists_toList_items (level : Nat) (v : Value) (others : List Value) :
    ∃ tail, (indentedItems level (v :: others)).toList =
      (lineStart level).toList ++ ((indentedAt level v).toList ++ tail) := by
  cases others with
  | nil => exact ⟨[], by rw [toList_items_singleton, List.append_nil]⟩
  | cons w others => exact ⟨_, toList_items_cons level v w others⟩

/-- Fields start with the name of the first of them, on a line of its own. -/
theorem exists_toList_fields (level : Nat) (field : String × Value)
    (others : List (String × Value)) :
    ∃ tail, (indentedFields level (field :: others)).toList =
      (lineStart level).toList ++ '"' :: tail := by
  obtain ⟨name, v⟩ := field
  cases others with
  | nil => exact ⟨_, toList_fields_singleton level v name⟩
  | cons next others => exact ⟨_, toList_fields_cons level v name next others⟩

/-- A list that is not empty is read element by element. -/
theorem value_list {fuel depth : Nat} {cs : List Char}
    (h : ∀ others, skipSpace cs ≠ ']' :: others) :
    value maxDigits (fuel + 1) (depth + 1) ('[' :: cs) =
      (items maxDigits fuel depth (skipSpace cs)).map fun read => (.list read.1, read.2) := by
  simp only [value]

/-- An object that is not empty is read field by field. -/
theorem value_object {fuel depth : Nat} {cs : List Char}
    (h : ∀ others, skipSpace cs ≠ '\x7d' :: others) :
    value maxDigits (fuel + 1) (depth + 1) ('\x7b' :: cs) =
      (fields maxDigits fuel depth (skipSpace cs)).map fun read =>
        (.object (Table.ofList read.1), read.2) := by
  simp only [value]

/-- **A list is read back** when its elements are. -/
theorem readsBack_list {items : List Value}
    (hbegins : ∀ item ∈ items, ∀ level, Begins (indentedAt level item).toList)
    (hitems : ∀ item ∈ items, ReadsBack maxDigits item) : ReadsBack maxDigits (.list items) := by
  intro depth fuel level rest hdepth hfuel hrest
  obtain ⟨depth, rfl⟩ : ∃ d, depth = d + 1 :=
    ⟨depth - 1, by rw [Value.depth, Value.largest] at hdepth; omega⟩
  cases items with
  | nil =>
    rw [toList_list_nil] at hfuel
    rw [toList_list_nil]
    obtain ⟨fuel, rfl⟩ : ∃ f, fuel = f + 1 := ⟨fuel - 1, by simp at hfuel; omega⟩
    rfl
  | cons v others =>
    rw [toList_list_cons, List.length_cons, List.length_append] at hfuel
    rw [toList_list_cons, List.cons_append, List.append_assoc, List.append_assoc,
      List.singleton_append]
    obtain ⟨fuel, rfl⟩ : ∃ f, fuel = f + 1 := ⟨fuel - 1, by omega⟩
    have hinner : ∀ item ∈ v :: others, item.depth ≤ depth := fun item hitem =>
      Nat.le_of_succ_le_succ (Value.largest_add_le_of_mem hdepth hitem)
    have hshort : (indentedItems (level + 1) (v :: others)).toList.length ≤ fuel := by omega
    have hread := items_indentedItems (List.cons_ne_nil v others) hbegins hitems hinner hshort
      level rest
    rw [value_list, hread]
    · rfl
    · -- the elements do not start with the end of the list
      intro others' heq
      obtain ⟨tail, htail⟩ := exists_toList_items (level + 1) v others
      obtain ⟨c, cs, hcons, hspace, hend⟩ := hbegins v List.mem_cons_self (level + 1)
      rw [htail, hcons, List.append_assoc, skipSpace_lineStart, List.cons_append, List.cons_append,
        skipSpace_cons hspace] at heq
      exact hend (List.cons.inj heq).1

/-- **An object is read back** when the values of its fields are. -/
theorem readsBack_object {fields : List (String × Value)}
    (hdistinct : Distinct (Table.keys fields))
    (hnames : ∀ field ∈ fields, Text.Unsplit field.1.toList)
    (hbegins : ∀ field ∈ fields, ∀ level, Begins (indentedAt level field.2).toList)
    (hfields : ∀ field ∈ fields, ReadsBack maxDigits field.2) :
    ReadsBack maxDigits (.object fields) := by
  intro depth fuel level rest hdepth hfuel hrest
  obtain ⟨depth, rfl⟩ : ∃ d, depth = d + 1 :=
    ⟨depth - 1, by rw [Value.depth, Value.largest] at hdepth; omega⟩
  cases fields with
  | nil =>
    rw [toList_object_nil] at hfuel
    rw [toList_object_nil]
    obtain ⟨fuel, rfl⟩ : ∃ f, fuel = f + 1 := ⟨fuel - 1, by simp at hfuel; omega⟩
    rfl
  | cons field others =>
    rw [toList_object_cons, List.length_cons, List.length_append] at hfuel
    rw [toList_object_cons, List.cons_append, List.append_assoc, List.append_assoc,
      List.singleton_append]
    obtain ⟨fuel, rfl⟩ : ∃ f, fuel = f + 1 := ⟨fuel - 1, by omega⟩
    have hinner : ∀ other ∈ field :: others, other.2.depth ≤ depth := fun other hother =>
      Nat.le_of_succ_le_succ (Value.largest_add_le_of_mem_fields hdepth hother)
    have hshort : (indentedFields (level + 1) (field :: others)).toList.length ≤ fuel := by omega
    have hread := fields_indentedFields (List.cons_ne_nil field others) hnames hbegins hfields
      hinner hshort level rest
    rw [value_object, hread]
    · exact congrArg (fun fields => Except.ok (Value.object fields, rest))
        (Table.ofList_eq_self hdistinct)
    · -- the fields start with a quote
      intro others' heq
      obtain ⟨tail, htail⟩ := exists_toList_fields (level + 1) field others
      have hquote : isSpace '"' = false := rfl
      rw [htail, List.append_assoc, skipSpace_lineStart, List.cons_append,
        skipSpace_cons hquote] at heq
      exact absurd (List.cons.inj heq).1 (by decide)

/-- **A value that JSON carries is read back.** -/
theorem readsBack {v : Value} (h : v.Portable) (hdigits : v.longestInteger ≤ maxDigits) :
    ReadsBack maxDigits v := by
  induction h with
  | null =>
    exact readsBack_scalar (c := 'n') rfl (by decide) (by decide) (by decide) fun rest _ =>
      scalar?_null maxDigits rest
  | flag b =>
    cases b with
    | false =>
      exact readsBack_scalar (c := 'f') rfl (by decide) (by decide) (by decide) fun rest _ =>
        scalar?_flag maxDigits false rest
    | true =>
      exact readsBack_scalar (c := 't') rfl (by decide) (by decide) (by decide) fun rest _ =>
        scalar?_flag maxDigits true rest
  | int n =>
    obtain ⟨c, cs, hcons, hc⟩ := exists_atomText_int_eq_cons n
    have hne : ∀ d : Char, d ≠ '-' → d.isDigit = false → c ≠ d := by
      intro d hminus hd heq
      rcases hc with rfl | hc
      · exact hminus heq.symm
      · exact ne_of_isDigit hc hd heq
    exact readsBack_scalar hcons (hne _ (by decide) rfl) (hne _ (by decide) rfl)
      (hne _ (by decide) rfl) fun rest hrest => scalar?_int hdigits hrest
  | text hs => exact readsBack_text hs
  | list hitems ih =>
    exact readsBack_list (fun item hitem => begins_indentedAt (hitems item hitem))
      fun item hitem => ih item hitem (Value.largest_add_le_of_mem hdigits hitem)
  | object hdistinct hnames hfields ih =>
    exact readsBack_object hdistinct hnames
      (fun field hfield => begins_indentedAt (hfields field hfield))
      fun field hfield => ih field hfield (Value.largest_add_le_of_mem_fields hdigits hfield)

end

/-- **A value is read as it was written**, by every reader whose bounds it keeps
within. -/
theorem ofChars_indented {v : Value} (h : v.Portable) {maxDigits depth : Nat}
    (hdigits : v.longestInteger ≤ maxDigits) (hdepth : v.depth ≤ depth) :
    ofChars maxDigits depth (indented v).toList = .ok v := by
  have hlength : (indentedAt 0 v).toList.length ≤ 2 * (indented v).toList.length + 2 := by
    rw [← indented]
    omega
  have hread := readsBack h hdigits hdepth hlength stops_nil
  rw [List.append_nil, ← indented] at hread
  rw [ofChars, indented, (begins_indentedAt h 0).skipSpace_eq, ← indented, hread]
  rfl

end Json

end Backlog
