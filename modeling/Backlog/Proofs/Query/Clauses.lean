import Backlog.Proofs.Query.Plain
import Backlog.Proofs.Shape
import Backlog.Proofs.Table
/-!
# Clauses of a query

A query is one clause for each field that has a parameter, and each clause
is the query of its parameter alone (`compileAlone_eq_ok_iff`). Whether the
reader of the query sees these clauses and no others is another matter: a
value is put in quotes when it holds a blank, but the quotes that it holds
itself are left as they are, and the id of a team is never quoted. The
clauses are read back exactly when they are separable, and they are when no
text shown in them holds a quote (`compile_tokens`); a value with quotes can
end its own clause and start others (`quotes_split_a_clause`).
-/

namespace Backlog

namespace Query

section Clauses

variable {fields : Fields} {params : Table String Value} {negated : List String}
  {user teamIds : Value}

/-! ## One clause for each parameter -/

/-- The fields that have a parameter. -/
def given (fields : Fields) (params : Table String Value) : Fields :=
  fields.filter fun (name, _) => !isAbsent (Value.fieldOf params name)

/-- The query of the parameter of one field alone. -/
def compileAlone (fields : Fields) (params : Table String Value) (negated : List String)
    (user teamIds : Value) (name : String) : Except Fault String :=
  compile fields [(name, Value.fieldOf params name)] negated user teamIds

theorem given_cons (name : String) (field : Field) (rest : Fields) :
    given ((name, field) :: rest) params =
      if isAbsent (Value.fieldOf params name) then given rest params
      else (name, field) :: given rest params := by
  rw [given, List.filter_cons]
  cases habsent : isAbsent (Value.fieldOf params name) <;> simp [habsent, given]

/-- The clauses are made one by one from the fields that have a parameter. -/
theorem clauses_eq_mapM :
    clauses params negated user teamIds fields =
      (given fields params).mapM fun entry =>
        clause entry.2 (Value.fieldOf params entry.1) (negated.contains entry.1) user teamIds := by
  induction fields with
  | nil => rfl
  | cons entry rest ih =>
    obtain ⟨name, field⟩ := entry
    rw [clauses, given_cons]
    split
    · exact ih
    · rw [List.mapM_cons, ih]

/-- A query is its clauses with spaces between. -/
theorem compile_eq_ok_iff {query : String} :
    compile fields params negated user teamIds = .ok query ↔
      ∃ texts, (given fields params).mapM (fun entry =>
          clause entry.2 (Value.fieldOf params entry.1) (negated.contains entry.1) user teamIds) =
            .ok texts ∧
        query = " ".intercalate texts := by
  rw [compile, Except.bind_eq_ok, clauses_eq_mapM]
  refine exists_congr fun texts => and_congr_right fun _ => ⟨?_, ?_⟩
  · rintro ⟨⟩
    rfl
  · rintro rfl
    rfl

/-- With one parameter alone, one field has a parameter. -/
theorem given_alone (hnames : Distinct fields.keys) {name : String} {field : Field}
    (hgiven : (name, field) ∈ given fields params) :
    given fields [(name, Value.fieldOf params name)] = [(name, field)] := by
  obtain ⟨hmem, hpresent⟩ := List.mem_filter.1 hgiven
  rw [← Table.filter_key_of_mem hnames hmem, given]
  refine List.filter_congr fun entry _ => ?_
  have hread : Value.fieldOf [(name, Value.fieldOf params name)] entry.1 =
      if name == entry.1 then Value.fieldOf params name else .null := by
    rw [Value.fieldOf, Table.get?]
    split <;> rfl
  show (!isAbsent (Value.fieldOf [(name, Value.fieldOf params name)] entry.1)) = (name == entry.1)
  rw [hread]
  cases name == entry.1 with
  | true => exact hpresent
  | false => rfl

/-- **Of one parameter alone the query is one clause**, the one that it has in
every other query. -/
theorem compileAlone_eq_ok_iff (hnames : Distinct fields.keys) {name : String} {field : Field}
    (hgiven : (name, field) ∈ given fields params) {text : String} :
    compileAlone fields params negated user teamIds name = .ok text ↔
      clause field (Value.fieldOf params name) (negated.contains name) user teamIds =
        .ok text := by
  have hread : Value.fieldOf [(name, Value.fieldOf params name)] name =
      Value.fieldOf params name := by
    rw [Value.fieldOf, Table.get?, if_pos BEq.rfl]
    rfl
  rw [compileAlone, compile_eq_ok_iff, given_alone hnames hgiven]
  simp only [Except.mapM_eq_ok_iff, List.forall₂_cons_left_iff, List.forall₂_nil_left_iff, hread]
  constructor
  · rintro ⟨_, ⟨shown, _, hshown, rfl, rfl⟩, rfl⟩
    exact hshown
  · intro h
    exact ⟨[text], ⟨text, [], h, rfl, rfl⟩, String.intercalate_singleton.symm⟩

/-- The clauses of a query are the queries of its parameters alone, one by
one. -/
theorem forall₂_compileAlone (hnames : Distinct fields.keys) {texts : List String}
    (htexts : (given fields params).mapM (fun entry =>
      clause entry.2 (Value.fieldOf params entry.1) (negated.contains entry.1) user teamIds) =
        .ok texts) :
    (given fields params).keys.Forall₂ (fun name text =>
      compileAlone fields params negated user teamIds name = .ok text) texts := by
  rw [Table.keys, List.forall₂_map_left_iff]
  have hgiven := (List.forall₂_and_left _ _).2
    ⟨fun entry hgiven => hgiven, Except.mapM_eq_ok_iff.1 htexts⟩
  exact hgiven.imp fun entry text h => (compileAlone_eq_ok_iff hnames h.1).2 h.2

/-! ## What a clause is made of -/

/-- Whether a clause shows the value of its parameter as a text. -/
def ClauseKind.showsText : ClauseKind → Bool
  | .value | .user | .team => true
  | .flag | .date => false

/-- What stands in a clause behind its sign. -/
inductive Body (field : Field) (v user teamIds : Value) : String → Prop
  /-- A predicate. -/
  | flag : Body field v user teamIds field.operator
  /-- A date expression that passed its check. -/
  | date {raw expression : String} (h : Date.validate raw = .ok expression) :
      Body field v user teamIds (field.operator ++ ":" ++ expression)
  /-- The value of the parameter. -/
  | value (h : field.kind.showsText = true) :
      Body field v user teamIds (field.operator ++ ":" ++ clauseValue v)
  /-- The name of the current user. -/
  | mention {name : Value} (h : mentionName user = .ok name) :
      Body field v user teamIds (field.operator ++ ":" ++ clauseValue name)
  /-- The id of a team. -/
  | group {label : String} {id : Value} (h : teamIds.field label = .ok id) :
      Body field v user teamIds ("group:" ++ id.display)

/-- The user of a clause is the value itself or the name of the current
user. -/
theorem eq_of_resolvedUser {v w : Value} (h : resolvedUser user v = .ok w) :
    w = v ∨ mentionName user = .ok w := by
  rw [resolvedUser] at h
  split at h
  · obtain ⟨name, hname, h⟩ := Except.bind_eq_ok.1 h
    rw [Value.orElse] at h
    cases h
    split
    · exact .inr hname
    · exact .inl rfl
  · cases h
    exact .inl rfl

/-- A clause is a sign and a body. -/
theorem clause_body {field : Field} {v : Value} {inverted : Bool} {text : String}
    (h : clause field v inverted user teamIds = .ok text) :
    ∃ sign body, text = negation sign ++ body ∧ Body field v user teamIds body := by
  have hregroup : ∀ operator shown : String,
      negation inverted ++ operator ++ ":" ++ shown =
        negation inverted ++ (operator ++ ":" ++ shown) := by
    intro operator shown
    simp only [String.append_assoc]
  rw [clause] at h
  split at h
  · cases h
    exact ⟨_, _, rfl, .flag⟩
  · next hkind =>
    obtain ⟨expression, hvalid, hshown⟩ := Date.clause_eq_ok h
    exact ⟨inverted, _, hshown, .date hvalid⟩
  · next hkind =>
    obtain ⟨w, hw, h⟩ := Except.bind_eq_ok.1 h
    cases h
    refine ⟨_, _, hregroup _ _, ?_⟩
    rcases eq_of_resolvedUser hw with rfl | hname
    · exact .value (by rw [hkind]; rfl)
    · exact .mention hname
  · next hkind =>
    obtain ⟨id, hid, h⟩ := Except.bind_eq_ok.1 h
    split at h
    · next htruthy =>
      -- the operator is another one here, and the id is shown without quotes
      cases h
      rw [String.append_assoc]
      refine ⟨_, _, rfl, ?_⟩
      rw [teamId] at hid
      split at hid
      · exact .group hid
      · cases hid
        cases htruthy
    · cases h
      exact ⟨_, _, hregroup _ _, .value (by rw [hkind]; rfl)⟩
  · next hkind =>
    cases h
    exact ⟨_, _, hregroup _ _, .value (by rw [hkind]; rfl)⟩

/-! ## The tables of fields -/

/-- What every table of fields keeps to: its names are distinct, and its
operators are plain and not empty. -/
structure WellFormed (fields : Fields) : Prop where
  /-- No name stands twice. -/
  names : Distinct fields.keys
  /-- An operator has neither blanks nor quotes. -/
  plain : ∀ entry ∈ fields, Plain entry.2.operator
  /-- An operator says something. -/
  nonempty : ∀ entry ∈ fields, entry.2.operator ≠ ""

theorem wellFormed {kind : Kind} (h : kind.searchFields? = some fields) : WellFormed fields := by
  match kind, h with
  | .stories, rfl => exact ⟨by decide +kernel, by decide +kernel, by decide +kernel⟩
  | .epics, rfl => exact ⟨by decide +kernel, by decide +kernel, by decide +kernel⟩
  | .iterations, rfl => exact ⟨by decide +kernel, by decide +kernel, by decide +kernel⟩
  | .objectives, rfl => exact ⟨by decide +kernel, by decide +kernel, by decide +kernel⟩

/-! ## Reading the clauses back -/

/-- No text that the clauses show holds a quote, and no id of a team a
blank. -/
structure Harmless (fields : Fields) (params : Table String Value) (user teamIds : Value) :
    Prop where
  /-- The values shown hold no quotes. -/
  values : ∀ entry ∈ given fields params, entry.2.kind.showsText = true →
    quote ∉ (Value.fieldOf params entry.1).display.toList
  /-- The name of the current user holds none. -/
  mention : ∀ name, mentionName user = .ok name → quote ∉ name.display.toList
  /-- The ids of the teams hold neither quotes nor blanks. -/
  teams : ∀ label id, teamIds.field label = .ok id → Plain id.display

/-- A clause is not empty. -/
theorem clause_ne_empty {field : Field} {v : Value} {inverted : Bool} {text : String}
    (hoperator : field.operator ≠ "") (h : clause field v inverted user teamIds = .ok text) :
    text ≠ "" := by
  obtain ⟨sign, body, rfl, hbody⟩ := clause_body h
  cases hbody <;> simp [String.append_eq_empty_iff, hoperator]

/-- A harmless clause is whole. -/
theorem whole_clause {field : Field} {v : Value} {inverted : Bool} {text : String}
    (hoperator : Plain field.operator)
    (hvalue : field.kind.showsText = true → quote ∉ v.display.toList)
    (hmention : ∀ name, mentionName user = .ok name → quote ∉ name.display.toList)
    (hteams : ∀ label id, teamIds.field label = .ok id → Plain id.display)
    (h : clause field v inverted user teamIds = .ok text) : Whole text := by
  obtain ⟨sign, body, rfl, hbody⟩ := clause_body h
  have hcolon : Whole (field.operator ++ ":") := (hoperator.append (by decide)).whole
  refine (plain_negation sign).whole.append ?_
  cases hbody with
  | flag => exact hoperator.whole
  | date hvalid => exact hcolon.append (Date.plain_of_validate hvalid).whole
  | value hkind => exact hcolon.append (whole_clauseValue (hvalue hkind))
  | mention hname => exact hcolon.append (whole_clauseValue (hmention _ hname))
  | group hid =>
    have hgroup : Plain "group:" := by decide
    exact (hgroup.append (hteams _ _ hid)).whole

/-! ## Compiling ends well -/

/-- The check of the dates fails for a date. -/
theorem of_checkDates_eq_error {fault : Fault} (h : checkDates fields params = .error fault) :
    ∃ date, fault = .date date := by
  induction fields with
  | nil => cases h
  | cons first rest ih =>
    obtain ⟨name, field⟩ := first
    rw [checkDates] at h
    split at h
    · split at h
      · exact ih h
      · next date hdate =>
        cases h
        exact ⟨date, rfl⟩
    · exact ih h

/-- **The check of the dates fails exactly when a date that is given is no date
expression.** -/
theorem checkDates_fails_iff :
    (∃ fault, checkDates fields params = .error (.date fault)) ↔
      ∃ entry ∈ fields, entry.2.kind = .date ∧
        isAbsent (Value.fieldOf params entry.1) = false ∧
        ∃ fault, Date.validate (Value.fieldOf params entry.1).display = .error fault := by
  induction fields with
  | nil => exact ⟨fun ⟨_, h⟩ => (by cases h), fun ⟨_, hmem, _⟩ => absurd hmem List.not_mem_nil⟩
  | cons first rest ih =>
    obtain ⟨name, field⟩ := first
    rw [checkDates, List.exists_mem_cons_iff]
    split
    · next hdate =>
      have hpresent : isAbsent (Value.fieldOf params name) = false := by simpa using hdate.2
      split
      · next expression hvalid =>
        refine ih.trans ⟨.inr, fun h => h.resolve_left ?_⟩
        rintro ⟨-, -, fault, hinvalid⟩
        rw [hvalid] at hinvalid
        cases hinvalid
      · next fault hinvalid =>
        exact ⟨fun _ => .inl ⟨hdate.1, hpresent, fault, hinvalid⟩, fun _ => ⟨fault, rfl⟩⟩
    · next hdate =>
      refine ih.trans ⟨.inr, fun h => h.resolve_left ?_⟩
      rintro ⟨hkind, hpresent, -⟩
      exact hdate ⟨hkind, by simpa using hpresent⟩

/-- Every date parameter passes its check when the parameters do. -/
theorem exists_validate (h : checkDates fields params = .ok ()) {entry : String × Field}
    (hgiven : entry ∈ given fields params) (hkind : entry.2.kind = .date) :
    ∃ expression, Date.validate (Value.fieldOf params entry.1).display = .ok expression := by
  obtain ⟨hmem, hpresent⟩ := List.mem_filter.1 hgiven
  cases hvalid : Date.validate (Value.fieldOf params entry.1).display with
  | ok expression => exact ⟨expression, rfl⟩
  | error fault =>
    have hpresent : isAbsent (Value.fieldOf params entry.1) = false := by simpa using hpresent
    obtain ⟨date, hfails⟩ := checkDates_fails_iff.2 ⟨entry, hmem, hkind, hpresent, fault, hvalid⟩
    rw [h] at hfails
    cases hfails

/-- The name of a user can be looked for. -/
theorem exists_mentionName (h : user.IsUserIfAny) : ∃ name, mentionName user = .ok name := by
  rw [mentionName]
  split
  · next htruthy =>
    obtain ⟨own, rfl, hprofile⟩ := h htruthy
    obtain ⟨profile, hprofile⟩ := hprofile.orNoFields
    simp only [Value.field, bind, Except.bind, hprofile]
    split <;> exact ⟨_, rfl⟩
  · exact ⟨.null, rfl⟩

/-- A clause can be made of every value whose dates are checked. -/
theorem exists_clause {field : Field} {v : Value} (inverted : Bool)
    (hdate : field.kind = .date → ∃ expression, Date.validate v.display = .ok expression)
    (huser : user.IsUserIfAny) (hteams : teamIds.IsObjectIfAny) :
    ∃ text, clause field v inverted user teamIds = .ok text := by
  rw [clause]
  split
  · exact ⟨_, rfl⟩
  · next hkind =>
    obtain ⟨expression, hvalid⟩ := hdate hkind
    rw [Date.clause, hvalid]
    exact ⟨_, rfl⟩
  · obtain ⟨name, hname⟩ := exists_mentionName huser
    rw [resolvedUser]
    split
    · rw [hname]
      exact ⟨_, rfl⟩
    · exact ⟨_, rfl⟩
  · have hid : ∃ id, teamId teamIds v = .ok id := by
      rw [teamId]
      split
      · next htruthy =>
        obtain ⟨table, rfl⟩ := hteams htruthy
        exact ⟨_, rfl⟩
      · exact ⟨.null, rfl⟩
    obtain ⟨id, hid⟩ := hid
    rw [hid]
    show ∃ text, (if id.truthy = true then _ else _) = Except.ok text
    split <;> exact ⟨_, rfl⟩
  · exact ⟨_, rfl⟩

/-- **Compiling ends well** when the dates are valid and what is looked up in
the user and in the team ids can be looked up there. -/
theorem exists_compile (hdates : checkDates fields params = .ok ()) (negated : List String)
    (huser : user.IsUserIfAny) (hteams : teamIds.IsObjectIfAny) :
    ∃ query, compile fields params negated user teamIds = .ok query := by
  have hall : ∀ entry ∈ given fields params, ∃ text,
      clause entry.2 (Value.fieldOf params entry.1) (negated.contains entry.1) user teamIds =
        .ok text := fun entry hgiven =>
    exists_clause _ (fun hkind => exists_validate hdates hgiven hkind) huser hteams
  obtain ⟨texts, htexts⟩ := Except.exists_mapM_eq_ok hall
  exact ⟨_, compile_eq_ok_iff.2 ⟨texts, htexts, rfl⟩⟩

/-! ## What a query needs -/

/-- Only the word for the current user is that word. -/
theorem isCurrentUser_iff {v : Value} : isCurrentUser v = true ↔ v = .text currentUserWord := by
  constructor
  · intro h
    cases v with
    | atom a =>
      have hkey : a.key = Atom.key (.text currentUserWord) := Atom.beq_iff_key_eq.1 h
      cases a with
      | null => cases hkey
      | num n => cases hkey
      | text s =>
        cases hkey
        rfl
    | list items => cases h
    | object fields => cases h
  · rintro rfl
    rfl

/-- The current user is needed exactly when a parameter for a user is the word
for them. -/
theorem needsCurrentUser_iff :
    needsCurrentUser fields params = true ↔ ∃ entry ∈ fields, entry.2.kind = .user ∧
      Value.fieldOf params entry.1 = .text currentUserWord := by
  simp only [needsCurrentUser, List.any_eq_true, Bool.and_eq_true, decide_eq_true_eq,
    isCurrentUser_iff]

/-- Teams are needed exactly when a parameter for a team is there. -/
theorem needsTeamIds_iff :
    needsTeamIds fields params = true ↔ ∃ entry ∈ fields, entry.2.kind = .team ∧
      isAbsent (Value.fieldOf params entry.1) = false := by
  simp only [needsTeamIds, List.any_eq_true, Bool.and_eq_true, decide_eq_true_eq,
    Bool.not_eq_true']

/-! ## What the reader of a query sees -/

/-- **Each parameter has its own clause, and the reader sees the clauses when
no text shown breaks out of its own.** Compiling ends well, and the query is
the queries of the single parameters, in the order of the fields, with
spaces between. Read as tokens it is these clauses exactly when they are
separable, which they are when no text that they show holds a quote. -/
theorem compile_tokens {kind : Kind} (hkind : kind.searchFields? = some fields)
    (hdates : checkDates fields params = .ok ()) (negated : List String) (user teamIds : Value) :
    (user.IsUserIfAny → teamIds.IsObjectIfAny →
      ∃ query, compile fields params negated user teamIds = .ok query) ∧
    ∀ query, compile fields params negated user teamIds = .ok query →
      ∃ texts, (given fields params).keys.Forall₂ (fun name text =>
          compileAlone fields params negated user teamIds name = .ok text) texts ∧
        query = " ".intercalate texts ∧
        (tokens query = texts ↔ Separable false (texts.map String.toList)) ∧
        (Harmless fields params user teamIds → tokens query = texts) := by
  -- what the clauses are does not depend on how they are read
  refine ⟨exists_compile hdates negated, fun query hquery => ?_⟩
  obtain ⟨hnames, hplain, hnonempty⟩ := wellFormed hkind
  obtain ⟨texts, htexts, rfl⟩ := compile_eq_ok_iff.1 hquery
  have hread := tokens_intercalate_iff fun text htext =>
    have ⟨entry, hgiven, hclause⟩ := Except.exists_of_mem_mapM htexts htext
    clause_ne_empty (hnonempty entry (List.mem_of_mem_filter hgiven)) hclause
  refine ⟨texts, forall₂_compileAlone hnames htexts, rfl, hread,
    fun h => hread.2 (separable_of_whole fun text htext => ?_)⟩
  obtain ⟨entry, hgiven, hclause⟩ := Except.exists_of_mem_mapM htexts htext
  exact whole_clause (hplain entry (List.mem_of_mem_filter hgiven)) (h.values entry hgiven)
    h.mention h.teams hclause

end Clauses

namespace Sample

/-- A search by name and team for what the current user owns. -/
def params : Table String Value :=
  [("owner", .text "me"), ("team", .text "Core"), ("name", .text "needs review")]

/-- The current user. -/
def user : Value := .object [("mention_name", .text "ada")]

/-- The ids of the teams. -/
def teamIds : Value := .object [("core", .text "t-1")]

theorem harmless : Harmless storyFields params user teamIds where
  values := by decide +kernel
  mention := by
    rintro name ⟨⟩
    decide +kernel
  teams := by
    rintro label id ⟨⟩
    rw [Value.fieldOf, Table.get?]
    split
    · decide +kernel
    · show Plain (Value.display .null)
      decide +kernel

end Sample

/-- The search of the sample compiles and is read as its clauses. -/
theorem sample_tokens :
    ∃ query texts, compile storyFields Sample.params [] Sample.user Sample.teamIds = .ok query ∧
      (given storyFields Sample.params).keys.Forall₂ (fun name text =>
        compileAlone storyFields Sample.params [] Sample.user Sample.teamIds name = .ok text)
        texts ∧
      tokens query = texts := by
  obtain ⟨hends, hreads⟩ :=
    compile_tokens (rfl : Kind.stories.searchFields? = some storyFields)
      (rfl : checkDates storyFields Sample.params = .ok ()) [] Sample.user Sample.teamIds
  obtain ⟨query, hquery⟩ := hends (fun _ => ⟨_, rfl, Value.isObjectIfAny_null⟩)
    (Value.isObjectIfAny_object _)
  obtain ⟨texts, hall, -, -, hread⟩ := hreads query hquery
  exact ⟨query, texts, hquery, hall, hread Sample.harmless⟩

/-- **A quote in a value breaks its clause.** The one parameter has quotes of
its own, and the query that it makes is read as three clauses, one of them
about what is archived and one about a label. -/
theorem quotes_split_a_clause :
    checkDates storyFields [("name", .text "x\" is:archived label:\"y")] = .ok () ∧
      (given storyFields [("name", .text "x\" is:archived label:\"y")]).keys = ["name"] ∧
      ∃ query, compile storyFields [("name", .text "x\" is:archived label:\"y")] [] .null .null =
          .ok query ∧
        tokens query = ["name:\"x\"", "is:archived", "label:\"y\""] :=
  ⟨rfl, by decide +kernel, _, rfl, by decide +kernel⟩

end Query

end Backlog
