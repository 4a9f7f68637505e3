import Backlog.Proofs.Query.Clauses
/-!
# A query is put together from its clauses

Compiling looks at each field of the table by itself. It fails only for a date,
and then for the first field of the table whose date is no date expression
(`Query.compile_eq_error_iff`). Otherwise the query is the queries of the single
parameters with spaces between. So nothing else about the parameters and about
the negated names counts: not their order, not what repeats, not names that the
table does not have and not parameters that are there in name only
(`Query.Compositional`).

For the tables of the kinds, negating one more field turns its clause around
and leaves every other as it is (`Query.Turned`): a sign goes in front, or, in
front of a predicate that has one already, it goes away.
-/

namespace Backlog

namespace Query

section Composition

variable {fields : Fields} {params : Table String Value} {negated : List String}
  {user teamIds : Value}

/-! ## The first date that fails -/

/-- The field has a date that is refused. -/
def InvalidDate (params : Table String Value) (entry : String × Field) (date : Date.Fault) :
    Prop :=
  entry.2.kind = .date ∧ isAbsent (Value.fieldOf params entry.1) = false ∧
    Date.validate (Value.fieldOf params entry.1).display = .error date

/-- The first of the fields whose date is refused, with the refusal. -/
inductive FirstInvalid (params : Table String Value) : Fields → Date.Fault → Prop where
  | here {entry : String × Field} {rest : Fields} {date : Date.Fault}
      (h : InvalidDate params entry date) : FirstInvalid params (entry :: rest) date
  | there {entry : String × Field} {rest : Fields} {date : Date.Fault}
      (hvalid : ∀ other, ¬ InvalidDate params entry other) (h : FirstInvalid params rest date) :
      FirstInvalid params (entry :: rest) date

/-- A clause fails for a date only. -/
theorem clause_eq_error_iff {field : Field} {v : Value} {inverted : Bool} {fault : Fault}
    (huser : user.IsUserIfAny) (hteams : teamIds.IsObjectIfAny) :
    clause field v inverted user teamIds = .error fault ↔
      ∃ date, fault = .date date ∧ field.kind = .date ∧ Date.validate v.display = .error date := by
  by_cases hkind : field.kind = .date
  · have hclause : clause field v inverted user teamIds =
        (Date.clause field.operator v.display inverted).mapError .date := by
      rw [clause, hkind]
    rw [hclause, Date.clause]
    cases hvalid : Date.validate v.display with
    | error date =>
      constructor
      · rintro ⟨⟩
        exact ⟨date, rfl, hkind, rfl⟩
      · rintro ⟨_, rfl, -, ⟨⟩⟩
        rfl
    | ok expression =>
      constructor
      · intro h; cases h
      · rintro ⟨_, -, -, h⟩
        cases h
  · obtain ⟨text, htext⟩ :=
      exists_clause (v := v) inverted (fun h => absurd h hkind) huser hteams
    rw [htext]
    constructor
    · intro h; cases h
    · rintro ⟨_, -, h, -⟩
      exact absurd h hkind

/-- A parameter that is no date that is refused has its clause. -/
theorem exists_clause_of_not_invalid (huser : user.IsUserIfAny) (hteams : teamIds.IsObjectIfAny)
    (inverted : Bool) {entry : String × Field}
    (hpresent : isAbsent (Value.fieldOf params entry.1) = false)
    (hvalid : ∀ date, ¬ InvalidDate params entry date) :
    ∃ text, clause entry.2 (Value.fieldOf params entry.1) inverted user teamIds = .ok text := by
  refine exists_clause inverted (fun hkind => ?_) huser hteams
  cases hdate : Date.validate (Value.fieldOf params entry.1).display with
  | ok expression => exact ⟨expression, rfl⟩
  | error date => exact absurd ⟨hkind, hpresent, hdate⟩ (hvalid date)

/-- The clauses fail for the first date that fails. -/
theorem clauses_eq_error_iff {fault : Fault} (huser : user.IsUserIfAny)
    (hteams : teamIds.IsObjectIfAny) :
    clauses params negated user teamIds fields = .error fault ↔
      ∃ date, fault = .date date ∧ FirstInvalid params fields date := by
  induction fields with
  | nil =>
    constructor
    · intro h; cases h
    · rintro ⟨_, -, h⟩
      cases h
  | cons entry rest ih =>
    obtain ⟨name, field⟩ := entry
    rw [clauses]
    split
    · next habsent =>
      -- a field without a parameter has no date
      have hvalid : ∀ date, ¬ InvalidDate params (name, field) date := by
        rintro date ⟨-, hpresent, -⟩
        rw [habsent] at hpresent
        cases hpresent
      refine ih.trans (exists_congr fun date => and_congr_right fun _ => ?_)
      constructor
      · exact .there hvalid
      · rintro (h | ⟨-, h⟩)
        · exact absurd h (hvalid date)
        · exact h
    · next hpresent =>
      have hpresent := Bool.eq_false_iff.2 hpresent
      rw [Except.bind_eq_error, clause_eq_error_iff huser hteams]
      constructor
      · rintro (⟨date, rfl, hkind, hdate⟩ | ⟨text, htext, h⟩)
        · exact ⟨date, rfl, .here ⟨hkind, hpresent, hdate⟩⟩
        · rcases Except.bind_eq_error.1 h with h | ⟨_, -, ⟨⟩⟩
          obtain ⟨date, rfl, hfirst⟩ := ih.1 h
          refine ⟨date, rfl, .there ?_ hfirst⟩
          rintro other ⟨hkind, -, hdate⟩
          rw [(clause_eq_error_iff huser hteams).2 ⟨other, rfl, hkind, hdate⟩] at htext
          cases htext
      · rintro ⟨date, rfl, h | ⟨hvalid, h⟩⟩
        · exact .inl ⟨date, rfl, h.1, h.2.2⟩
        · obtain ⟨text, htext⟩ :=
            exists_clause_of_not_invalid huser hteams (negated.contains name) hpresent hvalid
          exact .inr ⟨text, htext, Except.bind_eq_error.2 (.inl (ih.2 ⟨date, rfl, h⟩))⟩

/-- **Compiling fails for the first date that fails**, and for nothing else. -/
theorem compile_eq_error_iff {fault : Fault} (huser : user.IsUserIfAny)
    (hteams : teamIds.IsObjectIfAny) :
    compile fields params negated user teamIds = .error fault ↔
      ∃ date, fault = .date date ∧ FirstInvalid params fields date := by
  rw [compile, Except.bind_eq_error, clauses_eq_error_iff huser hteams]
  constructor
  · rintro (h | ⟨_, -, ⟨⟩⟩)
    exact h
  · exact .inl

/-- A date that is refused is the first one or stands behind it. -/
theorem InvalidDate.exists_first {entry : String × Field} {date : Date.Fault}
    (h : InvalidDate params entry date) (hmem : entry ∈ fields) :
    ∃ first, FirstInvalid params fields first := by
  induction fields with
  | nil => cases hmem
  | cons other rest ih =>
    by_cases hother : ∃ first, InvalidDate params other first
    · obtain ⟨first, hfirst⟩ := hother
      exact ⟨first, .here hfirst⟩
    · have hvalid := not_exists.1 hother
      rcases List.mem_cons.1 hmem with rfl | hmem
      · exact absurd h (hvalid date)
      · obtain ⟨first, hfirst⟩ := ih hmem
        exact ⟨first, .there hvalid hfirst⟩

/-- Where no date is refused every parameter has its clause. -/
theorem exists_clause_of_valid (huser : user.IsUserIfAny) (hteams : teamIds.IsObjectIfAny)
    (hvalid : ∀ date, ¬ FirstInvalid params fields date) (inverted : Bool)
    {entry : String × Field} (hgiven : entry ∈ given fields params) :
    ∃ text, clause entry.2 (Value.fieldOf params entry.1) inverted user teamIds = .ok text := by
  obtain ⟨hmem, hpresent⟩ := List.mem_filter.1 hgiven
  refine exists_clause_of_not_invalid huser hteams inverted (by simpa using hpresent) ?_
  intro date hinvalid
  obtain ⟨first, hfirst⟩ := hinvalid.exists_first hmem
  exact hvalid first hfirst

/-! ## What does not count -/

/-- Two tables of parameters say the same to a field: the same value, or none
worth the name. -/
def SameTo (params others : Table String Value) (name : String) : Prop :=
  Value.fieldOf params name = Value.fieldOf others name ∨
    isAbsent (Value.fieldOf params name) = true ∧ isAbsent (Value.fieldOf others name) = true

/-- **Parameters count by what they say to the fields.** -/
theorem compile_congr_params {others : Table String Value}
    (h : ∀ name ∈ fields.keys, SameTo params others name) :
    compile fields params negated user teamIds = compile fields others negated user teamIds := by
  have hclauses : clauses params negated user teamIds fields =
      clauses others negated user teamIds fields := by
    induction fields with
    | nil => rfl
    | cons entry rest ih =>
      obtain ⟨name, field⟩ := entry
      have hrest := ih fun other hmem => h other (List.mem_cons_of_mem name hmem)
      rw [clauses, clauses, hrest]
      rcases h name List.mem_cons_self with heq | ⟨habsent, habsent'⟩
      · rw [heq]
      · rw [if_pos habsent, if_pos habsent']
  rw [compile, compile, hclauses]

/-- **Negated names count by the fields with a parameter that they name.** -/
theorem compile_congr_negated {others : List String}
    (h : ∀ name ∈ (given fields params).keys, name ∈ negated ↔ name ∈ others) :
    compile fields params negated user teamIds = compile fields params others user teamIds := by
  have hsame : ∀ entry ∈ given fields params,
      negated.contains entry.1 = others.contains entry.1 := by
    intro entry hmem
    rw [Bool.eq_iff_iff, List.contains_iff_mem, List.contains_iff_mem]
    exact h entry.1 (List.mem_map_of_mem hmem)
  rw [compile, compile, clauses_eq_mapM, clauses_eq_mapM,
    Except.mapM_congr fun entry hmem => by rw [hsame entry hmem]]

/-- Parameters in another order say the same. -/
theorem sameTo_of_perm {others : Table String Value} (hkeys : Distinct params.keys)
    (hperm : params.Perm others) (name : String) : SameTo params others name :=
  .inl (by rw [Value.fieldOf, Table.get?_of_perm hkeys hperm, Value.fieldOf])

/-- Parameters of other names say nothing to a field. -/
theorem sameTo_filter_known {name : String} (hname : name ∈ fields.keys) :
    SameTo (params.filter fun entry => fields.keys.contains entry.1) params name := by
  refine .inl ?_
  rw [Value.fieldOf, Table.get?_filter_key, Value.fieldOf]
  intro k hk
  rw [List.contains_iff_mem, eq_of_beq hk]
  exact hname

/-- Parameters in name only say nothing. -/
theorem sameTo_filter_present (hkeys : Distinct params.keys) (name : String) :
    SameTo (params.filter fun entry => !isAbsent entry.2) params name := by
  have hkept : Distinct (Table.keys (params.filter fun entry => !isAbsent entry.2)) :=
    hkeys.sublist (List.filter_sublist.map _)
  cases hread : Table.get? (params.filter fun entry => !isAbsent entry.2) name with
  | some v =>
    obtain ⟨k, hmem, hk⟩ := Table.exists_mem_of_get?_eq_some hread
    obtain rfl := eq_of_beq hk
    refine .inl ?_
    rw [Value.fieldOf, Value.fieldOf, hread,
      Table.get?_eq_some_of_mem hkeys (List.mem_of_mem_filter hmem)]
  | none =>
    refine .inr ⟨by rw [Value.fieldOf, hread]; rfl, ?_⟩
    cases hparam : params.get? name with
    | none =>
      rw [Value.fieldOf, hparam]
      rfl
    | some v =>
      obtain ⟨k, hmem, hk⟩ := Table.exists_mem_of_get?_eq_some hparam
      obtain rfl := eq_of_beq hk
      by_contra hpresent
      rw [Value.fieldOf, hparam] at hpresent
      have hkeep : (k, v) ∈ params.filter fun entry => !isAbsent entry.2 :=
        List.mem_filter.2 ⟨hmem, by simpa using hpresent⟩
      rw [Table.get?_eq_some_of_mem hkept hkeep] at hread
      cases hread

/-! ## Negating one more field -/

/-- What a clause becomes when its field is negated: a sign goes in front, but
the sign of a predicate that has one goes away. -/
def Turned (field : Field) (text turned : String) : Prop :=
  if field.kind = .flag ∧ text.toList.head? = some '!' then text = "!" ++ turned
  else turned = "!" ++ text

/-- A clause that is no predicate is one text behind its sign. -/
theorem exists_body {field : Field} (hkind : field.kind ≠ .flag) (v user teamIds : Value) :
    ∃ body : Except Fault String, ∀ inverted,
      clause field v inverted user teamIds = body.map (negation inverted ++ ·) := by
  have hregroup : ∀ inverted operator shown,
      negation inverted ++ operator ++ ":" ++ shown =
        negation inverted ++ (operator ++ ":" ++ shown) := by
    intro inverted operator shown
    simp only [String.append_assoc]
  simp only [clause]
  cases hfield : field.kind with
  | flag => exact absurd hfield hkind
  | date =>
    refine ⟨((Date.validate v.display).map (field.operator ++ ":" ++ ·)).mapError .date,
      fun inverted => ?_⟩
    rw [Date.clause]
    cases Date.validate v.display with
    | error date => rfl
    | ok expression => exact congrArg Except.ok (hregroup inverted field.operator expression)
  | user =>
    refine ⟨(resolvedUser user v).map (field.operator ++ ":" ++ clauseValue ·), fun inverted => ?_⟩
    cases resolvedUser user v with
    | error fault => rfl
    | ok shown =>
      exact congrArg Except.ok (hregroup inverted field.operator (clauseValue shown))
  | team =>
    refine ⟨(teamId teamIds v).map fun id =>
      if id.truthy then "group:" ++ id.display else field.operator ++ ":" ++ clauseValue v,
      fun inverted => ?_⟩
    cases teamId teamIds v with
    | error fault => rfl
    | ok id =>
      simp only [Except.map, bind, Except.bind]
      split
      · exact congrArg Except.ok String.append_assoc
      · exact congrArg Except.ok (hregroup inverted field.operator (clauseValue v))
  | value =>
    exact ⟨.ok (field.operator ++ ":" ++ clauseValue v), fun inverted =>
      congrArg Except.ok (hregroup inverted field.operator (clauseValue v))⟩

/-- **Negating a field turns its clause around**, when no predicate starts with a
sign of its own. -/
theorem turned_clause {field : Field} {v : Value} {text turned : String}
    (hoperator : field.kind = .flag → field.operator.toList.head? ≠ some '!')
    (h : clause field v false user teamIds = .ok text)
    (hturned : clause field v true user teamIds = .ok turned) : Turned field text turned := by
  rw [Turned]
  by_cases hkind : field.kind = .flag
  · rw [clause, hkind] at h hturned
    cases h
    cases hturned
    cases htruthy : v.truthy with
    | true =>
      -- the predicate holds and has no sign yet
      rw [if_neg]
      · exact String.empty_append.symm ▸ rfl
      · rintro ⟨-, hsign⟩
        exact hoperator hkind (by simpa [negation] using hsign)
    | false =>
      rw [if_pos ⟨hkind, by simp [negation]⟩]
      simp [negation]
  · obtain ⟨body, hbody⟩ := exists_body hkind v user teamIds
    rw [hbody] at h hturned
    cases body with
    | error fault => cases h
    | ok body =>
      cases h
      cases hturned
      rw [if_neg fun hsign => hkind hsign.1]
      exact congrArg ("!" ++ ·) String.empty_append.symm

/-! ## Compositional compiling -/

/-- How compiling with a table of fields puts queries together. -/
structure Compositional (fields : Fields) (user teamIds : Value) : Prop where
  /-- It fails for the first date that is refused, and for nothing else. -/
  fails_iff : ∀ params negated fault,
    compile fields params negated user teamIds = .error fault ↔
      ∃ date, fault = .date date ∧ FirstInvalid params fields date
  /-- Otherwise the query is the queries of the parameters alone. -/
  joins : ∀ params negated, (∀ date, ¬ FirstInvalid params fields date) →
    ∃ texts, (given fields params).keys.Forall₂ (fun name text =>
        compileAlone fields params negated user teamIds name = .ok text) texts ∧
      compile fields params negated user teamIds = .ok (" ".intercalate texts)
  /-- The order of the parameters does not count. -/
  order : ∀ params others negated, Distinct params.keys → params.Perm others →
    compile fields params negated user teamIds = compile fields others negated user teamIds
  /-- Parameters that no field has the name of do not count. -/
  unknown : ∀ params negated,
    compile fields (params.filter fun entry => fields.keys.contains entry.1) negated user teamIds =
      compile fields params negated user teamIds
  /-- Parameters in name only do not count. -/
  absent : ∀ params negated, Distinct params.keys →
    compile fields (params.filter fun entry => !isAbsent entry.2) negated user teamIds =
      compile fields params negated user teamIds
  /-- Of the negated names it counts which fields they name. -/
  negates : ∀ params negated others, (∀ name ∈ fields.keys, name ∈ negated ↔ name ∈ others) →
    compile fields params negated user teamIds = compile fields params others user teamIds

/-- How compiling with a table of fields takes one more negated name: the clause
of that field is turned around and every other is the same. -/
def TurnsOne (fields : Fields) (user teamIds : Value) : Prop :=
  ∀ params negated name, name ∉ negated → (∀ date, ¬ FirstInvalid params fields date) →
    ∃ pairs : List (String × String),
      (given fields params).Forall₂ (fun entry pair =>
        compileAlone fields params negated user teamIds entry.1 = .ok pair.1 ∧
        compileAlone fields params (name :: negated) user teamIds entry.1 = .ok pair.2 ∧
        if entry.1 = name then Turned entry.2 pair.1 pair.2 else pair.2 = pair.1) pairs ∧
      compile fields params negated user teamIds = .ok (" ".intercalate (pairs.map (·.1))) ∧
      compile fields params (name :: negated) user teamIds =
        .ok (" ".intercalate (pairs.map (·.2)))

/-- **Compiling is compositional.** -/
theorem compositional (hnames : Distinct fields.keys) (huser : user.IsUserIfAny)
    (hteams : teamIds.IsObjectIfAny) : Compositional fields user teamIds where
  fails_iff params negated fault := compile_eq_error_iff huser hteams
  joins params negated hvalid := by
    obtain ⟨texts, htexts⟩ := Except.exists_mapM_eq_ok fun entry hgiven =>
      exists_clause_of_valid huser hteams hvalid (negated.contains entry.1) hgiven
    exact ⟨texts, forall₂_compileAlone hnames htexts, compile_eq_ok_iff.2 ⟨texts, htexts, rfl⟩⟩
  order params others negated hkeys hperm :=
    compile_congr_params fun name _ => sameTo_of_perm hkeys hperm name
  unknown params negated := compile_congr_params fun name hname => sameTo_filter_known hname
  absent params negated hkeys :=
    compile_congr_params fun name _ => sameTo_filter_present hkeys name
  negates params negated others h := by
    refine compile_congr_negated fun name hname => h name ?_
    obtain ⟨entry, hmem, rfl⟩ := List.mem_map.1 hname
    exact List.mem_map_of_mem (List.mem_of_mem_filter hmem)

/-- In the tables of the kinds no predicate starts with a sign. -/
theorem unsigned {kind : Kind} (h : kind.searchFields? = some fields) :
    ∀ entry ∈ fields, entry.2.kind = .flag → entry.2.operator.toList.head? ≠ some '!' := by
  match kind, h with
  | .stories, rfl => decide +kernel
  | .epics, rfl => decide +kernel
  | .iterations, rfl => decide +kernel
  | .objectives, rfl => decide +kernel

/-- Elements that are each related to something make a list that is. -/
theorem exists_forall₂ {α β : Type} {R : α → β → Prop} {l : List α} (h : ∀ a ∈ l, ∃ b, R a b) :
    ∃ l', l.Forall₂ R l' := by
  induction l with
  | nil => exact ⟨[], .nil⟩
  | cons a l ih =>
    obtain ⟨b, hb⟩ := h a List.mem_cons_self
    obtain ⟨l', hl⟩ := ih fun c hc => h c (List.mem_cons_of_mem a hc)
    exact ⟨b :: l', .cons hb hl⟩

/-- What a field says before and after one more name is negated. -/
theorem exists_turned {kind : Kind} (hkind : kind.searchFields? = some fields)
    (huser : user.IsUserIfAny) (hteams : teamIds.IsObjectIfAny)
    (hvalid : ∀ date, ¬ FirstInvalid params fields date) {name : String} (hname : name ∉ negated)
    {entry : String × Field} (hgiven : entry ∈ given fields params) :
    ∃ pair : String × String,
      clause entry.2 (Value.fieldOf params entry.1) (negated.contains entry.1) user teamIds =
        .ok pair.1 ∧
      clause entry.2 (Value.fieldOf params entry.1) ((name :: negated).contains entry.1) user
        teamIds = .ok pair.2 ∧
      if entry.1 = name then Turned entry.2 pair.1 pair.2 else pair.2 = pair.1 := by
  have hclause := fun inverted => exists_clause_of_valid huser hteams hvalid inverted hgiven
  obtain ⟨text, htext⟩ := hclause (negated.contains entry.1)
  by_cases heq : entry.1 = name
  · obtain ⟨turned, hturned⟩ := hclause true
    have hnot : negated.contains entry.1 = false := by
      rw [heq]
      exact Bool.eq_false_iff.2 fun h => hname (List.contains_iff_mem.1 h)
    have hyes : (name :: negated).contains entry.1 = true := by
      rw [heq, List.contains_cons, BEq.rfl, Bool.true_or]
    refine ⟨(text, turned), htext, hyes ▸ hturned, ?_⟩
    rw [if_pos heq]
    exact turned_clause (unsigned hkind entry (List.mem_of_mem_filter hgiven)) (hnot ▸ htext)
      hturned
  · have hsame : (name :: negated).contains entry.1 = negated.contains entry.1 := by
      rw [List.contains_cons, beq_false_of_ne heq, Bool.false_or]
    exact ⟨(text, text), htext, hsame ▸ htext, by rw [if_neg heq]⟩

/-- **Negating one more field turns its clause around and no other.** -/
theorem turnsOne {kind : Kind} (hkind : kind.searchFields? = some fields)
    (huser : user.IsUserIfAny) (hteams : teamIds.IsObjectIfAny) :
    TurnsOne fields user teamIds := by
  intro params negated name hname hvalid
  have hnames := (wellFormed hkind).names
  obtain ⟨pairs, hpairs⟩ := exists_forall₂ fun entry (hgiven : entry ∈ given fields params) =>
    exists_turned hkind huser hteams hvalid hname hgiven
  refine ⟨pairs, ?_, compile_eq_ok_iff.2 ⟨_, ?_, rfl⟩, compile_eq_ok_iff.2 ⟨_, ?_, rfl⟩⟩
  · have hgiven := (List.forall₂_and_left _ _).2 ⟨fun entry hgiven => hgiven, hpairs⟩
    exact hgiven.imp fun entry pair ⟨hgiven, htext, hturned, hrule⟩ =>
      ⟨(compileAlone_eq_ok_iff hnames hgiven).2 htext,
        (compileAlone_eq_ok_iff hnames hgiven).2 hturned, hrule⟩
  · rw [Except.mapM_eq_ok_iff, List.forall₂_map_right_iff]
    exact hpairs.imp fun entry pair h => h.1
  · rw [Except.mapM_eq_ok_iff, List.forall₂_map_right_iff]
    exact hpairs.imp fun entry pair h => h.2.1

/-- **The query is put together from the queries of the single parameters.** It
fails for the first date of the table that is refused and for nothing else, it
does not depend on what the table has no use for, and in the tables of the kinds
negating one more field turns that field's clause around and no other. -/
theorem compile_compositional (hnames : Distinct fields.keys) (huser : user.IsUserIfAny)
    (hteams : teamIds.IsObjectIfAny) :
    Compositional fields user teamIds ∧
      ((∃ kind : Kind, kind.searchFields? = some fields) → TurnsOne fields user teamIds) :=
  ⟨compositional hnames huser hteams, fun ⟨_, hkind⟩ => turnsOne hkind huser hteams⟩

end Composition

/-- So it is with the fields of stories, the user and the teams of the
sample. -/
theorem sample_compositional :
    Distinct storyFields.keys ∧ Sample.user.IsUserIfAny ∧ Sample.teamIds.IsObjectIfAny ∧
      Compositional storyFields Sample.user Sample.teamIds ∧
      TurnsOne storyFields Sample.user Sample.teamIds := by
  have hkind : Kind.stories.searchFields? = some storyFields := rfl
  have hnames := (wellFormed hkind).names
  have huser : Sample.user.IsUserIfAny := fun _ => ⟨_, rfl, Value.isObjectIfAny_null⟩
  have hteams : Sample.teamIds.IsObjectIfAny := Value.isObjectIfAny_object _
  obtain ⟨hcompositional, hturns⟩ := compile_compositional hnames huser hteams
  exact ⟨hnames, huser, hteams, hcompositional, hturns ⟨.stories, hkind⟩⟩

end Query

end Backlog
