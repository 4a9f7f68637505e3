import Backlog.Proofs.Query.Composition
/-!
# What is told before a query is compiled

Before a search compiles its query it checks its dates, and it looks up the
current user and the ids of teams only if the query seems to need them. All
three are told from the fields and the parameters alone, by scans of their own,
and compiling decides the same things again for each clause. The two agree.

The check fails exactly for the first date that compiling fails for
(`Query.checkDates_eq_error_iff`), so a query whose dates are checked does not
fail for a date, whatever was looked up for it
(`Query.check_foretells_compile`). Where no parameter names the current user,
the current user has no part in the query, and where one does, there are two
users whose queries differ; and so it is with teams
(`Query.Foretells`). That queries differ is told from their lengths.
-/

namespace Backlog

namespace Query

section Check

variable {fields : Fields} {params : Table String Value} {negated : List String}
  {user teamIds user' teamIds' : Value}

/-! ## The check of the dates -/

/-- The first date that is refused stands behind a field that has none. -/
theorem firstInvalid_cons_iff {entry : String × Field} {date : Date.Fault}
    (h : ∀ other, ¬ InvalidDate params entry other) :
    FirstInvalid params (entry :: fields) date ↔ FirstInvalid params fields date := by
  constructor
  · rintro (hhere | ⟨-, hrest⟩)
    · exact absurd hhere (h date)
    · exact hrest
  · exact .there h

/-- **The check fails for the first date that is refused**, and for nothing
else. -/
theorem checkDates_eq_error_iff {fault : Fault} :
    checkDates fields params = .error fault ↔
      ∃ date, fault = .date date ∧ FirstInvalid params fields date := by
  induction fields with
  | nil =>
    constructor
    · intro h; cases h
    · rintro ⟨_, -, h⟩
      cases h
  | cons entry rest ih =>
    obtain ⟨name, field⟩ := entry
    -- a field without a date that is refused leaves the question to the others
    have hbehind (hnone : ∀ other, ¬ InvalidDate params (name, field) other) :
        checkDates rest params = .error fault ↔
          ∃ date, fault = .date date ∧ FirstInvalid params ((name, field) :: rest) date := by
      simp only [ih, firstInvalid_cons_iff hnone]
    rw [checkDates]
    split
    · next hdate =>
      have hpresent : isAbsent (Value.fieldOf params name) = false := by simpa using hdate.2
      split
      · next expression hvalid =>
        refine hbehind ?_
        rintro other ⟨-, -, hinvalid⟩
        cases hvalid.symm.trans hinvalid
      · next date hinvalid =>
        have hhere : InvalidDate params (name, field) date := ⟨hdate.1, hpresent, hinvalid⟩
        constructor
        · rintro ⟨⟩
          exact ⟨date, rfl, .here hhere⟩
        · rintro ⟨other, rfl, hother | ⟨hvalid, -⟩⟩
          · cases hinvalid.symm.trans hother.2.2
            rfl
          · exact absurd hhere (hvalid date)
    · next hdate =>
      refine hbehind ?_
      rintro other ⟨hkind, hpresent, -⟩
      exact hdate ⟨hkind, by simpa using hpresent⟩

/-- The check passes where no date is refused. -/
theorem checkDates_eq_ok_iff :
    checkDates fields params = .ok () ↔ ∀ date, ¬ FirstInvalid params fields date := by
  constructor
  · intro h date hfirst
    rw [checkDates_eq_error_iff.2 ⟨date, rfl, hfirst⟩] at h
    cases h
  · intro h
    cases hchecked : checkDates fields params with
    | ok checked => rfl
    | error fault =>
      obtain ⟨date, -, hfirst⟩ := checkDates_eq_error_iff.1 hchecked
      exact absurd hfirst (h date)

/-! ## Dates among all that can fail

What is looked up for a query may be of any shape, and reading it may fail. A
date that fails is told apart from that. -/

theorem of_field_eq_error {v : Value} {name : String} {fault : Fault}
    (h : v.field name = .error fault) : fault = .noSuchMember := by
  cases v with
  | object members => cases h
  | atom a =>
    cases h
    rfl
  | list items =>
    cases h
    rfl

theorem of_mentionName_eq_error {fault : Fault} (h : mentionName user = .error fault) :
    fault = .noSuchMember := by
  rw [mentionName] at h
  split at h
  · rcases Except.bind_eq_error.1 h with h | ⟨name, -, h⟩
    · exact of_field_eq_error h
    split at h
    · rcases Except.bind_eq_error.1 h with h | ⟨profile, -, h⟩
      · exact of_field_eq_error h
      rcases Except.bind_eq_error.1 h with h | ⟨_, -, ⟨⟩⟩
      exact of_field_eq_error h
    · cases h
  · cases h

/-- **A clause that fails for a date is that of a date**, whatever was looked
up. -/
theorem of_clause_eq_date {field : Field} {v : Value} {inverted : Bool} {date : Date.Fault}
    (h : clause field v inverted user teamIds = .error (.date date)) :
    field.kind = .date ∧ Date.validate v.display = .error date := by
  rw [clause] at h
  split at h
  · cases h
  · next hkind =>
    rw [Date.clause] at h
    cases hvalid : Date.validate v.display with
    | error other =>
      rw [hvalid] at h
      cases h
      exact ⟨hkind, rfl⟩
    | ok expression =>
      rw [hvalid] at h
      cases h
  · rcases Except.bind_eq_error.1 h with h | ⟨_, -, ⟨⟩⟩
    rw [resolvedUser] at h
    split at h
    · rcases Except.bind_eq_error.1 h with h | ⟨_, -, ⟨⟩⟩
      cases of_mentionName_eq_error h
    · cases h
  · rcases Except.bind_eq_error.1 h with h | ⟨id, -, h⟩
    · rw [teamId] at h
      split at h
      · cases of_field_eq_error h
      · cases h
    · split at h <;> cases h
  · cases h

/-- A date that is refused has no clause. -/
theorem clause_of_invalid {field : Field} {v : Value} (inverted : Bool) {date : Date.Fault}
    (hkind : field.kind = .date) (h : Date.validate v.display = .error date) :
    clause field v inverted user teamIds = .error (.date date) := by
  rw [clause, hkind]
  dsimp only
  rw [Date.clause, h]
  rfl

/-- **Clauses that fail for a date fail for the first one that is refused**,
whatever was looked up. -/
theorem firstInvalid_of_clauses {date : Date.Fault}
    (h : clauses params negated user teamIds fields = .error (.date date)) :
    FirstInvalid params fields date := by
  induction fields with
  | nil => cases h
  | cons entry rest ih =>
    obtain ⟨name, field⟩ := entry
    rw [clauses] at h
    split at h
    · next habsent =>
      refine .there ?_ (ih h)
      rintro other ⟨-, hpresent, -⟩
      rw [habsent] at hpresent
      cases hpresent
    · next hpresent =>
      rcases Except.bind_eq_error.1 h with h | ⟨text, htext, h⟩
      · obtain ⟨hkind, hinvalid⟩ := of_clause_eq_date h
        exact .here ⟨hkind, Bool.eq_false_iff.2 hpresent, hinvalid⟩
      · rcases Except.bind_eq_error.1 h with h | ⟨_, -, ⟨⟩⟩
        refine .there ?_ (ih h)
        rintro other ⟨hkind, -, hinvalid⟩
        rw [clause_of_invalid _ hkind hinvalid] at htext
        cases htext

/-- **The check and the compiler agree.** The check fails for a date exactly when
compiling does, and for the same date with the same words. So where the check
passes, compiling ends well with a user and teams that can be read, and with
anything else that was looked up it does not fail for a date. -/
theorem check_foretells_compile (huser : user.IsUserIfAny) (hteams : teamIds.IsObjectIfAny)
    (negated : List String) :
    (∀ date, checkDates fields params = .error (.date date) ↔
      compile fields params negated user teamIds = .error (.date date)) ∧
    (checkDates fields params = .ok () →
      (∃ query, compile fields params negated user teamIds = .ok query) ∧
      ∀ user' teamIds' date,
        compile fields params negated user' teamIds' ≠ .error (.date date)) := by
  constructor
  · intro date
    rw [checkDates_eq_error_iff, compile_eq_error_iff huser hteams]
  · intro hdates
    refine ⟨exists_compile hdates negated huser hteams, fun user' teamIds' date h => ?_⟩
    rw [compile] at h
    rcases Except.bind_eq_error.1 h with h | ⟨_, -, ⟨⟩⟩
    exact checkDates_eq_ok_iff.1 hdates date (firstInvalid_of_clauses h)

end Check

namespace Sample

/-- A search with two dates, of which the later one is none. -/
def misdated : Table String Value :=
  [("due", .text "soon"), ("team", .text "Core"), ("created", .text "yesterday..*")]

end Sample

/-- The check of the sample with a date that is none foretells how compiling it
fails, and that of the other sample that compiling it ends well. -/
theorem sample_foretold :
    Sample.user.IsUserIfAny ∧ Sample.teamIds.IsObjectIfAny ∧
      compile storyFields Sample.misdated ["due"] Sample.user Sample.teamIds =
        .error (.date (.unreadable "soon")) ∧
      ∃ query, compile storyFields Sample.params ["due"] Sample.user Sample.teamIds =
        .ok query := by
  have huser : Sample.user.IsUserIfAny := fun _ => ⟨_, rfl, Value.isObjectIfAny_null⟩
  have hteams : Sample.teamIds.IsObjectIfAny := Value.isObjectIfAny_object _
  have hmisdated : checkDates storyFields Sample.misdated = .error (.date (.unreadable "soon")) :=
    rfl
  exact ⟨huser, hteams, ((check_foretells_compile huser hteams _).1 _).1 hmisdated,
    ((check_foretells_compile huser hteams _).2 rfl).1⟩

section Needs

variable {fields : Fields} {params : Table String Value} {negated : List String}
  {user teamIds user' teamIds' : Value}

/-! ## What the clauses do not need -/

/-- A query depends on what was looked up by way of its clauses only. -/
theorem compile_congr_clauses (h : ∀ entry ∈ given fields params,
    clause entry.2 (Value.fieldOf params entry.1) (negated.contains entry.1) user teamIds =
      clause entry.2 (Value.fieldOf params entry.1) (negated.contains entry.1) user' teamIds') :
    compile fields params negated user teamIds = compile fields params negated user' teamIds' := by
  rw [compile, compile, clauses_eq_mapM, clauses_eq_mapM, Except.mapM_congr h]

/-- The current user has a part in the clauses that name them only. -/
theorem clause_congr_user {field : Field} {v : Value} (inverted : Bool) (teamIds : Value)
    (h : field.kind = .user → isCurrentUser v = false) :
    clause field v inverted user teamIds = clause field v inverted user' teamIds := by
  rw [clause, clause]
  cases hkind : field.kind with
  | user => simp only [resolvedUser, h hkind, Bool.false_eq_true, if_false]
  | _ => rfl

/-- Teams have a part in the clauses of teams only. -/
theorem clause_congr_teamIds {field : Field} {v : Value} (inverted : Bool) (user : Value)
    (h : field.kind ≠ .team) :
    clause field v inverted user teamIds = clause field v inverted user teamIds' := by
  rw [clause, clause]
  cases hkind : field.kind with
  | team => exact absurd hkind h
  | _ => rfl

theorem compile_congr_user (h : needsCurrentUser fields params = false) (teamIds : Value) :
    compile fields params negated user teamIds = compile fields params negated user' teamIds := by
  refine compile_congr_clauses fun entry hgiven => clause_congr_user _ teamIds fun hkind => ?_
  have hnot := List.any_eq_false.1 h entry (List.mem_of_mem_filter hgiven)
  simpa [hkind] using hnot

theorem compile_congr_teamIds (h : needsTeamIds fields params = false) (user : Value) :
    compile fields params negated user teamIds = compile fields params negated user teamIds' := by
  refine compile_congr_clauses fun entry hgiven => clause_congr_teamIds _ user fun hkind => ?_
  obtain ⟨hmem, hpresent⟩ := List.mem_filter.1 hgiven
  exact List.any_eq_false.1 h entry hmem (by simpa [hkind] using hpresent)

/-! ## Queries of different lengths -/

/-- The clause of a field, the empty text if there is none. -/
def clauseText (params : Table String Value) (negated : List String) (user teamIds : Value)
    (entry : String × Field) : String :=
  (clause entry.2 (Value.fieldOf params entry.1) (negated.contains entry.1) user
    teamIds).toOption.getD ""

/-- Where no date is refused the query is the clauses of the fields that have a
parameter. -/
theorem compile_eq_clauseText (hvalid : ∀ date, ¬ FirstInvalid params fields date)
    (huser : user.IsUserIfAny) (hteams : teamIds.IsObjectIfAny) :
    compile fields params negated user teamIds =
      .ok (" ".intercalate
        ((given fields params).map (clauseText params negated user teamIds))) := by
  refine compile_eq_ok_iff.2 ⟨_, ?_, rfl⟩
  rw [Except.mapM_eq_ok_iff, List.forall₂_map_right_iff, List.forall₂_same]
  intro entry hgiven
  obtain ⟨text, htext⟩ :=
    exists_clause_of_valid huser hteams hvalid (negated.contains entry.1) hgiven
  rw [clauseText, htext]
  rfl

/-- How long texts with spaces between are. -/
theorem length_intercalate_cons (text : String) (texts : List String) :
    (" ".intercalate (text :: texts)).length =
      text.length + if texts = [] then 0 else 1 + (" ".intercalate texts).length := by
  cases texts with
  | nil => rfl
  | cons next rest =>
    have hblank : (" " : String).length = 1 := rfl
    rw [String.intercalate_cons_cons, String.length_append, String.length_append, hblank,
      if_neg (List.cons_ne_nil next rest), Nat.add_assoc]

/-- Texts of which none is shorter make no shorter text with spaces between. -/
theorem length_intercalate_le {α : Type} {f g : α → String} {l : List α}
    (hle : ∀ a ∈ l, (f a).length ≤ (g a).length) :
    (" ".intercalate (l.map f)).length ≤ (" ".intercalate (l.map g)).length := by
  induction l with
  | nil => exact Nat.le_refl _
  | cons a l ih =>
    have hhead := hle a List.mem_cons_self
    have hrest := ih fun b hb => hle b (List.mem_cons_of_mem a hb)
    simp only [List.map_cons, length_intercalate_cons, List.map_eq_nil_iff]
    split <;> omega

/-- If one of them is longer they make a longer one. -/
theorem length_intercalate_lt {α : Type} {f g : α → String} {l : List α}
    (hle : ∀ a ∈ l, (f a).length ≤ (g a).length) (hlt : ∃ a ∈ l, (f a).length < (g a).length) :
    (" ".intercalate (l.map f)).length < (" ".intercalate (l.map g)).length := by
  induction l with
  | nil =>
    obtain ⟨_, hmem, -⟩ := hlt
    cases hmem
  | cons a l ih =>
    have hhead := hle a List.mem_cons_self
    have hle' : ∀ b ∈ l, (f b).length ≤ (g b).length :=
      fun b hb => hle b (List.mem_cons_of_mem a hb)
    have hrest := length_intercalate_le hle'
    simp only [List.map_cons, length_intercalate_cons, List.map_eq_nil_iff]
    obtain ⟨b, hb, hb'⟩ := hlt
    rcases List.mem_cons.1 hb with rfl | hb
    · split <;> omega
    · have hlonger := ih hle' ⟨b, hb, hb'⟩
      rw [if_neg (List.ne_nil_of_mem hb), if_neg (List.ne_nil_of_mem hb)]
      omega

/-- **Queries differ** if the clauses of the one are nowhere longer than those of
the other, and somewhere shorter. -/
theorem exists_queries_ne (hdates : checkDates fields params = .ok ())
    (huser : user.IsUserIfAny) (hteams : teamIds.IsObjectIfAny) (huser' : user'.IsUserIfAny)
    (hteams' : teamIds'.IsObjectIfAny)
    (hle : ∀ entry ∈ given fields params, (clauseText params negated user teamIds entry).length ≤
      (clauseText params negated user' teamIds' entry).length)
    (hlt : ∃ entry ∈ given fields params,
      (clauseText params negated user teamIds entry).length <
        (clauseText params negated user' teamIds' entry).length) :
    ∃ query query', compile fields params negated user teamIds = .ok query ∧
      compile fields params negated user' teamIds' = .ok query' ∧ query ≠ query' := by
  have hvalid := checkDates_eq_ok_iff.1 hdates
  refine ⟨_, _, compile_eq_clauseText hvalid huser hteams,
    compile_eq_clauseText hvalid huser' hteams', fun heq => ?_⟩
  exact absurd (congrArg String.length heq) (Nat.ne_of_lt (length_intercalate_lt hle hlt))

/-- A user of whom a name is known. -/
def userNamed (name : String) : Value := .object [("mention_name", .text name)]

/-- One team of whom the id is known. -/
def teamLabelled (label id : String) : Value := .object [(label, .text id)]

theorem isUserIfAny_userNamed (name : String) : (userNamed name).IsUserIfAny :=
  fun _ => ⟨_, rfl, Value.isObjectIfAny_null⟩

theorem isObjectIfAny_teamLabelled (label id : String) : (teamLabelled label id).IsObjectIfAny :=
  Value.isObjectIfAny_object _

/-- The word for the current user stands for their name. -/
theorem clause_userNamed {field : Field} {v : Value} {name : String} (inverted : Bool)
    (teamIds : Value) (hkind : field.kind = .user) (hme : isCurrentUser v = true)
    (hname : name ≠ "") :
    clause field v inverted (userNamed name) teamIds =
      .ok (negation inverted ++ field.operator ++ ":" ++ clauseValue (.text name)) := by
  have htruthy : Value.truthy (.text name) = true := by simpa [Value.truthy] using hname
  have hmention : mentionName (userNamed name) = .ok (.text name) := by
    rw [mentionName, userNamed]
    show Except.ok (Value.orElse (.text name) .null) = _
    rw [Value.orElse, if_pos htruthy]
  rw [clause, hkind]
  dsimp only
  rw [resolvedUser, if_pos hme, hmention]
  show Except.ok (_ ++ clauseValue (Value.orElse (.text name) v)) = _
  rw [Value.orElse, if_pos htruthy]

/-- The id that is known of a team is found under its label alone. -/
theorem teamId_teamLabelled {label id : String} (v : Value) :
    teamId (teamLabelled label id) v =
      .ok (if label == teamLabel v then .text id else .null) := by
  have htruthy : (teamLabelled label id).truthy = true := rfl
  rw [teamId, if_pos htruthy, teamLabelled, Value.field, Value.fieldOf, Table.get?]
  split <;> rfl

/-- A team is shown by its id. -/
theorem clause_teamLabelled {field : Field} {v : Value} {id : String} (inverted : Bool)
    (user : Value) (hkind : field.kind = .team) (hid : id ≠ "") :
    clause field v inverted user (teamLabelled (teamLabel v) id) =
      .ok (negation inverted ++ "group:" ++ id) := by
  have htruthy : Value.truthy (.text id) = true := by simpa [Value.truthy] using hid
  rw [clause, hkind]
  dsimp only
  rw [teamId_teamLabelled, if_pos BEq.rfl]
  show (if Value.truthy (.text id) = true then _ else _) = _
  rw [if_pos htruthy]
  rfl

/-- The id of a team has a part in the clauses of its label only. -/
theorem clause_congr_teamLabelled {field : Field} {v : Value} {label : String} (inverted : Bool)
    (user : Value) (id id' : String) (h : (label == teamLabel v) = false) :
    clause field v inverted user (teamLabelled label id) =
      clause field v inverted user (teamLabelled label id') := by
  rw [clause, clause]
  cases field.kind with
  | team => simp only [teamId_teamLabelled, h, Bool.false_eq_true, if_false]
  | _ => rfl

/-! ## What is looked up for a query -/

/-- What the two forecasts are worth: a look-up that they leave out would have
changed nothing, and one that they ask for can change the query. -/
structure Foretells (fields : Fields) (params : Table String Value) (negated : List String) :
    Prop where
  /-- Where the current user is not needed, any two make the same of the search. -/
  user_unneeded : needsCurrentUser fields params = false → ∀ user user' teamIds,
    compile fields params negated user teamIds = compile fields params negated user' teamIds
  /-- Where the ids of teams are not needed, any two make the same of it. -/
  teams_unneeded : needsTeamIds fields params = false → ∀ user teamIds teamIds',
    compile fields params negated user teamIds = compile fields params negated user teamIds'
  /-- Where the current user is needed, there are two with different queries. -/
  user_needed : checkDates fields params = .ok () → needsCurrentUser fields params = true →
    ∀ teamIds : Value, teamIds.IsObjectIfAny →
      ∃ user user' : Value, user.IsUserIfAny ∧ user'.IsUserIfAny ∧
        ∃ query query', compile fields params negated user teamIds = .ok query ∧
          compile fields params negated user' teamIds = .ok query' ∧ query ≠ query'
  /-- Where the ids of teams are needed, there are two with different queries. -/
  teams_needed : checkDates fields params = .ok () → needsTeamIds fields params = true →
    ∀ user : Value, user.IsUserIfAny →
      ∃ teamIds teamIds' : Value, teamIds.IsObjectIfAny ∧ teamIds'.IsObjectIfAny ∧
        ∃ query query', compile fields params negated user teamIds = .ok query ∧
          compile fields params negated user teamIds' = .ok query' ∧ query ≠ query'

/-- A longer name of the current user makes a longer query. -/
theorem exists_queries_of_users (hdates : checkDates fields params = .ok ())
    (hneeds : needsCurrentUser fields params = true) (hteams : teamIds.IsObjectIfAny) :
    ∃ query query', compile fields params negated (userNamed "a") teamIds = .ok query ∧
      compile fields params negated (userNamed "ab") teamIds = .ok query' ∧ query ≠ query' := by
  have hshorter {entry : String × Field} (hkind : entry.2.kind = .user)
      (hme : isCurrentUser (Value.fieldOf params entry.1) = true) :
      (clauseText params negated (userNamed "a") teamIds entry).length <
        (clauseText params negated (userNamed "ab") teamIds entry).length := by
    rw [clauseText, clauseText, clause_userNamed _ _ hkind hme (by decide),
      clause_userNamed _ _ hkind hme (by decide)]
    have hvalues : (clauseValue (.text "a")).length < (clauseValue (.text "ab")).length := by
      decide
    simpa [Except.toOption, String.length_append] using hvalues
  refine exists_queries_ne hdates (isUserIfAny_userNamed _) hteams (isUserIfAny_userNamed _) hteams
    (fun entry _ => ?_) ?_
  · by_cases hnames : entry.2.kind = .user ∧ isCurrentUser (Value.fieldOf params entry.1) = true
    · exact Nat.le_of_lt (hshorter hnames.1 hnames.2)
    · refine Nat.le_of_eq ?_
      rw [clauseText, clauseText, clause_congr_user]
      exact fun hkind => Bool.eq_false_iff.2 fun hme => hnames ⟨hkind, hme⟩
  · obtain ⟨entry, hmem, hkind, hme⟩ := needsCurrentUser_iff.1 hneeds
    refine ⟨entry, List.mem_filter.2 ⟨hmem, ?_⟩, hshorter hkind (isCurrentUser_iff.2 hme)⟩
    show (!isAbsent (Value.fieldOf params entry.1)) = true
    rw [hme]
    decide

/-- A longer id of a team makes a longer query. -/
theorem exists_queries_of_teams (hdates : checkDates fields params = .ok ())
    (huser : user.IsUserIfAny) {entry : String × Field} (hgiven : entry ∈ given fields params)
    (hkind : entry.2.kind = .team) {label : String}
    (hlabel : teamLabel (Value.fieldOf params entry.1) = label) :
    ∃ query query', compile fields params negated user (teamLabelled label "a") = .ok query ∧
      compile fields params negated user (teamLabelled label "ab") = .ok query' ∧
      query ≠ query' := by
  have hshorter {other : String × Field} (hkind : other.2.kind = .team)
      (hother : teamLabel (Value.fieldOf params other.1) = label) :
      (clauseText params negated user (teamLabelled label "a") other).length <
        (clauseText params negated user (teamLabelled label "ab") other).length := by
    rw [clauseText, clauseText, ← hother, clause_teamLabelled _ _ hkind (by decide),
      clause_teamLabelled _ _ hkind (by decide)]
    have hids : ("a" : String).length < ("ab" : String).length := by decide
    simpa [Except.toOption, String.length_append] using hids
  refine exists_queries_ne hdates huser (isObjectIfAny_teamLabelled _ _) huser
    (isObjectIfAny_teamLabelled _ _) (fun other _ => ?_) ⟨entry, hgiven, hshorter hkind hlabel⟩
  by_cases hteam : other.2.kind = .team
  · by_cases hsame : teamLabel (Value.fieldOf params other.1) = label
    · exact Nat.le_of_lt (hshorter hteam hsame)
    · refine Nat.le_of_eq ?_
      rw [clauseText, clauseText, clause_congr_teamLabelled]
      exact beq_false_of_ne (Ne.symm hsame)
  · refine Nat.le_of_eq ?_
    rw [clauseText, clauseText, clause_congr_teamIds _ _ hteam]

/-- **The forecasts are exact.** Leaving out a look-up that is not called for is
safe, and none that is called for is pointless. -/
theorem lookups_foretold (fields : Fields) (params : Table String Value) (negated : List String) :
    Foretells fields params negated where
  user_unneeded h user user' teamIds := compile_congr_user h teamIds
  teams_unneeded h user teamIds teamIds' := compile_congr_teamIds h user
  user_needed hdates hneeds teamIds hteams :=
    ⟨_, _, isUserIfAny_userNamed _, isUserIfAny_userNamed _,
      exists_queries_of_users hdates hneeds hteams⟩
  teams_needed hdates hneeds user huser := by
    obtain ⟨entry, hmem, hkind, hpresent⟩ := needsTeamIds_iff.1 hneeds
    have hgiven : entry ∈ given fields params :=
      List.mem_filter.2 ⟨hmem, congrArg not hpresent⟩
    exact ⟨_, _, isObjectIfAny_teamLabelled _ _, isObjectIfAny_teamLabelled _ _,
      exists_queries_of_teams hdates huser hgiven hkind rfl⟩

end Needs

/-- The search of the sample needs both look-ups, and each can change its
query. -/
theorem sample_lookups_foretold :
    needsCurrentUser storyFields Sample.params = true ∧
      needsTeamIds storyFields Sample.params = true ∧
      (∃ user user' : Value, user.IsUserIfAny ∧ user'.IsUserIfAny ∧ ∃ query query',
        compile storyFields Sample.params [] user Sample.teamIds = .ok query ∧
          compile storyFields Sample.params [] user' Sample.teamIds = .ok query' ∧
            query ≠ query') ∧
      ∃ teamIds teamIds' : Value, teamIds.IsObjectIfAny ∧ teamIds'.IsObjectIfAny ∧
        ∃ query query', compile storyFields Sample.params [] Sample.user teamIds = .ok query ∧
          compile storyFields Sample.params [] Sample.user teamIds' = .ok query' ∧
            query ≠ query' := by
  have hforetold := lookups_foretold storyFields Sample.params []
  exact ⟨by decide +kernel, by decide +kernel,
    hforetold.user_needed rfl (by decide +kernel) _ (Value.isObjectIfAny_object _),
    hforetold.teams_needed rfl (by decide +kernel) _ fun _ => ⟨_, rfl, Value.isObjectIfAny_null⟩⟩

end Query

end Backlog
