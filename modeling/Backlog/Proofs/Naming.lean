import Backlog.Proofs.Related
/-!
# Names agree with look-ups

The ids of an entity are collected before anything is looked up, and its name
fields are filled in afterwards. Both readings of the entity take the same ids:
whatever a name field shows was looked up (`Resolver.Returns.exists_lookup`), and
no field that is written later hides the name (`Hydrated.fieldShows_of_decorate`).
So each name is that of the entity found for its id (`Entity.NamedAs`), which
stands among the related entities, or the name that stands for no name.
-/

namespace Backlog

namespace Entity

/-! ## The name of an entity -/

/-- **What an entity has for a name.** -/
inductive HasName (kind : Kind) (fields : Table String Value) : Value → Prop where
  /-- A user is mentioned by the name in the profile, if there is one there. -/
  | profile {own : Table String Value} {v : Value} (huser : kind = .users)
      (hprofile : fields.get? "profile" = some (.object own))
      (hname : own.get? "mention_name" = some v) : HasName kind fields v
  /-- Otherwise the user has the name among the user's own fields. -/
  | mention {v : Value} (huser : kind = .users)
      (hnone : ∀ own : Table String Value, fields.get? "profile" = some (.object own) →
        own.get? "mention_name" = none)
      (hname : fields.get? "mention_name" = some v) : HasName kind fields v
  /-- What is no user has a plain name. -/
  | plain {v : Value} (hother : kind ≠ .users) (hname : fields.get? "name" = some v) :
      HasName kind fields v

/-- **How an entity is named** where others refer to it. -/
inductive NamedAs (kind : Kind) (fields : Table String Value) : String → Prop where
  /-- A user by the name for mentions, behind a sign for that. -/
  | mention {v : Value} (huser : kind = .users) (hname : HasName kind fields v)
      (hsome : v.truthy = true) : NamedAs kind fields ("@" ++ v.display)
  /-- Anything else by its name. -/
  | plain {v : Value} (hother : kind ≠ .users) (hname : HasName kind fields v)
      (hsome : v.truthy = true) : NamedAs kind fields v.display
  /-- What has no name, or one that counts as nothing, by its id. -/
  | id (hnone : ∀ v, HasName kind fields v → v.truthy = false) :
      NamedAs kind fields (Value.fieldOf fields "id").display

section

variable {kind : Kind} {fields : Table String Value} {v w : Value} {name name' : String}

theorem HasName.unique (h : HasName kind fields v) (h' : HasName kind fields w) : v = w := by
  cases h with
  | profile huser hprofile hname =>
    cases h' with
    | profile _ hprofile' hname' =>
      cases hprofile.symm.trans hprofile'
      exact Option.some.inj (hname.symm.trans hname')
    | mention _ hnone _ => cases hname.symm.trans (hnone _ hprofile)
    | plain hother _ => exact absurd huser hother
  | mention huser hnone hname =>
    cases h' with
    | profile _ hprofile hname' => cases hname'.symm.trans (hnone _ hprofile)
    | mention _ _ hname' => exact Option.some.inj (hname.symm.trans hname')
    | plain hother _ => exact absurd huser hother
  | plain hother hname =>
    cases h' with
    | profile huser _ _ => exact absurd huser hother
    | mention huser _ _ => exact absurd huser hother
    | plain _ hname' => exact Option.some.inj (hname.symm.trans hname')

/-- **An entity is named in one way only.** -/
theorem NamedAs.unique (h : NamedAs kind fields name) (h' : NamedAs kind fields name') :
    name = name' := by
  cases h with
  | mention huser hname hsome =>
    cases h' with
    | mention _ hname' _ => rw [hname.unique hname']
    | plain hother _ _ => exact absurd huser hother
    | id hnone => exact absurd (hnone _ hname) (ne_false_of_eq_true hsome)
  | plain hother hname hsome =>
    cases h' with
    | mention huser _ _ => exact absurd huser hother
    | plain _ hname' _ => rw [hname.unique hname']
    | id hnone => exact absurd (hnone _ hname) (ne_false_of_eq_true hsome)
  | id hnone =>
    cases h' with
    | mention _ hname hsome => exact absurd (hnone _ hname) (ne_false_of_eq_true hsome)
    | plain _ hname hsome => exact absurd (hnone _ hname) (ne_false_of_eq_true hsome)
    | id _ => rfl

/-- The fields that are read of a value are its own, or it has none and counts as
nothing. -/
theorem of_fields?_orNoFields {own : Table String Value} (h : v.orNoFields.fields? = .ok own) :
    v = .object own ∨ own = [] ∧ ∀ fields, v ≠ .object fields := by
  rw [Value.orNoFields, Value.orElse] at h
  split at h
  · exact .inl (Value.fields?_eq_ok_iff.1 h)
  · next hfalsy =>
    cases h
    cases v with
    | object fields =>
      have hempty : fields = [] := by simpa [Value.truthy] using hfalsy
      exact .inl (congrArg Value.object hempty)
    | atom a => exact .inr ⟨rfl, fun _ h => by cases h⟩
    | list items => exact .inr ⟨rfl, fun _ h => by cases h⟩

/-- A user's profile, if the fields that are read for it are its own. -/
theorem profile_of_fields?_orNoFields {own : Table String Value}
    (h : (Value.fieldOf fields "profile").orNoFields.fields? = .ok own) :
    fields.get? "profile" = some (.object own) ∨
      own = [] ∧ ∀ other, fields.get? "profile" ≠ some (.object other) := by
  rw [Value.fieldOf] at h
  cases hget : fields.get? "profile" with
  | none =>
    rw [hget] at h
    cases h
    exact .inr ⟨rfl, fun _ h => by cases h⟩
  | some v =>
    rw [hget, Option.getD_some] at h
    exact (of_fields?_orNoFields h).imp (congrArg some)
      (And.imp_right fun hnone other heq => hnone other (Option.some.inj heq))

/-- What a user has for a name stands in the profile, or else among the own fields. -/
theorem hasName_users_iff {own : Table String Value}
    (h : (Value.fieldOf fields "profile").orNoFields.fields? = .ok own) :
    HasName .users fields v ↔
      (own.get? "mention_name").or (fields.get? "mention_name") = some v := by
  constructor
  · rintro (⟨-, hprofile, hname⟩ | ⟨-, hnone, hname⟩ | ⟨hother, -⟩)
    · rcases profile_of_fields?_orNoFields h with hown | ⟨-, hno⟩
      · cases hown.symm.trans hprofile
        rw [hname, Option.some_or]
      · exact absurd hprofile (hno _)
    · rcases profile_of_fields?_orNoFields h with hown | ⟨rfl, -⟩
      · rw [hnone own hown, hname, Option.none_or]
      · exact hname
    · exact absurd rfl hother
  · intro hname
    rcases profile_of_fields?_orNoFields h with hown | ⟨rfl, hno⟩
    · cases hmention : own.get? "mention_name" with
      | some w =>
        rw [hmention, Option.some_or] at hname
        exact .profile rfl hown (hmention.trans hname)
      | none =>
        rw [hmention, Option.none_or] at hname
        refine .mention rfl (fun other hother => ?_) hname
        cases hown.symm.trans hother
        exact hmention
    · exact .mention rfl (fun other hother => absurd hother (hno other)) hname

theorem hasName_iff (h : kind ≠ .users) : HasName kind fields v ↔ fields.get? "name" = some v := by
  constructor
  · rintro (⟨huser, -, -⟩ | ⟨huser, -, -⟩ | ⟨-, hname⟩)
    · exact absurd huser h
    · exact absurd huser h
    · exact hname
  · exact .plain h

/-- A name that is read, null for none, counts as something and is the entity's, or
the entity has none that does. -/
theorem hasName_or_falsy {read : Option Value}
    (hread : ∀ v, HasName kind fields v ↔ read = some v) :
    HasName kind fields (read.getD .null) ∧ (read.getD .null).truthy = true ∨
      (read.getD .null).truthy = false ∧ ∀ v, HasName kind fields v → v.truthy = false := by
  cases read with
  | none =>
    refine .inr ⟨rfl, fun v hv => ?_⟩
    cases (hread v).1 hv
  | some w =>
    rw [Option.getD_some]
    cases htruthy : w.truthy with
    | true => exact .inl ⟨(hread w).2 rfl, rfl⟩
    | false =>
      refine .inr ⟨rfl, fun v hv => ?_⟩
      cases (hread v).1 hv
      exact htruthy

/-- **The name that an entity is shown by is the one that it is named by.** -/
theorem namedAs_of_displayName {entity : Value} (h : displayName kind entity = .ok name) :
    ∃ fields, entity = .object fields ∧ NamedAs kind fields name := by
  obtain ⟨fields, hfields, h⟩ := Except.bind_eq_ok.1 h
  refine ⟨fields, Value.fields?_eq_ok_iff.1 hfields, ?_⟩
  by_cases huser : kind = .users
  · subst huser
    rw [if_pos rfl] at h
    obtain ⟨profile, hprofile, h⟩ := Except.bind_eq_ok.1 h
    have hmention : (profile.get? "mention_name").getD (Value.fieldOf fields "mention_name") =
        ((profile.get? "mention_name").or (fields.get? "mention_name")).getD .null := by
      rw [Value.fieldOf]
      cases profile.get? "mention_name" <;> rfl
    dsimp only at h
    rw [hmention] at h
    cases h
    rcases hasName_or_falsy fun v => hasName_users_iff hprofile with ⟨hname, hsome⟩ | ⟨hfalsy, hnone⟩
    · rw [if_pos hsome]
      exact .mention rfl hname hsome
    · rw [if_neg (ne_true_of_eq_false hfalsy)]
      exact .id hnone
  · rw [if_neg huser] at h
    cases h
    rw [Value.orElse]
    rcases hasName_or_falsy fun v => hasName_iff huser with ⟨hname, hsome⟩ | ⟨hfalsy, hnone⟩
    · rw [← Value.fieldOf] at hname hsome
      rw [if_pos hsome]
      exact .plain huser hname hsome
    · rw [← Value.fieldOf] at hfalsy
      rw [if_neg (ne_true_of_eq_false hfalsy)]
      exact .id hnone

end

end Entity

/-- Whether a value stands for no id: null or the empty text. -/
def Reference.IsBlank (v : Value) : Prop := v = .null ∨ v = .text ""

theorem Reference.isBlankId_iff {v : Value} : isBlankId v = true ↔ IsBlank v := by
  unfold isBlankId IsBlank
  split
  · simp
  · simp
  · next hnull htext =>
    simp only [Bool.false_eq_true, false_iff, not_or]
    exact ⟨hnull, htext ""⟩

theorem Reference.isBlankId_eq_false_iff {v : Value} : isBlankId v = false ↔ ¬IsBlank v := by
  rw [← isBlankId_iff, Bool.not_eq_true]

namespace Hydrated

/-! ## Names and what they are for -/

/-- **A name that agrees with the look-up of its id.** -/
inductive Names (result : Hydrated) (kind : Kind) (id : Atom) : String → Prop where
  /-- The entity was found: the name is its own, and it stands in its simplified
  shape among the related entities. -/
  | found {fields shaped : Table String Value} {name : String}
      (hlookup : (result.refs.ofKind kind).get? id = some (.found (.object fields)))
      (hname : Entity.NamedAs kind fields name)
      (hshape : Entity.shape kind (.object fields) false = .ok shaped)
      (hrelated : .object shaped ∈ (result.related.get? kind).getD []) :
      Names result kind id name
  /-- The entity was looked up and not found. -/
  | missing {lookup : Lookup} (hlookup : (result.refs.ofKind kind).get? id = some lookup)
      (hmissing : ∀ entity, lookup ≠ .found entity) : Names result kind id "[Unknown]"

/-- **Names for values in order**, one for each id among them. -/
inductive NamesEach (result : Hydrated) (kind : Kind) : List Value → List String → Prop where
  /-- No values have no names. -/
  | nil : NamesEach result kind [] []
  /-- What is no id is passed over. -/
  | blank {item : Value} {items : List Value} {names : List String}
      (hblank : Reference.IsBlank item) (hrest : NamesEach result kind items names) :
      NamesEach result kind (item :: items) names
  /-- An id has its name. -/
  | id {id : Atom} {name : String} {items : List Value} {names : List String}
      (hid : ¬Reference.IsBlank (.atom id)) (hname : Names result kind id name)
      (hrest : NamesEach result kind items names) :
      NamesEach result kind (.atom id :: items) (name :: names)

/-- **What a name field shows for the value of the field with the ids.** -/
inductive NamesField (result : Hydrated) (ref : Reference) : Value → Value → Prop where
  /-- A name for each id, in order. -/
  | many {v : Value} {items : List Value} {names : List String} (hmany : ref.many = true)
      (hitems : v.orNoItems.elements = .ok items)
      (hnames : NamesEach result ref.kind items names) : NamesField result ref v (.texts names)
  /-- The name for the one id. -/
  | one {id : Atom} {name : String} (hone : ref.many = false)
      (hid : ¬Reference.IsBlank (.atom id)) (hname : Names result ref.kind id name) :
      NamesField result ref (.atom id) (.text name)
  /-- Null for no id. -/
  | blank {v : Value} (hone : ref.many = false) (hblank : Reference.IsBlank v) :
      NamesField result ref v .null

/-! ### What a name is read off -/

section

variable {result : Hydrated} {kind : Kind} {id : Atom} {name name' : String}

/-- The name for what was found. -/
theorem Names.eq_of_found (h : Names result kind id name) {fields : Table String Value}
    (hlookup : (result.refs.ofKind kind).get? id = some (.found (.object fields)))
    (hname : Entity.NamedAs kind fields name') : name = name' := by
  cases h with
  | found hlookup' hname' _ _ =>
    cases hlookup'.symm.trans hlookup
    exact hname'.unique hname
  | missing hlookup' hmissing =>
    exact absurd (Option.some.inj (hlookup'.symm.trans hlookup)) (hmissing _)

/-- The name for what was not found. -/
theorem Names.eq_of_missing (h : Names result kind id name) {lookup : Lookup}
    (hlookup : (result.refs.ofKind kind).get? id = some lookup)
    (hmissing : ∀ entity, lookup ≠ .found entity) : name = "[Unknown]" := by
  cases h with
  | found hlookup' _ _ _ =>
    exact absurd (Option.some.inj (hlookup.symm.trans hlookup')) (hmissing _)
  | missing _ _ => rfl

/-- The name for the first of some ids, and those for the others. -/
theorem NamesEach.of_id {items : List Value} {names : List String}
    (h : NamesEach result kind (.atom id :: items) names) (hid : ¬Reference.IsBlank (.atom id)) :
    ∃ name others, Names result kind id name ∧ NamesEach result kind items others ∧
      names = name :: others := by
  cases h with
  | blank hblank _ => exact absurd hblank hid
  | id _ hname hrest => exact ⟨_, _, hname, hrest, rfl⟩

/-- What the name field of a list of ids shows. -/
theorem NamesField.of_many {ref : Reference} {items : List Value} {shown : Value}
    (h : NamesField result ref (.list items) shown) (hmany : ref.many = true) :
    ∃ names, NamesEach result ref.kind items names ∧ shown = .texts names := by
  cases h with
  | many _ hitems hnames =>
    have hown : (Value.list items).orNoItems.elements = .ok items := by
      cases items <;> rfl
    cases hown.symm.trans hitems
    exact ⟨_, hnames, rfl⟩
  | blank hone _ => exact absurd (hone.symm.trans hmany) Bool.false_ne_true

/-- What the name field of one id shows. -/
theorem NamesField.of_one {ref : Reference} {names : Value}
    (h : NamesField result ref (.atom id) names) (hone : ref.many = false)
    (hid : ¬Reference.IsBlank (.atom id)) :
    ∃ name, Names result ref.kind id name ∧ names = .text name := by
  cases h with
  | many hmany _ _ => exact absurd (hone.symm.trans hmany) Bool.false_ne_true
  | one _ _ hname => exact ⟨_, hname, rfl⟩
  | blank _ hblank => exact absurd hblank hid

end

/-- Names for the ids that are left when the blank ones are passed over. -/
theorem namesEach_of_filter {result : Hydrated} {kind : Kind} {items : List Value}
    {names : List String} (h : (items.filter (!Reference.isBlankId ·)).Forall₂
      (fun item name => ∃ id, item = .atom id ∧ Names result kind id name) names) :
    NamesEach result kind items names := by
  induction items generalizing names with
  | nil =>
    cases h
    exact .nil
  | cons item rest ih =>
    rw [List.filter_cons] at h
    cases hblank : Reference.isBlankId item with
    | true =>
      rw [hblank, Bool.not_true, if_neg Bool.false_ne_true] at h
      exact .blank (Reference.isBlankId_iff.1 hblank) (ih h)
    | false =>
      rw [hblank, Bool.not_false, if_pos rfl] at h
      obtain ⟨name, others, ⟨id, rfl, hname⟩, hrest, rfl⟩ := List.forall₂_cons_left_iff.1 h
      exact .id (Reference.isBlankId_eq_false_iff.1 hblank) hname (ih hrest)

/-! ## Writing names -/

section

variable {kind : Kind} {entity : Value} {refs : Refs} {ref : Reference}
variable {shaped named : Table String Value}

/-- What a name field shows, for whatever is looked up. -/
def FieldShows (entity : Value) (refs : Refs) (ref : Reference) (named : Table String Value) :
    Prop :=
  entity.has ref.idField = .ok true → ∃ ids names, ref.ids entity = .ok ids ∧
    ids.mapM (refs.nameOf ref.kind) = .ok names ∧
    named.get? ref.nameField = some (shownNames ref names)

/-- Adding names writes one field at most. -/
theorem get?_addNames_of_ne (h : addNames entity refs shaped ref = .ok named) {name : String}
    (hne : ref.nameField ≠ name) : named.get? name = shaped.get? name := by
  obtain ⟨has, -, h⟩ := Except.bind_eq_ok.1 h
  split at h
  · obtain ⟨ids, -, h⟩ := Except.bind_eq_ok.1 h
    obtain ⟨names, -, h⟩ := Except.bind_eq_ok.1 h
    cases h
    rw [Table.get?_insert, if_neg (by simpa using hne)]
  · cases h
    rfl

/-- The field that it writes. -/
theorem fieldShows_of_addNames (h : addNames entity refs shaped ref = .ok named) :
    FieldShows entity refs ref named := by
  intro hpresent
  obtain ⟨has, hhas, h⟩ := Except.bind_eq_ok.1 h
  cases hhas.symm.trans hpresent
  obtain ⟨ids, hids, h⟩ := Except.bind_eq_ok.1 h
  obtain ⟨names, hnames, h⟩ := Except.bind_eq_ok.1 h
  cases h
  refine ⟨ids, names, hids, hnames, ?_⟩
  rw [Table.get?_insert, if_pos BEq.rfl]

/-- Adding the name of the state keeps what other fields show. -/
theorem get?_addStateName {workflows : Value}
    (h : addStateName kind entity refs workflows shaped = .ok named) {name : String}
    (hne : name ≠ "workflow_state_name") : named.get? name = shaped.get? name := by
  rw [addStateName] at h
  split at h
  · obtain ⟨has, -, h⟩ := Except.bind_eq_ok.1 h
    split at h
    · obtain ⟨state, -, h⟩ := Except.bind_eq_ok.1 h
      cases h
      rw [Table.get?_insert, if_neg (by simpa using hne.symm)]
    · cases h
      rfl
  · cases h
    rfl

/-- No two references share the field for their names, and none has that of the
state. -/
theorem nodup_nameFields (kind : Kind) :
    ("workflow_state_name" :: kind.references.map (·.nameField)).Nodup := by
  cases kind with
  | other given => exact List.nodup_singleton _
  | stories | epics | iterations | objectives | teams | workflows | users => decide

/-- **No name is hidden** by what is written after it. -/
theorem fieldShows_of_decorate {full : Bool} {workflows : Value}
    (h : decorate kind entity refs full workflows = .ok named) (href : ref ∈ kind.references) :
    FieldShows entity refs ref named := by
  obtain ⟨hstate, hnodup⟩ := List.nodup_cons.1 (nodup_nameFields kind)
  obtain ⟨shaped, -, h⟩ := Except.bind_eq_ok.1 h
  obtain ⟨filled, hfilled, h⟩ := Except.bind_eq_ok.1 h
  have hall : ∀ ref ∈ kind.references, FieldShows entity refs ref filled := by
    refine Except.foldlM_invariant (fun done filled => (done.map (·.nameField)).Nodup →
      ∀ ref ∈ done, FieldShows entity refs ref filled) ?_ hfilled ?_ hnodup
    · intro done filled next filled' hdone hstep hfields ref hmem
      rw [List.map_append, List.nodup_append] at hfields
      rcases List.mem_append.1 hmem with hmem | hmem
      · -- the next reference writes a field of its own, so this one stays
        intro hpresent
        obtain ⟨ids, names, hids, hnames, hget⟩ := hdone hfields.1 ref hmem hpresent
        have hne : next.nameField ≠ ref.nameField := fun heq =>
          hfields.2.2 _ (List.mem_map_of_mem hmem) _ List.mem_cons_self heq.symm
        exact ⟨ids, names, hids, hnames, (get?_addNames_of_ne hstep hne).trans hget⟩
      · cases List.mem_singleton.1 hmem
        exact fieldShows_of_addNames hstep
    · intro _ ref hmem
      cases hmem
  intro hpresent
  obtain ⟨ids, names, hids, hnames, hget⟩ := hall ref href hpresent
  have hne : ref.nameField ≠ "workflow_state_name" := fun heq =>
    hstate (heq ▸ List.mem_map_of_mem href)
  exact ⟨ids, names, hids, hnames, (get?_addStateName h hne).trans hget⟩

end

/-- Ids that were all looked up have the names that agree with it. -/
theorem namesField_of_ids {result : Hydrated} {ref : Reference} {entity : Value}
    {ids : List Value} {names : List String} (hids : ref.ids entity = .ok ids)
    (hnames : ids.Forall₂ (fun item name => ∃ id, item = .atom id ∧ Names result ref.kind id name)
      names) :
    ∃ v, entity.field ref.idField = .ok v ∧ NamesField result ref v (shownNames ref names) := by
  obtain ⟨v, hv, hids⟩ := Except.bind_eq_ok.1 hids
  refine ⟨v, hv, ?_⟩
  split at hids
  · next hmany =>
    have hshown : shownNames ref names = .texts names := if_pos hmany
    obtain ⟨items, hitems, hids⟩ := Except.bind_eq_ok.1 hids
    cases hids
    rw [hshown]
    exact .many hmany hitems (namesEach_of_filter hnames)
  · next hmany =>
    have hone : ref.many = false := Bool.eq_false_iff.2 hmany
    split at hids
    · next hblank =>
      cases hids
      cases hnames
      have hshown : shownNames ref [] = .null := if_neg hmany
      rw [hshown]
      exact .blank hone (Reference.isBlankId_iff.1 hblank)
    · next hid =>
      cases hids
      obtain ⟨name, -, ⟨id, rfl, hname⟩, hrest, rfl⟩ := List.forall₂_cons_left_iff.1 hnames
      have hshown : ∀ others, shownNames ref (name :: others) = .text name := fun _ => if_neg hmany
      rw [hshown]
      exact .one hone (fun hblank => hid (Reference.isBlankId_iff.2 hblank)) hname

end Hydrated

namespace Resolver

section

variable {options : Hydrated.Options} {remote : Remote} {s t : Session} {kind : Kind}
variable {primaries : List Value} {result : Hydrated}

/-! ## Every id was looked up -/

/-- **What a primary entity holds was looked up.** -/
theorem Returns.exists_lookup (h : Returns remote s kind primaries result t) {primary : Value}
    (hprimary : primary ∈ primaries) {ref : Reference} (href : ref ∈ kind.references) {id : Atom}
    (hid : id ∈ ref.held primary) :
    ∃ lookup, (result.refs.ofKind ref.kind).get? id = some lookup := by
  obtain ⟨ids, further, hdirect, -, hresolved⟩ := h.exists_resolved
  have hreferred : id ∈ IdsByKind.referenced kind primaries ref.kind :=
    List.mem_flatMap.2 ⟨primary, hprimary,
      List.mem_flatMap.2 ⟨ref, List.mem_filter.2 ⟨href, BEq.rfl⟩, hid⟩⟩
  have hkeys : (result.refs.ofKind ref.kind).keys.contains id = true := by
    rw [hresolved.keys_ofKind, hdirect, List.contains_append, Distinct.contains_eraseDups,
      Distinct.contains_of_mem hreferred, Bool.true_or]
  rw [← Table.contains_eq_contains_keys] at hkeys
  exact Table.contains_iff_exists.1 hkeys

/-- **What was found is shown** among the related entities. -/
theorem ReturnsWith.exists_shape (h : ReturnsWith options remote s kind primaries result t)
    {k : Kind} (hk : k ∈ Kind.lookedUp) {id : Atom} {entity : Value}
    (hget : (result.refs.ofKind k).get? id = some (.found entity)) :
    ∃ shaped, Entity.shape k entity false = .ok shaped ∧
      .object shaped ∈ (result.related.get? k).getD [] := by
  obtain ⟨_, _, -, -, hresolved⟩ := h.returns.exists_resolved
  have hshown := Hydrated.showsRefs_of_relatedEntities hresolved.distinct_kinds h.relatedEntities_eq
  rw [Refs.ofKind] at hget
  cases houtcomes : result.refs.lookups.get? k with
  | none =>
    rw [houtcomes] at hget
    cases hget
  | some outcomes =>
    rw [houtcomes, Option.getD_some] at hget
    obtain ⟨own, hentry, hown⟩ := Table.exists_mem_of_get?_eq_some houtcomes
    have hlookedUp := (hresolved.of_mem_kinds (List.mem_map.2 ⟨_, hentry, rfl⟩)).1
    cases Kind.eq_of_beq_of_mem_lookedUp hlookedUp hk hown
    obtain ⟨id', hmem, -⟩ := Table.exists_mem_of_get?_eq_some hget
    exact (hshown.entries _ _ hentry).exists_shape hmem

/-- The name of an id that a primary entity holds agrees with its look-up. -/
theorem ReturnsWith.names_of_nameOf (h : ReturnsWith options remote s kind primaries result t)
    {primary : Value} (hprimary : primary ∈ primaries) {ref : Reference}
    (href : ref ∈ kind.references) {id : Atom} (hid : id ∈ ref.held primary) {name : String}
    (hname : result.refs.nameOf ref.kind (.atom id) = .ok name) :
    Hydrated.Names result ref.kind id name := by
  obtain ⟨lookup, hlookup⟩ := h.returns.exists_lookup hprimary href hid
  have hget : result.refs.get ref.kind id = lookup := by
    rw [Refs.get, hlookup, Option.getD_some]
  cases hmissing : lookup.isMissing with
  | true =>
    rw [Refs.nameOf_of_isMissing (hget ▸ hmissing)] at hname
    cases hname
    refine .missing hlookup ?_
    rintro entity rfl
    cases hmissing
  | false =>
    cases lookup with
    | found entity =>
      rw [Refs.nameOf_of_found hget] at hname
      obtain ⟨fields, rfl, hnamed⟩ := Entity.namedAs_of_displayName hname
      obtain ⟨shaped, hshape, hrelated⟩ := h.exists_shape (Kind.kind_mem_lookedUp href) hlookup
      exact .found hlookup hnamed hshape hrelated
    | notFound own => cases hmissing
    | failure own error => cases hmissing

/-- The names of all ids that a field of a primary entity holds. -/
theorem ReturnsWith.names_of_mapM (h : ReturnsWith options remote s kind primaries result t)
    {primary : Value} (hprimary : primary ∈ primaries) {ref : Reference}
    (href : ref ∈ kind.references) {ids : List Value} (hids : ref.ids primary = .ok ids)
    {names : List String} (hnames : ids.mapM (result.refs.nameOf ref.kind) = .ok names) :
    ids.Forall₂ (fun item name =>
      ∃ id, item = .atom id ∧ Hydrated.Names result ref.kind id name) names := by
  have hpairs : ids.Forall₂ (fun item name => item ∈ ids ∧
      result.refs.nameOf ref.kind item = .ok name) names :=
    (List.forall₂_and_left _ _).2 ⟨fun _ hitem => hitem, Except.mapM_eq_ok_iff.1 hnames⟩
  refine hpairs.imp fun item name ⟨hitem, hname⟩ => ?_
  obtain ⟨id, hid, hname'⟩ := Except.bind_eq_ok.1 hname
  cases item with
  | list items => cases hid
  | object fields => cases hid
  | atom own =>
    have hheld : own ∈ ref.held primary := (Reference.mem_held_iff hids).2 hitem
    exact ⟨own, rfl, h.names_of_nameOf hprimary href hheld hname⟩

/-! ## The names of a batch -/

/-- Decorated entities are objects. -/
theorem exists_map_object_of_decorateAll {refs : Refs} {full : Bool} {workflows : Value}
    {values : List Value}
    (h : Hydrated.decorateAll kind primaries refs full workflows = .ok values) :
    ∃ shown : List (Table String Value),
      primaries.Forall₂ (fun primary fields =>
        Hydrated.decorate kind primary refs full workflows = .ok fields) shown ∧
      values = shown.map .object := by
  have hall := Except.mapM_eq_ok_iff.1 h
  clear h
  induction hall with
  | nil => exact ⟨[], .nil, rfl⟩
  | cons hstep _ ih =>
    obtain ⟨fields, hfields, hvalue⟩ := Except.bind_eq_ok.1 hstep
    cases hvalue
    obtain ⟨others, hothers, rfl⟩ := ih
    exact ⟨fields :: others, .cons hfields hothers, rfl⟩

/-- **Names agree with look-ups.** A call for a list of entities that returns
shows one entry for each, in order: the decorated entity. For every reference of
the kind whose field the entity has, the name field shows a name for each id
that is not blank, or null for no id, and each name is that of the entity found
for the id, which is shown among the related entities, or the unknown name when
the look-up found none. No id goes without a look-up. -/
theorem names_agree_with_lookups
    (h : resolveMany kind primaries options remote s = (.ok result, t)) :
    ∃ shown, result.primary = .list (shown.map .object) ∧
      primaries.Forall₂ (fun primary fields =>
        Hydrated.decorate kind primary result.refs options.full
            (.list t.caches.workflows.values) = .ok fields ∧
          ∀ ref ∈ kind.references, primary.has ref.idField = .ok true →
            ∃ v names, primary.field ref.idField = .ok v ∧
              fields.get? ref.nameField = some names ∧
              Hydrated.NamesField result ref v names) shown := by
  obtain ⟨refs, hbuild⟩ := exists_build_of_run h
  obtain ⟨⟨values, hvalues, hprimary⟩, -⟩ := Hydrated.of_ofMany hbuild
  rw [← Hydrated.refs_ofMany hbuild] at hvalues
  obtain ⟨shown, hshown, rfl⟩ := exists_map_object_of_decorateAll hvalues
  have hpairs : primaries.Forall₂ (fun primary fields => primary ∈ primaries ∧
      Hydrated.decorate kind primary result.refs options.full
        (.list t.caches.workflows.values) = .ok fields) shown :=
    (List.forall₂_and_left _ _).2 ⟨fun _ hmem => hmem, hshown⟩
  refine ⟨shown, hprimary, hpairs.imp fun primary fields ⟨hmem, hdecorate⟩ => ?_⟩
  refine ⟨hdecorate, fun ref href hpresent => ?_⟩
  obtain ⟨ids, names, hids, hnames, hget⟩ :=
    Hydrated.fieldShows_of_decorate hdecorate href hpresent
  have hagree := (ReturnsWith.many h).names_of_mapM hmem href hids hnames
  obtain ⟨v, hv, hfield⟩ := Hydrated.namesField_of_ids hids hagree
  exact ⟨v, _, hv, hget, hfield⟩

/-- The owner of a story has the name for mentions and its team the plain one. What
has no name is shown by its id, and what is not there as unknown. -/
theorem names_owners_team_and_epic :
    (∃ (result : Hydrated) (fields : Table String Value),
      resolveMany .stories [Sample.owned] {} Sample.remote Sample.staffed =
        (.ok result, Sample.staffedAfter) ∧
      result.primary = .list [.object fields] ∧
      fields.get? "owner_names" = some (Value.texts ["@ann", "[Unknown]"]) ∧
      fields.get? "team_name" = some (Value.text "Side")) ∧
    ∃ (result : Hydrated) (fields : Table String Value),
      resolveMany .stories [Sample.story] {} Sample.remote Sample.session =
        (.ok result, Sample.after) ∧
      result.primary = .list [.object fields] ∧
      fields.get? "team_name" = some (Value.text "t") ∧
      fields.get? "epic_name" = some (Value.text "[Unknown]") := by
  constructor
  · obtain ⟨result, hrefs, hrun⟩ := Sample.exists_resolveMany_staffed
    obtain ⟨shown, hprimary, hshown⟩ := names_agree_with_lookups hrun
    obtain ⟨fields, others, ⟨-, hfields⟩, hnone, rfl⟩ := List.forall₂_cons_left_iff.1 hshown
    cases hnone
    refine ⟨result, fields, hrun, hprimary, ?_, ?_⟩
    · obtain ⟨v, shown, hv, hget, hfield⟩ := hfields .owners (by simp [Kind.references]) rfl
      cases hv
      obtain ⟨names, hnames, rfl⟩ := hfield.of_many rfl
      obtain ⟨owner, others, howner, hothers, rfl⟩ := hnames.of_id (by simp [Reference.IsBlank])
      obtain ⟨other, nobody, hother, hnobody, rfl⟩ := hothers.of_id (by simp [Reference.IsBlank])
      cases hnobody
      have hann : (result.refs.ofKind .users).get? (.text "u") = some (.found Sample.ann) := by
        rw [hrefs]
        rfl
      have hunknown : (result.refs.ofKind .users).get? (.text "w") =
          some (.notFound (.text "w")) := by
        rw [hrefs]
        rfl
      refine hget.trans ?_
      rw [howner.eq_of_found hann (.mention rfl (.profile rfl rfl rfl) rfl),
        hother.eq_of_missing hunknown fun _ h => by cases h]
      rfl
    · obtain ⟨v, shown, hv, hget, hfield⟩ := hfields .team (by simp [Kind.references]) rfl
      cases hv
      obtain ⟨name, hname, rfl⟩ := hfield.of_one rfl (by simp [Reference.IsBlank])
      have hside : (result.refs.ofKind .teams).get? (.text "s") = some (.found Sample.side) := by
        rw [hrefs]
        rfl
      refine hget.trans ?_
      rw [hname.eq_of_found hside (.plain (by decide) (.plain (by decide) rfl) rfl)]
      rfl
  · obtain ⟨result, hrefs, hrun⟩ := Sample.exists_resolveMany false
    obtain ⟨shown, hprimary, hshown⟩ := names_agree_with_lookups hrun
    obtain ⟨fields, others, ⟨-, hfields⟩, hnone, rfl⟩ := List.forall₂_cons_left_iff.1 hshown
    cases hnone
    refine ⟨result, fields, hrun, hprimary, ?_, ?_⟩
    · obtain ⟨v, shown, hv, hget, hfield⟩ := hfields .team (by simp [Kind.references]) rfl
      cases hv
      obtain ⟨name, hname, rfl⟩ := hfield.of_one rfl (by simp [Reference.IsBlank])
      have hteam : (result.refs.ofKind .teams).get? (.text "t") = some (.found Sample.team) := by
        rw [hrefs]
        rfl
      refine hget.trans ?_
      rw [hname.eq_of_found hteam (.id ?_)]
      · rfl
      · intro v hv
        cases (Entity.hasName_iff (by decide : Kind.teams ≠ .users)).1 hv
    · obtain ⟨v, shown, hv, hget, hfield⟩ := hfields .epic (by simp [Kind.references]) rfl
      cases hv
      obtain ⟨name, hname, rfl⟩ := hfield.of_one rfl (by simp [Reference.IsBlank])
      have hepic : (result.refs.ofKind .epics).get? Sample.epic =
          some (.notFound Sample.epic) := by
        rw [hrefs]
        rfl
      refine hget.trans ?_
      rw [hname.eq_of_missing hepic fun _ h => by cases h]

end

end Resolver

end Backlog
