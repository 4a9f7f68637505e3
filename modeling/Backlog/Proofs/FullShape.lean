import Backlog.Proofs.Batch
import Backlog.Proofs.Naming
/-!
# The full and the simplified shape of one entity

A primary entity is decorated in its full or in its simplified shape. The names
that are written beside its ids depend on the entity and the look-ups and not
on the shape (`Hydrated.decorate_eq`), so both shapes show the same names;
the other fields of the simplified shape are those of the full one, with the
lists within reduced (`Hydrated.FormsAgree`). What is looked up on the way does not
depend on the shape either (`Resolver.full_and_simplified_agree`). Six kinds have
both shapes; users have a shape of their own, and what is none of the seven kinds
has no simplified one.
-/

namespace Backlog

/-- The kinds with chosen fields: all seven but users. -/
def Kind.simplified : List Kind :=
  [.stories, .epics, .iterations, .objectives, .teams, .workflows]

namespace Entity

/-! ## Renamed fields -/

/-- The fields that are shown under a name. The type of an entity never is. -/
def shownAs (fields : Table String Value) (name : String) : Table String Value :=
  fields.filter fun (own, _) => own != "entity_type" && shownName own == name

variable {fields : Table String Value} {name own : String} {v : Value}

theorem mem_shownAs_iff :
    (own, v) ∈ shownAs fields name ↔
      (own, v) ∈ fields ∧ own ≠ "entity_type" ∧ shownName own = name := by
  simp [shownAs]

/-- What is read of renamed fields stands in a field shown under the name. -/
theorem exists_mem_shownAs_of_get?_renamed (h : (renamed fields).get? name = some v) :
    ∃ own, (own, v) ∈ shownAs fields name := by
  rw [renamed, Table.get?_ofList, Option.map_eq_some_iff] at h
  obtain ⟨⟨shown, w⟩, hfind, rfl⟩ := h
  obtain ⟨⟨own, w'⟩, hown, heq⟩ :=
    List.mem_map.1 (List.mem_reverse.1 (List.mem_of_find?_eq_some hfind))
  cases heq
  have hname := List.find?_some hfind
  obtain ⟨hmem, hhidden⟩ := List.mem_filter.1 hown
  refine ⟨own, mem_shownAs_iff.2 ⟨hmem, fun htype => ?_, by simpa using hname⟩⟩
  simp [isHidden, htype] at hhidden

/-- A field that is shown is read. -/
theorem exists_get?_renamed_of_mem (h : (own, v) ∈ shownAs fields name) :
    ∃ w, (renamed fields).get? name = some w := by
  obtain ⟨hmem, hhidden, hshown⟩ := mem_shownAs_iff.1 h
  rw [renamed, Table.get?_ofList]
  refine Option.isSome_iff_exists.1 ?_
  rw [Option.isSome_map, List.find?_isSome]
  refine ⟨(shownName own, v), List.mem_reverse.2 (List.mem_map.2 ⟨(own, v), ?_, rfl⟩), ?_⟩
  · exact List.mem_filter.2 ⟨hmem, by simp [isHidden, hhidden]⟩
  · exact beq_iff_eq.2 hshown

/-- A field that is shown under a name of its own is read as it is. -/
theorem get?_renamed_of_shownAs_eq (h : shownAs fields name = [(own, v)]) :
    (renamed fields).get? name = some v := by
  have hmem : (own, v) ∈ shownAs fields name := by
    rw [h]
    exact List.mem_cons_self
  obtain ⟨w, hw⟩ := exists_get?_renamed_of_mem hmem
  obtain ⟨other, hother⟩ := exists_mem_shownAs_of_get?_renamed hw
  rw [h, List.mem_singleton, Prod.mk.injEq] at hother
  rw [hw, hother.2]

/-- No field is shown under the name of the hidden one. -/
theorem shownAs_entity_type : shownAs fields "entity_type" = [] := by
  refine List.eq_nil_iff_forall_not_mem.2 fun ⟨own, v⟩ hmem => ?_
  obtain ⟨-, hhidden, hshown⟩ := mem_shownAs_iff.1 hmem
  unfold shownName at hshown
  split at hshown
  · exact absurd hshown (by decide)
  · exact absurd hshown (by decide)
  · exact absurd hshown (by decide)
  · exact hhidden hshown

/-! ## Chosen fields -/

/-- Six kinds have chosen fields. -/
theorem exists_simplifiedFields? {kind : Kind} (hkind : kind ∈ Kind.simplified) :
    kind ≠ .users ∧ ∃ names, simplifiedFields? kind = some names := by
  revert kind
  simp only [Kind.simplified, List.forall_mem_cons]
  exact ⟨⟨nofun, _, rfl⟩, ⟨nofun, _, rfl⟩, ⟨nofun, _, rfl⟩, ⟨nofun, _, rfl⟩, ⟨nofun, _, rfl⟩,
    ⟨nofun, _, rfl⟩, List.forall_mem_nil _⟩

/-- What is none of the seven kinds has one shape. -/
theorem shape_other (given : Atom) (entity : Value) (full : Bool) :
    shape (.other given) entity full = entity.fields?.map renamed := by
  cases full <;> rfl

/-- The chosen fields that an object has, simplified. -/
theorem chosenFields_object (fields : Table String Value) (names : List String) :
    chosenFields (.object fields) names = .ok (names.filterMap fun name =>
      (fields.get? name).map fun v => (name, simplifiedValue name v)) := by
  induction names with
  | nil => rfl
  | cons name rest ih =>
    rw [chosenFields, Value.has, Value.required, Table.contains, ih, List.filterMap_cons]
    cases fields.get? name <;> rfl

/-- A field is reduced under its own name as under the one it is shown by. -/
theorem simplifiedValue_shownName (own : String) (v : Value) :
    simplifiedValue (shownName own) v = simplifiedValue own v := by
  unfold shownName
  split
  · cases v <;> rfl
  · cases v <;> rfl
  · cases v <;> rfl
  · rfl

/-- **The simplified shape of an object** shows fields of the object, reduced, under
the names that the full shape has for them. -/
theorem exists_shape_object {kind : Kind} (hkind : kind ∈ Kind.simplified)
    (fields : Table String Value) :
    ∃ shaped, shape kind (.object fields) false = .ok shaped ∧
      ∀ name v, shaped.get? name = some v →
        ∃ own w, (own, w) ∈ shownAs fields name ∧ v = simplifiedValue name w := by
  obtain ⟨husers, names, hnames⟩ := exists_simplifiedFields? hkind
  refine ⟨renamed (names.filterMap fun name =>
    (fields.get? name).map fun v => (name, simplifiedValue name v)), ?_, fun name v hv => ?_⟩
  · rw [shape, if_neg husers, hnames]
    simp only [Bool.false_eq_true, if_false, chosenFields_object]
    rfl
  · obtain ⟨own, hown⟩ := exists_mem_shownAs_of_get?_renamed hv
    obtain ⟨hchosen, htype, hshown⟩ := mem_shownAs_iff.1 hown
    obtain ⟨chosen, -, hchosen⟩ := List.mem_filterMap.1 hchosen
    obtain ⟨w, hw, heq⟩ := Option.map_eq_some_iff.1 hchosen
    cases heq
    obtain ⟨own', hmem, hown'⟩ := Table.exists_mem_of_get?_eq_some hw
    cases eq_of_beq hown'
    refine ⟨_, w, mem_shownAs_iff.2 ⟨hmem, htype, hshown⟩, ?_⟩
    rw [← hshown, simplifiedValue_shownName]

end Entity

namespace Hydrated

/-! ## Names, apart from the shape -/

/-- The field that the names of a reference are written to, with the names; none
if the entity does not have the ids. -/
def nameEntry (entity : Value) (refs : Refs) (ref : Reference) :
    Except Fault (List (String × Value)) := do
  if ← entity.has ref.idField then
    let ids ← ref.ids entity
    let names ← ids.mapM (refs.nameOf ref.kind)
    pure [(ref.nameField, shownNames ref names)]
  else pure []

/-- The field that the name of the workflow state of a story is written to, with
the name. -/
def stateEntry (kind : Kind) (entity : Value) (refs : Refs) (workflows : Value) :
    Except Fault (List (String × Value)) := do
  if kind = .stories then
    if ← entity.has "workflow_state_id" then
      let name ← stateName entity refs workflows
      pure [("workflow_state_name", name)]
    else pure []
  else pure []

/-- All fields with names that are written beside the ids of an entity. -/
def nameEntries (kind : Kind) (entity : Value) (refs : Refs) (workflows : Value) :
    Except Fault (List (String × Value)) := do
  let names ← kind.references.mapM (nameEntry entity refs)
  let state ← stateEntry kind entity refs workflows
  pure (names.flatten ++ state)

/-- The names of these fields. -/
def nameFields (kind : Kind) (fields : Table String Value) : List String :=
  ((kind.references.filter fun ref => fields.contains ref.idField).map (·.nameField)) ++
    if kind = .stories ∧ fields.contains "workflow_state_id" then ["workflow_state_name"] else []

/-- Writes entries into a table one after the other. -/
def write (shaped : Table String Value) (entries : List (String × Value)) : Table String Value :=
  entries.foldl (fun table entry => table.insert entry.1 entry.2) shaped

theorem write_append (shaped : Table String Value) (entries others : List (String × Value)) :
    write shaped (entries ++ others) = write (write shaped entries) others :=
  List.foldl_append

section

variable {kind : Kind} {entity : Value} {refs : Refs} {workflows : Value}

theorem addNames_eq (shaped : Table String Value) (ref : Reference) :
    addNames entity refs shaped ref = (nameEntry entity refs ref).map (write shaped) := by
  rw [addNames, nameEntry, Except.map_bind]
  refine congrArg _ (funext fun has => ?_)
  cases has with
  | false => rfl
  | true =>
    simp only [if_true, Except.map_bind]
    rfl

theorem addStateName_eq (shaped : Table String Value) :
    addStateName kind entity refs workflows shaped =
      (stateEntry kind entity refs workflows).map (write shaped) := by
  rw [addStateName, stateEntry]
  split
  · rw [Except.map_bind]
    refine congrArg _ (funext fun has => ?_)
    cases has with
    | false => rfl
    | true =>
      simp only [if_true, Except.map_bind]
      rfl
  · rfl

/-- Adding the names of references one after the other writes their entries. -/
theorem foldlM_addNames_eq (references : List Reference) (shaped : Table String Value) :
    references.foldlM (addNames entity refs) shaped =
      (references.mapM (nameEntry entity refs)).map fun names => write shaped names.flatten := by
  induction references generalizing shaped with
  | nil => rfl
  | cons ref rest ih =>
    rw [List.foldlM_cons, List.mapM_cons, addNames_eq]
    cases nameEntry entity refs ref with
    | error fault => rfl
    | ok names =>
      refine (ih _).trans ?_
      cases rest.mapM (nameEntry entity refs) with
      | error fault => rfl
      | ok others =>
        exact congrArg Except.ok (write_append shaped names others.flatten).symm

/-- **A decorated entity is its shape with the names written into it**, and the
names do not depend on the shape. -/
theorem decorate_eq (full : Bool) :
    decorate kind entity refs full workflows =
      Entity.shape kind entity full >>= fun shaped =>
        (nameEntries kind entity refs workflows).map (write shaped) := by
  rw [decorate, nameEntries]
  refine congrArg _ (funext fun shaped => ?_)
  rw [foldlM_addNames_eq, Except.map_bind]
  cases kind.references.mapM (nameEntry entity refs) with
  | error fault => rfl
  | ok names =>
    refine (addStateName_eq _).trans ?_
    cases stateEntry kind entity refs workflows with
    | error fault => rfl
    | ok state =>
      exact congrArg Except.ok (write_append shaped names.flatten state).symm

end

/-- A field that is written reads the same whatever it is written into. -/
theorem exists_get?_write {entries : List (String × Value)} {name : String}
    (h : name ∈ entries.map (·.1)) : ∃ v, ∀ shaped, (write shaped entries).get? name = some v := by
  obtain ⟨entry, hentry, rfl⟩ := List.mem_map.1 h
  have hfind : (entries.reverse.find? fun other => other.1 == entry.1).isSome := by
    rw [List.find?_isSome]
    exact ⟨entry, List.mem_reverse.2 hentry, BEq.rfl⟩
  obtain ⟨found, hfound⟩ := Option.isSome_iff_exists.1 hfind
  refine ⟨found.2, fun shaped => ?_⟩
  rw [write, Table.get?_foldl_insert, hfound]
  rfl

/-- A field that is not written reads what it read before. -/
theorem get?_write_of_not_mem {entries : List (String × Value)} {name : String}
    (h : name ∉ entries.map (·.1)) (shaped : Table String Value) :
    (write shaped entries).get? name = shaped.get? name := by
  rw [write, Table.get?_foldl_insert, List.find?_eq_none.2]
  · rfl
  · intro entry hentry heq
    exact h (List.mem_map.2 ⟨entry, List.mem_reverse.1 hentry, eq_of_beq heq⟩)

/-! ## Which names are written -/

section

variable {fields : Table String Value} {refs : Refs}

theorem map_fst_nameEntry {ref : Reference} {entries : List (String × Value)}
    (h : nameEntry (.object fields) refs ref = .ok entries) :
    entries.map (·.1) = if fields.contains ref.idField then [ref.nameField] else [] := by
  obtain ⟨_, ⟨⟩, h⟩ := Except.bind_eq_ok.1 h
  split at h
  · next hhas =>
    obtain ⟨ids, -, h⟩ := Except.bind_eq_ok.1 h
    obtain ⟨names, -, h⟩ := Except.bind_eq_ok.1 h
    cases h
    rw [if_pos hhas]
    rfl
  · next hhas =>
    cases h
    rw [if_neg hhas]
    rfl

theorem map_fst_flatten_nameEntry {references : List Reference}
    {entries : List (List (String × Value))}
    (h : references.mapM (nameEntry (.object fields) refs) = .ok entries) :
    entries.flatten.map (·.1) =
      (references.filter fun ref => fields.contains ref.idField).map (·.nameField) := by
  have hall := Except.mapM_eq_ok_iff.1 h
  clear h
  induction hall with
  | nil => rfl
  | cons hfirst _ ih =>
    rw [List.flatten_cons, List.map_append, ih, map_fst_nameEntry hfirst, List.filter_cons]
    split <;> rfl

theorem map_fst_stateEntry {kind : Kind} {workflows : Value} {entries : List (String × Value)}
    (h : stateEntry kind (.object fields) refs workflows = .ok entries) :
    entries.map (·.1) =
      if kind = .stories ∧ fields.contains "workflow_state_id" then ["workflow_state_name"]
      else [] := by
  rw [stateEntry] at h
  split at h
  · next hkind =>
    obtain ⟨_, ⟨⟩, h⟩ := Except.bind_eq_ok.1 h
    split at h
    · next hhas =>
      obtain ⟨name, -, h⟩ := Except.bind_eq_ok.1 h
      cases h
      rw [if_pos ⟨hkind, hhas⟩]
      rfl
    · next hhas =>
      cases h
      rw [if_neg fun hboth => hhas hboth.2]
      rfl
  · next hkind =>
    cases h
    rw [if_neg fun hboth => hkind hboth.1]
    rfl

/-- The names that are written are those beside the ids that the entity has. -/
theorem map_fst_nameEntries {kind : Kind} {workflows : Value} {entries : List (String × Value)}
    (h : nameEntries kind (.object fields) refs workflows = .ok entries) :
    entries.map (·.1) = nameFields kind fields := by
  obtain ⟨names, hnames, h⟩ := Except.bind_eq_ok.1 h
  obtain ⟨state, hstate, h⟩ := Except.bind_eq_ok.1 h
  cases h
  rw [List.map_append, map_fst_flatten_nameEntry hnames, map_fst_stateEntry hstate, nameFields]

end

/-! ## The two forms -/

/-- **The decorated forms of an entity agree**: the full one and the simplified
one, of an entity with these fields and this full shape. -/
structure FormsAgree (kind : Kind) (fields shaped full simplified : Table String Value) : Prop where
  /-- Every field but the type of the entity is in the full shape, under the name it
  is shown by, and stays there when the names are written. -/
  complete : ∀ own v, (own, v) ∈ fields → own ≠ "entity_type" →
    shaped.contains (Entity.shownName own) = true ∧ full.contains (Entity.shownName own) = true
  /-- The type is in neither. -/
  hidden : full.contains "entity_type" = false ∧ simplified.contains "entity_type" = false
  /-- The simplified form has no field that the full one lacks. -/
  within : ∀ name, simplified.contains name = true → full.contains name = true
  /-- Both show the same names. -/
  names : ∀ name ∈ nameFields kind fields,
    ∃ v, full.get? name = some v ∧ simplified.get? name = some v
  /-- Any other field that only one field of the entity is shown by has its value
  in the full form, and the reduced value in the simplified one. -/
  values : ∀ name, name ∉ nameFields kind fields →
    ∀ own w, Entity.shownAs fields name = [(own, w)] → full.get? name = some w ∧
      ∀ v, simplified.get? name = some v → v = Entity.simplifiedValue name w

/-- No name is written in place of the hidden field. -/
theorem entity_type_not_mem_nameFields (kind : Kind) (fields : Table String Value) :
    "entity_type" ∉ nameFields kind fields := by
  have hall : ∀ ref ∈ kind.references, ref.nameField ≠ "entity_type" := by
    cases kind with
    | other given => exact List.forall_mem_nil _
    | stories | epics | iterations | objectives | teams | workflows | users => decide
  intro h
  rcases List.mem_append.1 h with h | h
  · obtain ⟨ref, href, heq⟩ := List.mem_map.1 h
    exact hall ref (List.mem_filter.1 href).1 heq
  · split at h
    · exact absurd (List.mem_singleton.1 h) (by decide)
    · cases h

section

variable {kind : Kind} {fields : Table String Value} {entries : List (String × Value)}

/-- Every field that is shown stands in the full form, the names written into it or not. -/
theorem contains_write_renamed (hentries : entries.map (·.1) = nameFields kind fields)
    {name own : String} {w : Value} (hmem : (own, w) ∈ Entity.shownAs fields name) :
    (write (Entity.renamed fields) entries).contains name = true := by
  by_cases hname : name ∈ nameFields kind fields
  · obtain ⟨v, hv⟩ := exists_get?_write (hentries ▸ hname)
    exact Table.contains_iff_exists.2 ⟨v, hv _⟩
  · obtain ⟨v, hv⟩ := Entity.exists_get?_renamed_of_mem hmem
    exact Table.contains_iff_exists.2 ⟨v, (get?_write_of_not_mem (hentries ▸ hname) _).trans hv⟩

/-- What only has fields that are shown does not get the hidden one from the names. -/
theorem not_contains_entity_type (hentries : entries.map (·.1) = nameFields kind fields)
    {shaped : Table String Value}
    (hread : ∀ name v, shaped.get? name = some v →
      ∃ own w, (own, w) ∈ Entity.shownAs fields name) :
    (write shaped entries).contains "entity_type" = false := by
  have hname : "entity_type" ∉ entries.map (·.1) :=
    hentries ▸ entity_type_not_mem_nameFields kind fields
  rw [Table.contains_eq_false_iff, get?_write_of_not_mem hname]
  cases hget : shaped.get? "entity_type" with
  | none => rfl
  | some v =>
    obtain ⟨own, w, hmem⟩ := hread _ v hget
    rw [Entity.shownAs_entity_type] at hmem
    cases hmem

/-- What a simplified shape reads, and the names that are written into both,
decide how the forms agree. -/
theorem formsAgree_write {chosen : Table String Value}
    (hentries : entries.map (·.1) = nameFields kind fields)
    (hchosen : ∀ name v, chosen.get? name = some v → ∃ own w,
      (own, w) ∈ Entity.shownAs fields name ∧ v = Entity.simplifiedValue name w) :
    FormsAgree kind fields (Entity.renamed fields) (write (Entity.renamed fields) entries)
      (write chosen entries) := by
  have hsame : ∀ name ∈ nameFields kind fields, ∃ v,
      ∀ shaped, (write shaped entries).get? name = some v :=
    fun name hname => exists_get?_write (hentries ▸ hname)
  have hother : ∀ name ∉ nameFields kind fields, ∀ shaped : Table String Value,
      (write shaped entries).get? name = shaped.get? name :=
    fun name hname => get?_write_of_not_mem (hentries ▸ hname)
  refine ⟨?_, ⟨?_, ?_⟩, ?_, ?_, ?_⟩
  · intro own v hmem hhidden
    have hmem : (own, v) ∈ Entity.shownAs fields (Entity.shownName own) :=
      Entity.mem_shownAs_iff.2 ⟨hmem, hhidden, rfl⟩
    exact ⟨Table.contains_iff_exists.2 (Entity.exists_get?_renamed_of_mem hmem),
      contains_write_renamed hentries hmem⟩
  · exact not_contains_entity_type hentries fun name v hv =>
      (Entity.exists_mem_shownAs_of_get?_renamed hv).imp fun own hown => ⟨v, hown⟩
  · exact not_contains_entity_type hentries fun name v hv =>
      (hchosen name v hv).imp fun own hown => hown.imp fun w hw => hw.1
  · intro name hname
    by_cases hwritten : name ∈ nameFields kind fields
    · obtain ⟨v, hv⟩ := hsame name hwritten
      exact Table.contains_iff_exists.2 ⟨v, hv _⟩
    · obtain ⟨v, hv⟩ := Table.contains_iff_exists.1 hname
      rw [hother name hwritten] at hv
      obtain ⟨own, w, hmem, -⟩ := hchosen name v hv
      exact contains_write_renamed hentries hmem
  · intro name hname
    obtain ⟨v, hv⟩ := hsame name hname
    exact ⟨v, hv _, hv _⟩
  · intro name hname own w hone
    refine ⟨by rw [hother name hname, Entity.get?_renamed_of_shownAs_eq hone], fun v hv => ?_⟩
    rw [hother name hname] at hv
    obtain ⟨own', w', hmem, rfl⟩ := hchosen name v hv
    rw [hone, List.mem_singleton, Prod.mk.injEq] at hmem
    rw [hmem.2]

end

/-- **Decorating an object gives both forms or neither**, and the forms agree. -/
theorem exists_forms {kind : Kind} (hkind : kind ∈ Kind.simplified) (fields : Table String Value)
    (refs : Refs) (workflows : Value) :
    (∃ fault, ∀ full, decorate kind (.object fields) refs full workflows = .error fault) ∨
      ∃ full simplified, decorate kind (.object fields) refs true workflows = .ok full ∧
        decorate kind (.object fields) refs false workflows = .ok simplified ∧
        FormsAgree kind fields (Entity.renamed fields) full simplified := by
  obtain ⟨chosen, hshape, hchosen⟩ := Entity.exists_shape_object hkind fields
  have hfull : Entity.shape kind (.object fields) true = .ok (Entity.renamed fields) := rfl
  cases hentries : nameEntries kind (.object fields) refs workflows with
  | error fault =>
    refine .inl ⟨fault, fun full => ?_⟩
    rw [decorate_eq, hentries]
    cases full with
    | true => rw [hfull]; rfl
    | false => rw [hshape]; rfl
  | ok entries =>
    refine .inr ⟨_, _, ?_, ?_, formsAgree_write (map_fst_nameEntries hentries) hchosen⟩
    · rw [decorate_eq, hentries, hfull]
      rfl
    · rw [decorate_eq, hentries, hshape]
      rfl

end Hydrated

namespace Resolver

/-! ## What the shape has no part in -/

/-- **Two calls that differ in the shape of the primary entities** do the same:
they leave the same session, so they have made the same exchanges and left the
same caches, and when both return they show the same related entities. -/
structure ShapeIndifferent (full simplified : Except Fault Hydrated × Session) : Prop where
  /-- The session is the same. -/
  session : full.2 = simplified.2
  /-- The related entities are the same, and so is what was looked up. -/
  related : ∀ shown reduced, full.1 = .ok shown → simplified.1 = .ok reduced →
    shown.related = reduced.related ∧ shown.refs = reduced.refs

/-- What is built in the end has no part in what is looked up before. -/
theorem shapeIndifferent_of_build {kind : Kind} {primaries : List Value}
    {build build' : Refs → Value → Except Fault Hydrated}
    (hbuild : ∀ refs workflows shown reduced, build refs workflows = .ok shown →
      build' refs workflows = .ok reduced →
      shown.related = reduced.related ∧ shown.refs = reduced.refs)
    (remote : Remote) (s : Session) :
    ShapeIndifferent
      ((do
        let ids ← IdsByKind.ofEntities kind primaries
        let refs ← resolveRefs ids
        let workflows ← knownWorkflows
        build refs workflows : Action Hydrated) remote s)
      ((do
        let ids ← IdsByKind.ofEntities kind primaries
        let refs ← resolveRefs ids
        let workflows ← knownWorkflows
        build' refs workflows : Action Hydrated) remote s) := by
  cases hids : IdsByKind.ofEntities kind primaries with
  | error fault => exact ⟨rfl, fun shown reduced h => by cases h⟩
  | ok ids =>
    rcases hrefs : resolveRefs ids remote s with ⟨_ | refs, m⟩
    · rename_i fault
      have hstop : ∀ next : Refs → Action Hydrated,
          (resolveRefs ids >>= next) remote s = (.error fault, m) :=
        fun next => Run.bind_of_error next hrefs
      exact ⟨(congrArg Prod.snd (hstop _)).trans (congrArg Prod.snd (hstop _)).symm,
        fun shown reduced h => by cases (congrArg Prod.fst (hstop _)).symm.trans h⟩
    · have hgo : ∀ built : Refs → Value → Except Fault Hydrated,
          (resolveRefs ids >>= fun refs => knownWorkflows >>= fun workflows =>
            (liftM (built refs workflows) : Action Hydrated)) remote s =
          (built refs (.list m.caches.workflows.values), m) :=
        fun built => Run.bind_of_ok _ hrefs
      refine ⟨(congrArg Prod.snd (hgo build)).trans (congrArg Prod.snd (hgo build')).symm, ?_⟩
      intro shown reduced hshown hreduced
      exact hbuild refs _ shown reduced ((congrArg Prod.fst (hgo build)).symm.trans hshown)
        ((congrArg Prod.fst (hgo build')).symm.trans hreduced)

/-- **The full and the simplified form agree.** For every kind but users, every
object, look-ups and workflows: decorating it gives both forms or the same
fault, and the forms agree. What is none of the seven kinds has one form. And
whatever the kind, resolving what entities refer to is the same for both forms. -/
theorem full_and_simplified_agree :
    (∀ kind ∈ Kind.simplified, ∀ fields refs workflows,
      (∃ fault, ∀ full, Hydrated.decorate kind (.object fields) refs full workflows =
          .error fault) ∨
        ∃ shaped full simplified, Entity.shape kind (.object fields) true = .ok shaped ∧
          Hydrated.decorate kind (.object fields) refs true workflows = .ok full ∧
          Hydrated.decorate kind (.object fields) refs false workflows = .ok simplified ∧
          Hydrated.FormsAgree kind fields shaped full simplified) ∧
      (∀ given entity refs workflows,
        Hydrated.decorate (.other given) entity refs false workflows =
          Hydrated.decorate (.other given) entity refs true workflows) ∧
      ∀ kind primaries markUnknown remote s,
        ShapeIndifferent (resolveMany kind primaries ⟨true, markUnknown⟩ remote s)
          (resolveMany kind primaries ⟨false, markUnknown⟩ remote s) ∧
        ∀ primary, ShapeIndifferent (resolveOne kind primary ⟨true, markUnknown⟩ remote s)
          (resolveOne kind primary ⟨false, markUnknown⟩ remote s) := by
  refine ⟨fun kind hkind fields refs workflows => ?_, fun given entity refs workflows => ?_, ?_⟩
  · rcases Hydrated.exists_forms hkind fields refs workflows with hfault | ⟨full, simplified, h⟩
    · exact .inl hfault
    · exact .inr ⟨_, full, simplified, rfl, h⟩
  · rw [Hydrated.decorate_eq, Hydrated.decorate_eq, Entity.shape_other, Entity.shape_other]
  · intro kind primaries markUnknown remote s
    refine ⟨shapeIndifferent_of_build ?_ remote s,
      fun primary => shapeIndifferent_of_build ?_ remote s⟩
    · intro refs workflows shown reduced hshown hreduced
      have hrelated := (Hydrated.of_ofMany hshown).2.symm.trans (Hydrated.of_ofMany hreduced).2
      exact ⟨Except.ok.inj hrelated,
        (Hydrated.refs_ofMany hshown).trans (Hydrated.refs_ofMany hreduced).symm⟩
    · intro refs workflows shown reduced hshown hreduced
      have hrelated := (Hydrated.of_ofFirst hshown).2.symm.trans (Hydrated.of_ofFirst hreduced).2
      exact ⟨Except.ok.inj hrelated,
        (Hydrated.refs_ofFirst hshown).trans (Hydrated.refs_ofFirst hreduced).symm⟩

namespace Sample

/-- Labels, of which a simplified form keeps the names. -/
def labels : Value := .list [.object [("id", .int 1), ("name", .text "x")]]

/-- The fields of a story of a team. -/
def labelled : Table String Value :=
  [("entity_type", .text "story"), ("id", .int 5), ("group_id", .text "t"), ("labels", labels)]

/-- A story whose labels are reduced to their names, and whose team nobody
knows. -/
theorem labelled_forms_agree :
    Kind.stories ∈ Kind.simplified ∧ ∃ shaped full simplified,
      Hydrated.decorate .stories (.object labelled) {} true (.list []) = .ok full ∧
      Hydrated.decorate .stories (.object labelled) {} false (.list []) = .ok simplified ∧
      Hydrated.FormsAgree .stories labelled shaped full simplified ∧
      full.keys = ["id", "team_id", "labels", "team_name"] ∧
      full.get? "team_id" = some (.text "t") ∧ simplified.get? "team_id" = some (.text "t") ∧
      full.get? "team_name" = some (.text "[Unknown]") ∧
      simplified.get? "labels" = some (.list [.text "x"]) := by
  have hkind : Kind.stories ∈ Kind.simplified := List.mem_cons_self
  refine ⟨hkind, ?_⟩
  rcases full_and_simplified_agree.1 .stories hkind labelled {} (.list []) with hfault | hforms
  · obtain ⟨fault, hfault⟩ := hfault
    cases hfault true
  · obtain ⟨shaped, full, simplified, -, hfull, hsimplified, hagree⟩ := hforms
    refine ⟨shaped, full, simplified, hfull, hsimplified, hagree, ?_, ?_, ?_, ?_, ?_⟩
    · cases hfull
      rfl
    · cases hfull
      rfl
    · cases hsimplified
      rfl
    · cases hfull
      rfl
    · cases hsimplified
      rfl

end Sample

end Resolver

end Backlog
