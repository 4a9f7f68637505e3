import Backlog.Proofs.Binding
import Backlog.Proofs.Body
import Backlog.Proofs.Calling
import Backlog.Proofs.Story
import Backlog.Proofs.Table
/-!
# Changing the fields of a story

An update names fields of a story: some are given a value and some are cleared.
Its names are checked before anything is asked, the story is asked for, and then
one request changes it. The body of that request has one key for each field that
is named, and no other (`Tools.ChangesExactly`). How an update goes is told by
`Tools.Updated`, for the tool in `Server.update_call_goes`. Texts are assumed to
hold none of the code points that halves of pairs are kept as (`Text.halfOffset`)
but for halves, and the integers of a body to be writable whatever their size.
-/

namespace Backlog

namespace Tools

/-! ## The names of fields -/

/-- **No two fields of a story have one name in the tracker.** -/
theorem storyUpdateFields_injective {name other key : String}
    (h : storyUpdateFields.get? name = some key)
    (hother : storyUpdateFields.get? other = some key) : name = other := by
  have hall : ∀ entry ∈ storyUpdateFields, ∀ other ∈ storyUpdateFields,
      entry.2 = other.2 → entry.1 = other.1 := by decide +kernel
  obtain ⟨field, hmem, hfield⟩ := Table.exists_mem_of_get?_eq_some h
  obtain ⟨field', hmem', hfield'⟩ := Table.exists_mem_of_get?_eq_some hother
  rw [← eq_of_beq hfield, ← eq_of_beq hfield']
  exact hall _ hmem _ hmem' rfl

/-- The tracker's names of fields can be written in bytes. -/
theorem hasHalf_storyUpdateFields {name key : String}
    (h : storyUpdateFields.get? name = some key) : Text.hasHalf key = false := by
  have hall : ∀ entry ∈ storyUpdateFields, Text.hasHalf entry.2 = false := by decide +kernel
  obtain ⟨field, hmem, -⟩ := Table.exists_mem_of_get?_eq_some h
  exact hall _ hmem

/-- The names that an update is refused for: those that are no fields. -/
theorem mem_unknownNames_iff {names : List String} {name : String} :
    name ∈ unknownNames names ↔ name ∈ names ∧ storyUpdateFields.contains name = false := by
  rw [unknownNames, List.mem_mergeSort, List.mem_filter, List.mem_eraseDups]
  simp

/-- Reading the names of an update. -/
theorem updateNames_object (updates : Table String Value) :
    updateNames (.object updates) = .ok updates.keys := by
  change (updates.keys.map Value.text).mapM _ = Except.ok updates.keys
  rw [Except.mapM_eq_ok_iff, List.forall₂_map_left_iff]
  exact List.forall₂_same.2 fun _ _ => rfl

/-! ## What is cleared -/

/-- The fields of an update: those that are given, and null for each that is to be
cleared. -/
def withCleared (given : Table String Value) (cleared : List String) : Table String Value :=
  cleared.foldl (fun updates name => updates.insert name .null) given

variable {given : Table String Value} {cleared : List String}

/-- **A field that is cleared is null**, whatever was given for it. -/
theorem get?_withCleared (given : Table String Value) (cleared : List String) (name : String) :
    (withCleared given cleared).get? name =
      if name ∈ cleared then some .null else given.get? name := by
  induction cleared generalizing given with
  | nil => rfl
  | cons first rest ih =>
    have hnext : withCleared given (first :: rest) =
        withCleared (given.insert first .null) rest := rfl
    rw [hnext, ih, Table.get?_insert]
    by_cases hrest : name ∈ rest
    · rw [if_pos hrest, if_pos (List.mem_cons_of_mem _ hrest)]
    · by_cases hfirst : first = name
      · simp [hfirst]
      · simp [hrest, hfirst, Ne.symm hfirst]

/-- The fields of an update are those that are given or cleared, each once. -/
theorem keys_withCleared (hgiven : Distinct given.keys) (cleared : List String) :
    Distinct (withCleared given cleared).keys ∧ ∀ name,
      name ∈ (withCleared given cleared).keys ↔ name ∈ cleared ∨ name ∈ given.keys := by
  have hcleared : Table.keys (cleared.map fun name => (name, Value.null)) = cleared := by
    rw [Table.keys, List.map_map]
    exact List.map_id cleared
  have hkeys := Table.keys_foldl_insert (cleared.map fun name => (name, Value.null)) given hgiven
  rw [hcleared, List.foldl_map] at hkeys
  change (withCleared given cleared).keys = (given.keys ++ cleared).eraseDups at hkeys
  rw [hkeys]
  refine ⟨Distinct.of_eraseDups _, fun name => ?_⟩
  rw [List.mem_eraseDups, List.mem_append, or_comm]

/-- An update that names a field is not empty. -/
theorem isEmpty_withCleared (hgiven : Distinct given.keys) (h : given ≠ [] ∨ cleared ≠ []) :
    (withCleared given cleared).isEmpty = false := by
  obtain ⟨-, hkeys⟩ := keys_withCleared hgiven cleared
  obtain ⟨name, hname⟩ : ∃ name, name ∈ cleared ∨ name ∈ given.keys := by
    rcases h with h | h
    · obtain ⟨entry, hentry⟩ := List.exists_mem_of_ne_nil given h
      exact ⟨entry.1, .inr (List.mem_map_of_mem hentry)⟩
    · obtain ⟨name, hname⟩ := List.exists_mem_of_ne_nil cleared h
      exact ⟨name, .inl hname⟩
  obtain ⟨entry, hentry, -⟩ := List.mem_map.1 ((hkeys name).2 hname)
  exact List.isEmpty_eq_false_iff.2 (List.ne_nil_of_mem hentry)

/-! ## The body -/

/-- **What the body of an update changes**: exactly the fields that are given or
cleared. -/
structure ChangesExactly (given : Table String Value) (cleared : List String)
    (body : Table String Value) : Prop where
  /-- No key stands twice. -/
  distinct : Distinct body.keys
  /-- Under the tracker's name of a field stands null if the field is cleared, else
  what is given for it, if anything is. -/
  reads : ∀ name key, storyUpdateFields.get? name = some key →
    body.get? key = if name ∈ cleared then some .null else given.get? name
  /-- Each key is the tracker's name of one field that is given or cleared. -/
  names : ∀ key ∈ body.keys, ∃! name,
    storyUpdateFields.get? name = some key ∧ (name ∈ cleared ∨ name ∈ given.keys)

/-- A field under its name in the tracker. -/
def renamed (entry : String × Value) : String × Value :=
  ((storyUpdateFields.get? entry.1).getD entry.1, entry.2)

section

variable {updates : Table String Value}

/-- Known fields keep apart under their names in the tracker. -/
theorem distinct_keys_renamed
    (hknown : ∀ name ∈ updates.keys, storyUpdateFields.contains name = true)
    (h : Distinct updates.keys) : Distinct (Table.keys (updates.map renamed)) := by
  rw [Distinct, Table.keys, List.pairwise_map] at h ⊢
  rw [List.pairwise_map]
  refine h.imp_of_mem fun {a b} ha hb hne => ?_
  obtain ⟨key, hkey⟩ := Option.isSome_iff_exists.1 (hknown a.1 (List.mem_map_of_mem ha))
  obtain ⟨key', hkey'⟩ := Option.isSome_iff_exists.1 (hknown b.1 (List.mem_map_of_mem hb))
  rw [renamed, renamed, hkey, hkey', Option.getD_some, Option.getD_some]
  refine beq_eq_false_iff_ne.2 fun heq => beq_eq_false_iff_ne.1 hne ?_
  subst heq
  exact storyUpdateFields_injective hkey hkey'

/-- Under the tracker's name of a field stands what is under its own. -/
theorem get?_renamed (hknown : ∀ name ∈ updates.keys, storyUpdateFields.contains name = true)
    {name key : String} (h : storyUpdateFields.get? name = some key) :
    Table.get? (updates.map renamed) key = updates.get? name := by
  induction updates with
  | nil => rfl
  | cons entry rest ih =>
    obtain ⟨field, v⟩ := entry
    have hrest := ih fun name hname => hknown name (List.mem_cons_of_mem _ hname)
    obtain ⟨fieldKey, hfield⟩ := Option.isSome_iff_exists.1 (hknown field List.mem_cons_self)
    -- no two fields have one name in the tracker, so it finds the field that its own does
    have hsame : (fieldKey == key) = (field == name) := by
      rw [Bool.eq_iff_iff, beq_iff_eq, beq_iff_eq]
      constructor
      · rintro rfl
        exact storyUpdateFields_injective hfield h
      · rintro rfl
        exact Option.some.inj (hfield.symm.trans h)
    rw [List.map_cons, renamed, hfield, Option.getD_some, Table.get?, Table.get?, hsame, hrest]

/-- The body of an update of known fields has them under their names in the
tracker. -/
theorem updatePayload_eq (hknown : ∀ name ∈ updates.keys, storyUpdateFields.contains name = true)
    (h : Distinct updates.keys) : updatePayload updates = updates.map renamed :=
  Table.ofList_eq_self (distinct_keys_renamed hknown h)

end

/-- **The body of an update changes exactly the fields that are named.** -/
theorem changesExactly (hgiven : Distinct given.keys)
    (hknownGiven : ∀ name ∈ given.keys, storyUpdateFields.contains name = true)
    (hknown : ∀ name ∈ cleared, storyUpdateFields.contains name = true) :
    ChangesExactly given cleared (updatePayload (withCleared given cleared)) := by
  obtain ⟨hdistinct, hkeys⟩ := keys_withCleared hgiven cleared
  have hknownAll : ∀ name ∈ (withCleared given cleared).keys,
      storyUpdateFields.contains name = true := fun name hname =>
    ((hkeys name).1 hname).elim (hknown name) (hknownGiven name)
  rw [updatePayload_eq hknownAll hdistinct]
  refine ⟨distinct_keys_renamed hknownAll hdistinct, fun name key h => ?_, fun key hmem => ?_⟩
  · rw [get?_renamed hknownAll h, get?_withCleared]
  · obtain ⟨_, hentry, rfl⟩ := List.mem_map.1 hmem
    obtain ⟨⟨name, v⟩, hfield, rfl⟩ := List.mem_map.1 hentry
    have hname : name ∈ (withCleared given cleared).keys := List.mem_map_of_mem hfield
    obtain ⟨key, hkey⟩ := Option.isSome_iff_exists.1 (hknownAll name hname)
    have hrenamed : (renamed (name, v)).1 = key := by
      rw [renamed, hkey]
      rfl
    rw [hrenamed]
    exact ⟨name, ⟨hkey, (hkeys name).1 hname⟩, fun other hother =>
      storyUpdateFields_injective hother.1 hkey⟩

/-- **What keeps the body of an update from being sent**: a text that cannot be
written, in a value that is given and not cleared. -/
theorem checkBody_update {body : Table String Value} (hbody : ChangesExactly given cleared body)
    (hgiven : Distinct given.keys)
    (hknownGiven : ∀ name ∈ given.keys, storyUpdateFields.contains name = true)
    (hfinite : ∀ entry ∈ given, entry.2.numbersFinite = true) :
    (Api.checkBody (some (.object body)) = .ok () ∧
        ∀ entry ∈ given, entry.1 ∉ cleared → entry.2.brokenText? = none) ∨
      ∃ entry ∈ given, entry.1 ∉ cleared ∧ ∃ text, entry.2.brokenText? = some text ∧
        Api.checkBody (some (.object body)) = .error (.notUtf8 text) := by
  -- what stands in the body is null, or given
  have hentry : ∀ entry ∈ body, Text.hasHalf entry.1 = false ∧
      (entry.2 = .null ∨ ∃ name, name ∉ cleared ∧ (name, entry.2) ∈ given) := by
    rintro ⟨key, v⟩ hmem
    obtain ⟨name, ⟨hkey, -⟩, -⟩ := hbody.names key (List.mem_map_of_mem hmem)
    have hread := hbody.reads name key hkey
    rw [Table.get?_eq_some_of_mem hbody.distinct hmem] at hread
    refine ⟨hasHalf_storyUpdateFields hkey, ?_⟩
    split at hread
    · exact .inl (Option.some.inj hread)
    · next hcleared =>
      obtain ⟨field, hfield, hsame⟩ := Table.exists_mem_of_get?_eq_some hread.symm
      exact .inr ⟨name, hcleared, eq_of_beq hsame ▸ hfield⟩
  have hnumbers : ∀ entry ∈ body, entry.2.numbersFinite = true := by
    intro entry hmem
    rcases (hentry entry hmem).2 with hnull | ⟨name, -, hfield⟩
    · rw [hnull]
      rfl
    · have hvalue := hfinite (name, entry.2) hfield
      exact hvalue
  rw [Api.checkBody_object (fun entry hmem => (hentry entry hmem).1) hnumbers]
  cases hbroken : body.findSome? fun entry => entry.2.brokenText? with
  | some text =>
    obtain ⟨entry, hmem, htext⟩ := List.exists_of_findSome?_eq_some hbroken
    rcases (hentry entry hmem).2 with hnull | ⟨name, hcleared, hfield⟩
    · rw [hnull] at htext
      cases htext
    · exact .inr ⟨_, hfield, hcleared, text, htext, rfl⟩
  | none =>
    refine .inl ⟨rfl, fun entry hfield hcleared => ?_⟩
    -- a value that is given and not cleared stands in the body
    have hname : entry.1 ∈ given.keys := List.mem_map_of_mem hfield
    obtain ⟨key, hkey⟩ := Option.isSome_iff_exists.1 (hknownGiven _ hname)
    have hread := hbody.reads entry.1 key hkey
    rw [if_neg hcleared, Table.get?_eq_some_of_mem hgiven hfield] at hread
    obtain ⟨field, hmem, -⟩ := Table.exists_mem_of_get?_eq_some hread
    have hvalue := List.findSome?_eq_none_iff.1 hbroken (field, entry.2) hmem
    exact hvalue

/-! ## How an update goes -/

/-- What an update reports, given what it has made of the story. -/
def reportUpdate (story updated : Value) : Except Fault String := do
  let url ← updated.field "app_url"
  pure (Report.render ("Updated story " ++ storyRef story ++ ". Story URL: " ++ url.display))

section

variable (remote : Remote) (story : Value) (given : Table String Value) (cleared : List String)

/-- **How an update of a story goes**: what it ends in, and what it leaves of a
session. -/
inductive Updated (s : Session) : Except Fault String → Session → Prop where
  /-- Names that are to be cleared are no fields: the update is refused for these,
  and nothing is asked. -/
  | unknown {names : List String} (hsome : names ≠ [])
      (hnames : ∀ name, name ∈ names ↔
        name ∈ cleared ∧ storyUpdateFields.contains name = false) :
      Updated s (.error (.refused (.unknownStoryFields names storyUpdateFields.keys))) s
  /-- The story is not there: it is asked for at most, and nothing is changed. -/
  | missing {fault : Fault} {m : Session}
      (hknown : ∀ name ∈ cleared, storyUpdateFields.contains name = true)
      (hmissing : StoryMissing remote story s fault m) : Updated s (.error fault) m
  /-- The story is there, and no field is named: nothing is changed. -/
  | nothing {request : Http.Request} {entity : Value}
      (hfound : StoryFound remote story s request entity) (hgiven : given = [])
      (hcleared : cleared = []) :
      Updated s (.error (.refused .nothingToUpdate))
        (s.received request (remote s.exchanges request))
  /-- A text in a value that is given, and not cleared, cannot be written in bytes:
  nothing is changed. -/
  | unwritable {request : Http.Request} {entity : Value} {entry : String × Value} {text : String}
      (hknown : ∀ name ∈ cleared, storyUpdateFields.contains name = true)
      (hfound : StoryFound remote story s request entity) (hgiven : entry ∈ given)
      (hcleared : entry.1 ∉ cleared) (hbroken : entry.2.brokenText? = some text) :
      Updated s (.error (.notUtf8 text)) (s.received request (remote s.exchanges request))
  /-- The story is there, and one request changes the fields that are named. -/
  | sent {request : Http.Request} {entity : Value} {body : Table String Value} {m : Session}
      (hknown : ∀ name ∈ cleared, storyUpdateFields.contains name = true)
      (hfound : StoryFound remote story s request entity)
      (hm : m = s.received request (remote s.exchanges request))
      (hnamed : given ≠ [] ∨ cleared ≠ [])
      (hwritable : ∀ entry ∈ given, entry.1 ∉ cleared → entry.2.brokenText? = none)
      (hbody : ChangesExactly given cleared body) :
      Updated s
        (changed story request.url (remote m.exchanges (changing request (.object body))) >>=
          reportUpdate story)
        (m.received (changing request (.object body))
          (remote m.exchanges (changing request (.object body))))

end

variable {remote : Remote} {story : Value} {s : Session}

/-- What follows a change of a story: its report. -/
def reporting (story updated : Value) : Action String := do
  let url ← updated.field "app_url"
  pure (Report.render ("Updated story " ++ storyRef story ++ ". Story URL: " ++ url.display))

/-- The report sends nothing. -/
theorem reporting_apply (story updated : Value) (remote : Remote) (s : Session) :
    reporting story updated remote s = (reportUpdate story updated, s) := by
  rw [reporting, reportUpdate, Run.bind_apply, Run.lift_apply]
  cases updated.field "app_url" <;> rfl

/-- An update whose names are all known looks for its story. -/
theorem updateStory_apply {updates : Table String Value}
    (hknown : unknownNames updates.keys = []) (remote : Remote) (story : Value) (s : Session) :
    updateStory story (.object updates) remote s =
      (requireEntity .stories story >>= fun _ =>
        if updates.isEmpty then Run.fail (.refused .nothingToUpdate)
        else Api.updateEntity .stories story (.object (updatePayload updates)) >>=
          reporting story) remote s := by
  have hchecked : checkNames (.object updates) = .ok () := by
    rw [checkNames, updateNames_object]
    simp only [bind, Except.bind, hknown]
    rfl
  rw [updateStory, Run.bind_apply, Run.lift_apply, hchecked]
  rfl

/-- **An update of a story that is there** is sent, unless a text in it keeps it from
that. -/
theorem StoryFound.updated {request : Http.Request} {entity : Value}
    (hfound : StoryFound remote story s request entity) (hgiven : Distinct given.keys)
    (hknownGiven : ∀ name ∈ given.keys, storyUpdateFields.contains name = true)
    (hknown : ∀ name ∈ cleared, storyUpdateFields.contains name = true)
    (hfinite : ∀ entry ∈ given, entry.2.numbersFinite = true)
    (hnamed : given ≠ [] ∨ cleared ≠ []) :
    ∃ result t,
      (Api.updateEntity .stories story (.object (updatePayload (withCleared given cleared))) >>=
        reporting story) remote (s.received request (remote s.exchanges request)) =
          (result, t) ∧
      Updated remote story given cleared s result t := by
  obtain ⟨m, hm⟩ : ∃ m, m = s.received request (remote s.exchanges request) := ⟨_, rfl⟩
  have hclient : m.client = { s.client with currentUser := m.client.currentUser } := by
    rw [hm]
    rfl
  rw [← hm]
  have hbody := changesExactly hgiven hknownGiven hknown
  rcases checkBody_update hbody hgiven hknownGiven hfinite with
    ⟨hsendable, hwritable⟩ | ⟨entry, hentry, hcleared, text, hbroken, hchecked⟩
  · refine ⟨_, _, ?_, .sent hknown hfound hm hnamed hwritable hbody⟩
    rw [Run.bind_apply, hfound.update hclient hsendable]
    cases changed story request.url _ with
    | error fault => rfl
    | ok updated => exact reporting_apply story updated remote _
  · refine ⟨_, m, Run.bind_of_error _ (hfound.update_of_error hclient hchecked), ?_⟩
    rw [hm]
    exact .unwritable hknown hfound hentry hcleared hbroken

/-- **An update of a story goes as it should.** -/
theorem updateStory_goes (remote : Remote) (story : Value) (s : Session)
    (hgiven : Distinct given.keys)
    (hknownGiven : ∀ name ∈ given.keys, storyUpdateFields.contains name = true)
    (hfinite : ∀ entry ∈ given, entry.2.numbersFinite = true) :
    ∃ result t, updateStory story (.object (withCleared given cleared)) remote s = (result, t) ∧
      Updated remote story given cleared s result t := by
  obtain ⟨-, hkeys⟩ := keys_withCleared hgiven cleared
  have hnames : ∀ name, name ∈ unknownNames (withCleared given cleared).keys ↔
      name ∈ cleared ∧ storyUpdateFields.contains name = false := by
    intro name
    rw [mem_unknownNames_iff, hkeys]
    constructor
    · rintro ⟨hcleared | hname, hunknown⟩
      · exact ⟨hcleared, hunknown⟩
      · rw [hknownGiven name hname] at hunknown
        cases hunknown
    · exact fun ⟨hcleared, hunknown⟩ => ⟨.inl hcleared, hunknown⟩
  cases hunknown : unknownNames (withCleared given cleared).keys with
  | cons first rest =>
    rw [hunknown] at hnames
    refine ⟨_, s, ?_, .unknown (List.cons_ne_nil first rest) hnames⟩
    rw [updateStory, Run.bind_apply, Run.lift_apply, checkNames, updateNames_object]
    simp only [bind, Except.bind, hunknown]
    rfl
  | nil =>
    rw [hunknown] at hnames
    have hknown : ∀ name ∈ cleared, storyUpdateFields.contains name = true := fun name hname =>
      Bool.of_not_eq_false fun hno => List.not_mem_nil ((hnames name).2 ⟨hname, hno⟩)
    rw [updateStory_apply hunknown]
    rcases found_or_missing remote story s with ⟨request, entity, hfound⟩ | ⟨fault, m, hmissing⟩
    · rw [Run.bind_of_ok _ hfound.require]
      by_cases hnone : given = [] ∧ cleared = []
      · obtain ⟨rfl, rfl⟩ := hnone
        exact ⟨_, _, rfl, .nothing hfound rfl rfl⟩
      · have hnamed : given ≠ [] ∨ cleared ≠ [] := not_and_or.1 hnone
        rw [isEmpty_withCleared hgiven hnamed, if_neg Bool.false_ne_true]
        exact hfound.updated hgiven hknownGiven hknown hfinite hnamed
    · exact ⟨_, m, Run.bind_of_error _ hmissing.require, .missing hknown hmissing⟩

end Tools

namespace Server

/-! ## What a call names -/

/-- A text has no numbers. -/
theorem numbersFinite_of_isText {v : Value} (h : isText v = true) : v.numbersFinite = true := by
  obtain ⟨text, rfl⟩ := exists_text_of_isText h
  rfl

/-- An object whose fields are texts has no numbers. -/
theorem numbersFinite_of_isRecord {v : Value} (h : isRecord v = true) :
    v.numbersFinite = true := by
  cases v with
  | atom a => cases h
  | list items => cases h
  | object fields =>
    rw [Value.numbersFinite, Value.fieldsFinite_eq_all]
    exact List.all_eq_true.2 fun entry hmem =>
      numbersFinite_of_isText (List.all_eq_true.1 h entry hmem)

/-- **The numbers in a value that is of some type are finite**: they are integers. -/
theorem numbersFinite_of_accepts {type : ParameterType} {v : Value}
    (h : type.accepts v = true) : v.numbersFinite = true := by
  cases v with
  | atom a =>
    cases a with
    | null => rfl
    | text text => rfl
    | num n =>
      cases n with
      | float x => cases type <;> cases h
      | _ => rfl
  | object fields => cases type <;> cases h
  | list items =>
    rw [Value.numbersFinite, Value.itemsFinite_eq_all]
    refine List.all_eq_true.2 fun item hmem => ?_
    cases type with
    | texts => exact numbersFinite_of_isText (List.all_eq_true.1 h item hmem)
    | records => exact numbersFinite_of_isRecord (List.all_eq_true.1 h item hmem)
    | _ => cases h

/-- The tool that changes a story. -/
def storyUpdater : Tool := (Tool.find? false "stories_update").get rfl

/-- The arguments that do not stand for fields: the story, and what is to be
cleared. -/
def controlNames : List String := ["story_public_id", "clear_fields"]

/-- Every other parameter is a field of a story, and has a name of its own. -/
theorem parameters_storyUpdater :
    Distinct (storyUpdater.parameters.map (·.name)) ∧ ∀ p ∈ storyUpdater.parameters,
      p.default.all Value.isNull = true ∧
        (p.name ∉ controlNames → Tools.storyUpdateFields.contains p.name = true) := by
  constructor <;> decide +kernel

variable {given : Table String Value} {args : Arguments}

/-- The story that a call names. -/
theorem exists_story_of_bind? (h : Arguments.bind? storyUpdater.parameters given = some args) :
    ∃ n, args.get "story_public_id" = .int n := by
  obtain ⟨v, rest, hv, -, rfl⟩ := Arguments.bind?_cons_eq_some_iff.1 h
  rcases Parameter.of_bind? hv with hdefault | haccepts
  · cases hdefault
  · rw [Parameter.accepts] at haccepts
    obtain ⟨n, rfl⟩ := exists_int_of_accepts (by simpa [Parameter.required] using haccepts)
    exact ⟨n, Arguments.get_cons_self _ _ rest⟩

/-- **The fields that a call gives**: each has a name of its own, is known, and its
numbers are finite. -/
theorem fields_of_bind? (h : Arguments.bind? storyUpdater.parameters given = some args) :
    Distinct (args.without controlNames).keys ∧
      (∀ name ∈ (args.without controlNames).keys,
        Tools.storyUpdateFields.contains name = true) ∧
      ∀ entry ∈ args.without controlNames, entry.2.numbersFinite = true := by
  obtain ⟨hnames, hparameters⟩ := parameters_storyUpdater
  rw [← Arguments.keys_eq_of_bind? h] at hnames
  have hbound : ∀ entry ∈ args.without controlNames, entry.2.isNull = false ∧
      entry.1 ∉ controlNames ∧ ∃ p ∈ storyUpdater.parameters, p.name = entry.1 ∧
        p.bind? given = some entry.2 := by
    intro entry hmem
    obtain ⟨hmem, hkept⟩ := List.mem_filter.1 hmem
    rw [Bool.and_eq_true, Bool.not_eq_true', Bool.not_eq_true'] at hkept
    exact ⟨hkept.1, by simpa using hkept.2, Arguments.exists_of_mem_bind? h hmem⟩
  refine ⟨hnames.sublist (List.filter_sublist.map _), fun name hname => ?_, fun entry hmem => ?_⟩
  · obtain ⟨entry, hmem, rfl⟩ := List.mem_map.1 hname
    obtain ⟨-, hfield, p, hp, hsame, -⟩ := hbound entry hmem
    rw [← hsame] at hfield ⊢
    exact (hparameters p hp).2 hfield
  · obtain ⟨hnull, -, p, hp, -, hbind⟩ := hbound entry hmem
    rcases Parameter.of_bind? hbind with hdefault | haccepts
    · have hall := (hparameters p hp).1
      rw [hdefault, Option.all_some, hnull] at hall
      cases hall
    · rw [Parameter.accepts, hnull, Bool.and_false, Bool.or_false] at haccepts
      exact numbersFinite_of_accepts haccepts

/-! ## Calls -/

variable {remote : Remote} {server ready : Server} {handle : Handle} {s : Session}

/-- **How a call that changes a story goes.** The fields that the call gives, and the
names that it clears, go into one change of the story, as `Tools.Updated` says, and
its end is the end of the call. That the tools are got ready for it sends nothing. -/
theorem update_call_goes (hwrites : server.readOnly = false)
    (hargs : Arguments.bind? storyUpdater.parameters given = some args)
    (htools : getTools remote server = (.ok handle, ready))
    (hs : ready.session? handle = some s) :
    Untouched server (ready.restore handle s) ∧ ∃ n result t,
      args.get "story_public_id" = .int n ∧
      Tools.Updated remote (.int n) (args.without controlNames) (args.texts "clear_fields") s
        result t ∧
      server.call remote "stories_update" given =
        ((result.map .text).mapError (.failed "stories_update"), ready.restore handle t) := by
  have huntouched := idle_getTools remote server
  rw [htools] at huntouched
  obtain ⟨n, hstory⟩ := exists_story_of_bind? hargs
  obtain ⟨hdistinct, hknown, hfinite⟩ := fields_of_bind? hargs
  obtain ⟨result, t, hrun, hupdated⟩ : ∃ result t,
      Tools.updateStory (.int n) (.object (Tool.updatesOf args)) remote s = (result, t) ∧
        Tools.Updated remote (.int n) (args.without controlNames) (args.texts "clear_fields") s
          result t :=
    Tools.updateStory_goes remote (.int n) s hdistinct hknown hfinite
  refine ⟨?_, n, result, t, hstory, hupdated, ?_⟩
  · rw [restore_self hs]
    exact huntouched
  · have hfind : Tool.find? server.readOnly "stories_update" = some storyUpdater := by
      rw [hwrites]
      rfl
    refine call_reporting hfind rfl hargs htools hs ?_
    rw [hstory]
    exact hrun

/-! ### A change of a name, and of what is cleared -/

namespace Sample

/-- A tracker that answers everything with a story. -/
def storyTracker : Remote := fun _ _ =>
  .answer 200 [123, 34, 105, 100, 34, 58, 53, 44, 34, 97, 112, 112, 95, 117, 114, 108, 34, 58, 34,
    117, 34, 125]

/-- A call that gives a story a name and an estimate and clears two fields, one of
them given, one of them twice. -/
def named : Table String Value :=
  [("story_public_id", .int 5), ("name", .text "b"), ("estimate", .int 3),
   ("clear_fields", Value.texts ["epic", "estimate", "epic"])]

/-- Its arguments. -/
def namedArguments : Arguments := (Arguments.bind? storyUpdater.parameters named).get rfl

theorem bind?_named :
    Arguments.bind? storyUpdater.parameters named = some namedArguments := rfl

end Sample

/-- The story is asked for and then changed: it gets the name, and null for what is
cleared. -/
theorem renamed_and_cleared :
    ((Sample.prepared.call Sample.storyTracker "stories_update"
        Sample.named).2.exchanges.map fun exchange =>
          (exchange.request.method, exchange.request.body.map Value.display)) =
      [(.get, none), (.put, some "\x7b'name': 'b', 'estimate': None, 'epic_id': None\x7d")] ∧
      ∃ result t, Tools.Updated Sample.storyTracker (.int 5)
        (Sample.namedArguments.without controlNames)
        (Sample.namedArguments.texts "clear_fields") Sample.session result t := by
  obtain ⟨-, n, result, t, hstory, hupdated, -⟩ :=
    update_call_goes rfl Sample.bind?_named (Sample.tools_prepared Sample.storyTracker)
      Sample.session_prepared
  cases hstory
  exact ⟨by decide +kernel, result, t, hupdated⟩

/-! ### A name that cannot be written -/

namespace Sample

/-- A call that gives a story half of a pair for a name. -/
def halfName : Table String Value :=
  [("story_public_id", .int 5), ("name", .text (String.singleton (Text.charOf 0xD800)))]

/-- Its arguments. -/
def halfArguments : Arguments :=
  (Arguments.bind? storyUpdater.parameters halfName).get rfl

end Sample

/-- **A change that is not sent although its story is there** and its one field is
known: half of a pair cannot be written in bytes. -/
theorem half_name_not_sent :
    Arguments.bind? storyUpdater.parameters Sample.halfName = some Sample.halfArguments ∧
      Sample.halfArguments.texts "clear_fields" = [] ∧
      (∃ request entity, Tools.StoryFound Sample.storyTracker (.int 5) Sample.session request
        entity) ∧
      (Sample.prepared.call Sample.storyTracker "stories_update"
        Sample.halfName).2.exchanges.map (·.request.method) = [.get] :=
  ⟨rfl, rfl, ⟨_, _, rfl, rfl, rfl⟩, by decide +kernel⟩

end Server

end Backlog
