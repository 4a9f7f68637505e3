import Backlog.Proofs.Distinct
import Backlog.Proofs.Shape
import Backlog.Server.Parameter
/-!
# Binding a call to parameters

Arguments stand under the names of their parameters, in order
(`Server.Arguments.keys_eq_of_bind?`), and a list of parameters in two parts binds part
by part (`Server.Arguments.bind?_append_eq_some_iff`). If no name stands twice, leaving out
arguments does not change what the others read
(`Server.Arguments.fieldOf_without`). What is bound to an optional parameter is
null or of its type (`Server.Parameter.of_bind?_optional`).
-/

namespace Backlog

namespace Server

namespace Arguments

variable {p : Parameter} {ps others : List Parameter} {given : Table String Value}
variable {args : Arguments}

theorem bind?_cons_eq_some_iff :
    bind? (p :: ps) given = some args ↔
      ∃ v rest, p.bind? given = some v ∧ bind? ps given = some rest ∧
        args = (p.name, v) :: rest := by
  rw [bind?, List.mapM_cons, Option.bind_eq_bind, Option.bind_eq_some_iff]
  constructor
  · rintro ⟨entry, hentry, h⟩
    obtain ⟨rest, hrest, h⟩ := Option.bind_eq_some_iff.1 h
    obtain ⟨v, hv, rfl⟩ := Option.map_eq_some_iff.1 hentry
    cases h
    exact ⟨v, rest, hv, hrest, rfl⟩
  · rintro ⟨v, rest, hv, hrest, rfl⟩
    exact ⟨(p.name, v), by rw [hv]; rfl, Option.bind_eq_some_iff.2 ⟨rest, hrest, rfl⟩⟩

theorem bind?_append_eq_some_iff :
    bind? (ps ++ others) given = some args ↔
      ∃ front back, bind? ps given = some front ∧ bind? others given = some back ∧
        args = front ++ back := by
  induction ps generalizing args with
  | nil => simp [bind?]
  | cons p ps ih =>
    rw [List.cons_append, bind?_cons_eq_some_iff]
    constructor
    · rintro ⟨v, rest, hv, hrest, rfl⟩
      obtain ⟨front, back, hfront, hback, rfl⟩ := ih.1 hrest
      exact ⟨(p.name, v) :: front, back, bind?_cons_eq_some_iff.2 ⟨v, front, hv, hfront, rfl⟩,
        hback, rfl⟩
    · rintro ⟨front, back, hfront, hback, rfl⟩
      obtain ⟨v, rest, hv, hrest, rfl⟩ := bind?_cons_eq_some_iff.1 hfront
      exact ⟨v, rest ++ back, hv, ih.2 ⟨rest, back, hrest, hback, rfl⟩, rfl⟩

/-- Arguments stand under the names of their parameters. -/
theorem keys_eq_of_bind? (h : bind? ps given = some args) : Table.keys args = ps.map (·.name) := by
  induction ps generalizing args with
  | nil =>
    cases h
    rfl
  | cons p ps ih =>
    obtain ⟨v, rest, -, hrest, rfl⟩ := bind?_cons_eq_some_iff.1 h
    rw [List.map_cons, ← ih hrest]
    rfl

/-- Each argument is what the call gives to a parameter. -/
theorem exists_of_mem_bind? (h : bind? ps given = some args) {entry : String × Value}
    (hmem : entry ∈ args) : ∃ p ∈ ps, p.name = entry.1 ∧ p.bind? given = some entry.2 := by
  induction ps generalizing args with
  | nil =>
    cases h
    cases hmem
  | cons p ps ih =>
    obtain ⟨v, rest, hv, hrest, rfl⟩ := bind?_cons_eq_some_iff.1 h
    rcases List.mem_cons.1 hmem with rfl | hmem
    · exact ⟨p, List.mem_cons_self, rfl, hv⟩
    · obtain ⟨q, hq, hentry⟩ := ih hrest hmem
      exact ⟨q, List.mem_cons_of_mem _ hq, hentry⟩

/-- The first argument is read under its name. -/
theorem get_cons_self (name : String) (v : Value) (rest : Arguments) :
    get ((name, v) :: rest) name = v := by
  rw [get, Value.fieldOf, Table.get?, if_pos BEq.rfl]
  rfl

/-- What arguments in front do not name is read behind them. -/
theorem get_append {front back : Arguments} {name : String} (h : name ∉ Table.keys front) :
    get (front ++ back) name = get back name := by
  induction front with
  | nil => rfl
  | cons entry front ih =>
    obtain ⟨key, v⟩ := entry
    obtain ⟨hkey, hfront⟩ := List.ne_and_not_mem_of_not_mem_cons h
    rw [← ih hfront, get, get, Value.fieldOf, Value.fieldOf, List.cons_append, Table.get?,
      if_neg (by simpa using Ne.symm hkey)]

/-- What arguments do not name is null. -/
theorem get_of_not_mem {name : String} (h : name ∉ Table.keys args) : args.get name = .null := by
  have happend : get (args ++ []) name = get [] name := get_append h
  rw [List.append_nil] at happend
  rw [happend]
  rfl

/-- What is left of arguments reads as before, if no argument stands twice. -/
theorem fieldOf_without (hnames : Distinct (Table.keys args)) {names : List String}
    {name : String} (hname : name ∉ names) :
    Value.fieldOf (args.without names) name = args.get name := by
  induction args with
  | nil => rfl
  | cons entry rest ih =>
    obtain ⟨key, v⟩ := entry
    obtain ⟨hkey, hrest⟩ := Distinct.cons_iff.1 hnames
    have htail := ih hrest
    rw [without] at htail ⊢
    rw [List.filter_cons]
    by_cases hsame : key = name
    · subst hsame
      have hread := get_cons_self key v rest
      cases hnull : v.isNull with
      | false =>
        rw [if_pos (by simp [hnull, hname]), hread, Value.fieldOf, Table.get?, if_pos BEq.rfl]
        rfl
      | true =>
        -- the argument is left out, and no other has its name
        have hfree : key ∉ Table.keys rest := fun hmem => by simpa using hkey key hmem
        rw [if_neg (by simp [hnull]), htail, get_of_not_mem hfree, hread,
          Value.eq_null_of_isNull hnull]
    · have hskip : ∀ others : Arguments,
          Value.fieldOf ((key, v) :: others) name = Value.fieldOf others name := by
        intro others
        rw [Value.fieldOf, Value.fieldOf, Table.get?, if_neg (by simpa using hsame)]
      have hread : get ((key, v) :: rest) name = get rest name := hskip rest
      dsimp only
      rw [hread, ← htail]
      split
      · rw [hskip]
      · rfl

/-- An argument that is a list of texts has those texts. -/
theorem texts_of_get {name : String} {names : List String}
    (h : args.get name = Value.texts names) : args.texts name = names := by
  rw [texts, h, Value.texts]
  dsimp only
  rw [List.filterMap_map]
  exact List.filterMap_some

end Arguments

/-- What is bound to a parameter is its default or accepted by it. -/
theorem Parameter.of_bind? {p : Parameter} {v : Value} {given : Table String Value}
    (h : p.bind? given = some v) : p.default = some v ∨ p.accepts v = true := by
  rw [Parameter.bind?] at h
  split at h
  · split at h
    · next haccepts =>
      cases h
      exact .inr haccepts
    · cases h
  · exact .inl h

/-- What is bound to an optional parameter is null or of its type. -/
theorem Parameter.of_bind?_optional {name : String} {type : ParameterType} {v : Value}
    {given : Table String Value} (h : (optional name type).bind? given = some v) :
    v = .null ∨ type.accepts v = true := by
  rcases Parameter.of_bind? h with hdefault | haccepts
  · cases hdefault
    exact .inl rfl
  · rw [accepts, Bool.or_eq_true, Bool.and_eq_true] at haccepts
    exact haccepts.symm.imp (fun hnull => Value.eq_null_of_isNull hnull.2) id

/-- A value that is a text. -/
theorem exists_text_of_isText {v : Value} (h : isText v = true) : ∃ text, v = .text text := by
  cases v with
  | atom a =>
    cases a with
    | text text => exact ⟨text, rfl⟩
    | null => cases h
    | num n => cases h
  | list items => cases h
  | object fields => cases h

/-- What is accepted as a text is one. -/
theorem exists_text_of_accepts {v : Value} (h : ParameterType.text.accepts v = true) :
    ∃ text, v = .text text := by
  refine exists_text_of_isText ?_
  cases v with
  | atom a =>
    cases a with
    | text text => rfl
    | null => cases h
    | num n => cases n <;> cases h
  | list items => cases h
  | object fields => cases h

/-- What is accepted as a list of texts is one. -/
theorem exists_texts_of_accepts {v : Value} (h : ParameterType.texts.accepts v = true) :
    ∃ names, v = Value.texts names := by
  cases v with
  | atom a => cases h
  | object fields => cases h
  | list items =>
    have hall : ∀ item ∈ items, isText item = true := List.all_eq_true.1 h
    clear h
    suffices hnames : ∃ names : List String, items = names.map .text by
      obtain ⟨names, rfl⟩ := hnames
      exact ⟨names, rfl⟩
    induction items with
    | nil => exact ⟨[], rfl⟩
    | cons item items ih =>
      obtain ⟨names, rfl⟩ := ih fun other hother => hall other (List.mem_cons_of_mem _ hother)
      obtain ⟨name, rfl⟩ := exists_text_of_isText (hall item List.mem_cons_self)
      exact ⟨name :: names, rfl⟩

/-- What is accepted as an integer is one. -/
theorem exists_int_of_accepts {v : Value} (h : ParameterType.int.accepts v = true) :
    ∃ n, v = .int n := by
  cases v with
  | atom a =>
    cases a with
    | num n =>
      cases n with
      | int n => exact ⟨n, rfl⟩
      | _ => cases h
    | _ => cases h
  | list items => cases h
  | object fields => cases h

end Server

end Backlog
