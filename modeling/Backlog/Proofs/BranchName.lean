import Backlog.Proofs.Http.Segments
import Backlog.Proofs.Json.Scalar
import Backlog.Proofs.Run
import Backlog.Tools.Story
/-!
# Branch names

A story that the tracker has no branch name for is given one that is made up: the
mention name of the user, the reference of the story and a slug of its name, with
slashes between them, cut to length. What git takes for the name of a branch
(`Text.IsBranchName`) rules out more than the tool looks for. The slug has none of the
characters that are ruled out, but it can be empty, and the cut can come right behind a
slash. Where neither is so the name is one that git takes (`Tools.branch_name_valid_iff`),
and else it ends in a slash, which git does not take.
-/

namespace Backlog

namespace Text

/-! ## What git takes -/

/-- The control characters. -/
def controls : CodeRanges := [(0x0, 0x1F), (0x7F, 0x9F)]

/-- The characters that git keeps for itself. -/
def reserved : List Char := ['~', '^', ':', '?', '*', '[', '\\']

/-- Whether a character can stand in the name of a branch. -/
def isBranchChar (c : Char) : Bool := !isBlank c && !controls.contains c && !reserved.contains c

/-- **The name of a branch**, as git takes it. -/
structure IsBranchName (name : List Char) : Prop where
  /-- No character is blank, a control character or reserved. -/
  chars : ∀ c ∈ name, isBranchChar c = true
  /-- Between the slashes, and before and behind them, there is something. -/
  parts : ∀ part ∈ splitAtChar '/' name, part ≠ []
  /-- No part starts with a point or ends like a lock. -/
  points : ∀ part ∈ splitAtChar '/' name, part.head? ≠ some '.' ∧ ¬ ".lock".toList <:+ part
  /-- There are no two points in a row. -/
  range : ¬ "..".toList <:+: name
  /-- There is no reflog mark. -/
  reflog : ¬ "@\x7b".toList <:+: name
  /-- It does not start like an option. -/
  start : name.head? ≠ some '-'
  /-- It does not end in a point. -/
  stop : name.getLast? ≠ some '.'
  /-- It is none of the names for where one stands. -/
  here : name ≠ "@".toList ∧ name ≠ "HEAD".toList

/-! ## Plain characters -/

/-- The characters of the made-up names, slashes apart: the word characters and the
hyphen. -/
def isPlainChar (c : Char) : Bool := isWordChar c || c = '-'

/-- Word characters are not blank and no control characters. -/
theorem wordChars_apart : ∀ range ∈ wordChars, ∀ other ∈ blanks ++ controls,
    range.2 < other.1 ∨ other.2 < range.1 := by
  decide +kernel

/-- Letters and digits are plain. -/
theorem isPlainChar_of_isAlphanum {c : Char} (h : c.isAlphanum = true) : isPlainChar c = true :=
  of_isAlphanum (p := fun c => isPlainChar c = true) (by decide +kernel) h

theorem isPlainChar_hyphen : isPlainChar '-' = true := Bool.or_eq_true_iff.2 (.inr rfl)

/-- No reserved character is plain, and none that parts are told by. -/
theorem isPlainChar_eq_false {c : Char} (h : c ∈ reserved ++ ['/', '.', '@']) :
    isPlainChar c = false := by
  have hall : ((reserved ++ ['/', '.', '@']).all fun c => isPlainChar c = false) = true := by
    decide +kernel
  exact of_decide_eq_true (List.all_eq_true.1 hall c h)

/-- **A plain character can stand in the name of a branch.** -/
theorem isBranchChar_of_isPlainChar {c : Char} (h : isPlainChar c = true) :
    isBranchChar c = true := by
  have hfree : c ∉ reserved := fun hmem => by
    rw [isPlainChar_eq_false (List.mem_append_left _ hmem)] at h
    cases h
  have hvisible : isBlank c = false ∧ controls.contains c = false := by
    rcases Bool.or_eq_true_iff.1 h with hword | hhyphen
    · exact ⟨CodeRanges.contains_eq_false (fun range hrange other hother =>
          wordChars_apart range hrange other (List.mem_append_left _ hother)) hword,
        CodeRanges.contains_eq_false (fun range hrange other hother =>
          wordChars_apart range hrange other (List.mem_append_right _ hother)) hword⟩
    · cases of_decide_eq_true hhyphen
      decide
  simp [isBranchChar, hvisible, hfree]

/-- **Of plain characters and slashes a name is made that git takes**, if it starts like
one, is not `HEAD`, and has something in all its parts. -/
theorem isBranchName_iff {name : List Char}
    (hplain : ∀ c ∈ name, isPlainChar c = true ∨ c = '/') (hstart : name.head? ≠ some '-')
    (hhere : name ≠ "HEAD".toList) :
    IsBranchName name ↔ ∀ part ∈ splitAtChar '/' name, part ≠ [] := by
  have hno : ∀ c, isPlainChar c = false → c ≠ '/' → c ∉ name := by
    intro c hc hslash hmem
    rcases hplain c hmem with hword | heq
    · rw [hc] at hword
      cases hword
    · exact hslash heq
  have hpoint : '.' ∉ name := hno '.' (isPlainChar_eq_false (by decide)) (by decide)
  have hat : '@' ∉ name := hno '@' (isPlainChar_eq_false (by decide)) (by decide)
  -- what stands in a part stands in the name
  have hpart : ∀ part ∈ splitAtChar '/' name, '.' ∉ part := fun part hmem hdot =>
    hpoint ((of_splitAtChar '/' name).1 ▸ mem_intercalate_of_mem hmem hdot)
  constructor
  · exact IsBranchName.parts
  · intro hparts
    exact
      { chars := fun c hc => by
          rcases hplain c hc with hword | rfl
          · exact isBranchChar_of_isPlainChar hword
          · decide
        parts := hparts
        points := fun part hmem =>
          ⟨fun hhead => hpart part hmem (List.mem_of_head? hhead),
            fun hlock => hpart part hmem (hlock.subset (by decide))⟩
        range := fun hrange => hpoint (hrange.subset (by decide))
        reflog := fun hmark => hat (hmark.subset (by decide))
        start := hstart
        stop := fun hlast => hpoint (List.mem_of_getLast? hlast)
        here := ⟨fun heq => hat (heq ▸ by decide), hhere⟩ }

/-! ## Cutting -/

/-- **The parts of a cut text**: the first is cut, or the cut comes behind it. -/
theorem splitAtChar_take {sep : Char} {part : List Char} (h : sep ∉ part) (rest : List Char)
    (n : Nat) : splitAtChar sep ((part ++ sep :: rest).take n) =
      if n ≤ part.length then [part.take n]
      else part :: splitAtChar sep (rest.take (n - part.length - 1)) := by
  split
  · next hle =>
    rw [List.take_append_of_le_length hle]
    exact splitAtChar_of_not_mem fun hmem => h (List.mem_of_mem_take hmem)
  · next hlt =>
    obtain ⟨k, hk⟩ : ∃ k, n - part.length = k + 1 := ⟨n - part.length - 1, by omega⟩
    rw [List.take_append, List.take_of_length_le (by omega), hk, List.take_succ_cons,
      splitAtChar_append_cons, splitAtChar_of_not_mem h]
    rfl

/-- **When a cut leaves a part empty**: when it comes right behind a separator, or when the
last part is empty and it comes behind that. -/
theorem parts_take_iff {sep : Char} {first second third : List Char} (hfirst : sep ∉ first)
    (hsecond : sep ∉ second) (hthird : sep ∉ third) (hfirst' : first ≠ []) (hsecond' : second ≠ [])
    {n : Nat} (hn : 0 < n) :
    (∀ part ∈ splitAtChar sep ((first ++ sep :: (second ++ sep :: third)).take n), part ≠ []) ↔
      ¬ (n = first.length + 1 ∨ n = first.length + second.length + 2 ∨
        third = [] ∧ first.length + second.length + 2 ≤ n) := by
  -- the cut is followed through the parts, and in each its place is told by its length
  have hcut : ∀ (part : List Char) (k : Nat), part.take k ≠ [] ↔ k ≠ 0 ∧ part ≠ [] := by
    intro part k
    rw [ne_eq, List.take_eq_nil_iff, not_or]
  rw [splitAtChar_take hfirst]
  split
  · next hle =>
    rw [List.forall_mem_singleton, hcut]
    exact ⟨fun _ => by omega, fun _ => ⟨by omega, hfirst'⟩⟩
  · next hlt =>
    rw [List.forall_mem_cons, splitAtChar_take hsecond]
    split
    · next hle =>
      rw [List.forall_mem_singleton, hcut]
      exact ⟨fun h => by omega, fun h => ⟨hfirst', by omega, hsecond'⟩⟩
    · next hlt' =>
      rw [List.forall_mem_cons,
        splitAtChar_of_not_mem fun hmem => hthird (List.mem_of_mem_take hmem),
        List.forall_mem_singleton, hcut]
      constructor
      · rintro ⟨-, -, hmore, hsome⟩
        rintro (hone | htwo | ⟨hnone, -⟩)
        · omega
        · omega
        · exact hsome hnone
      · intro h
        refine ⟨hfirst', hsecond', by omega, fun hnone => h (.inr (.inr ⟨hnone, by omega⟩))⟩

/-- A text without empty parts does not end in a separator. -/
theorem getLast?_ne_of_parts {sep : Char} {cs : List Char}
    (h : ∀ part ∈ splitAtChar sep cs, part ≠ []) : cs.getLast? ≠ some sep := by
  intro hlast
  obtain ⟨front, rfl⟩ := List.getLast?_eq_some_iff.1 hlast
  refine h [] ?_ rfl
  rw [splitAtChar_append_cons]
  exact List.mem_append_right _ (List.mem_singleton.2 rfl)

/-- A text that is cut right behind a separator ends in one. -/
theorem getLast?_take_of_cut {sep : Char} {first second third : List Char} {n : Nat}
    (h : n = first.length + 1 ∨ n = first.length + second.length + 2 ∨
      third = [] ∧ first.length + second.length + 2 ≤ n) :
    ((first ++ sep :: (second ++ sep :: third)).take n).getLast? = some sep := by
  have hone : first ++ sep :: (second ++ sep :: third) =
      (first ++ [sep]) ++ (second ++ sep :: third) := by simp
  have htwo : first ++ sep :: (second ++ sep :: third) =
      (first ++ sep :: second ++ [sep]) ++ third := by simp
  rcases h with hfirst | hsecond | ⟨rfl, hle⟩
  · rw [hone, List.take_left' (by simp [hfirst]), List.getLast?_concat]
  · rw [htwo, List.take_left' (by simp [hsecond]; omega), List.getLast?_concat]
  · rw [htwo, List.append_nil, List.take_of_length_le (by simp; omega), List.getLast?_concat]

/-- **Three plain parts with slashes between them, cut to length,** are the name of a
branch unless they end in a slash, which they do when they are cut at one. -/
theorem isBranchName_take {first second third : List Char}
    (hfirst : ∀ c ∈ first, isPlainChar c = true) (hsecond : ∀ c ∈ second, isPlainChar c = true)
    (hthird : ∀ c ∈ third, isPlainChar c = true) (hfirst' : first ≠ []) (hsecond' : second ≠ [])
    (hstart : first.head? ≠ some '-') {n : Nat} (hn : 4 < n) {name : List Char}
    (hname : name = (first ++ '/' :: (second ++ '/' :: third)).take n) :
    (IsBranchName name ↔ name.getLast? ≠ some '/') ∧
      (name.getLast? = some '/' ↔ n = first.length + 1 ∨
        n = first.length + second.length + 2 ∨
          third = [] ∧ first.length + second.length + 2 ≤ n) := by
  have hslash : ∀ cs : List Char, (∀ c ∈ cs, isPlainChar c = true) → '/' ∉ cs := by
    intro cs hall hmem
    have hplain := hall '/' hmem
    rw [isPlainChar_eq_false (by decide)] at hplain
    cases hplain
  have hchars : ∀ c ∈ name, isPlainChar c = true ∨ c = '/' := by
    intro c hc
    have hmem := List.mem_of_mem_take (hname ▸ hc)
    simp only [List.mem_append, List.mem_cons] at hmem
    rcases hmem with hc | rfl | hc | rfl | hc
    · exact .inl (hfirst c hc)
    · exact .inr rfl
    · exact .inl (hsecond c hc)
    · exact .inr rfl
    · exact .inl (hthird c hc)
  have hhead : name.head? ≠ some '-' := by
    rw [hname, List.head?_take, if_neg (by omega), List.head?_append, Option.or_of_isSome]
    · exact hstart
    · simpa using hfirst'
  -- a cut text is too long, and one that is not cut has a slash
  have hhere : name ≠ "HEAD".toList := by
    intro heq
    have hshort : "HEAD".toList.length = 4 := rfl
    have hlength := congrArg List.length heq
    rw [hname, List.length_take] at hlength
    rw [hname, List.take_of_length_le (by omega)] at heq
    have hmem : '/' ∈ "HEAD".toList := heq ▸ by simp
    revert hmem
    decide
  have hvalid := isBranchName_iff hchars hhead hhere
  have hparts := parts_take_iff (hslash _ hfirst) (hslash _ hsecond) (hslash _ hthird) hfirst'
    hsecond' (n := n) (by omega)
  rw [← hname] at hparts
  have hcut : name.getLast? = some '/' ↔ n = first.length + 1 ∨
      n = first.length + second.length + 2 ∨
        third = [] ∧ first.length + second.length + 2 ≤ n := by
    constructor
    · intro hlast
      by_contra hno
      exact getLast?_ne_of_parts (hparts.2 hno) hlast
    · intro h
      rw [hname]
      exact getLast?_take_of_cut h
  exact ⟨by rw [hvalid, hparts, ne_eq, hcut], hcut⟩

end Text

namespace Tools

open Text (IsBranchName isPlainChar isBlank)

/-! ## Slugs -/

/-- A slug is of plain characters. -/
theorem isPlainChar_of_mem_branchSlug {name : String} {c : Char}
    (h : c ∈ (branchSlug name).toList) : isPlainChar c = true := by
  rw [branchSlug, String.toList_ofList] at h
  exact (List.mem_filter.1 h).2

/-- Whether a name has nothing that a slug is made of. -/
def Unsluggable (name : String) : Prop :=
  ∀ c ∈ (Text.lower name).toList, isBlank c = false ∧ isPlainChar c = false

/-- What is left of characters with hyphens for blanks: nothing, if none is blank or
plain. -/
theorem filter_hyphenated_eq_nil_iff (cs : List Char) :
    (hyphenated false cs).filter isPlainChar = [] ↔
      ∀ c ∈ cs, isBlank c = false ∧ isPlainChar c = false := by
  induction cs with
  | nil => simp [hyphenated]
  | cons c cs ih =>
    rw [hyphenated, List.forall_mem_cons]
    cases hblank : isBlank c with
    | true =>
      -- the first of a run of blanks becomes a hyphen
      rw [if_pos rfl, if_neg Bool.false_ne_true, List.filter_cons_of_pos Text.isPlainChar_hyphen]
      simp
    | false =>
      rw [if_neg Bool.false_ne_true]
      cases hplain : isPlainChar c with
      | true =>
        rw [List.filter_cons_of_pos hplain]
        simp
      | false =>
        rw [List.filter_cons_of_neg (by simp [hplain]), ih]
        simp

/-- **Which names have no slug.** -/
theorem branchSlug_eq_empty_iff {name : String} :
    (branchSlug name).toList = [] ↔ Unsluggable name := by
  rw [branchSlug, String.toList_ofList]
  exact filter_hyphenated_eq_nil_iff _

instance (name : String) : Decidable (Unsluggable name) :=
  decidable_of_iff _ branchSlug_eq_empty_iff

/-! ## Made-up names -/

/-- A mention name: plain characters, one at least, the first no hyphen. -/
structure IsMention (mention : String) : Prop where
  /-- There is a character. -/
  nonempty : mention.toList ≠ []
  /-- All are plain. -/
  plain : ∀ c ∈ mention.toList, isPlainChar c = true
  /-- The first is no hyphen. -/
  start : mention.toList.head? ≠ some '-'

/-- Whether the name made up for a story is cut right behind a slash, the first or the
second, or has an empty slug behind that. -/
def IsCutAtSlash (mention ref name : String) : Prop :=
  maxBranchName = mention.length + 1 ∨ maxBranchName = mention.length + ref.length + 2 ∨
    Unsluggable name ∧ mention.length + ref.length + 2 ≤ maxBranchName

/-- How a story with a number is referred to: in plain characters. -/
theorem isPlainChar_of_mem_storyRef {id : Int} {c : Char}
    (h : c ∈ (storyRef (.int id)).toList) : isPlainChar c = true := by
  have htext : (storyRef (.int id)).toList = "sc-".toList ++ (toString id).toList := by
    rw [← String.toList_append]
    rfl
  rw [htext, Decimal.toList_toString, List.mem_append, List.mem_append] at h
  rcases h with hstart | hsign | hdigits
  · have hall : ("sc-".toList.all isPlainChar) = true := by decide +kernel
    exact List.all_eq_true.1 hall c hstart
  · split at hsign
    · cases List.mem_singleton.1 hsign
      exact Text.isPlainChar_hyphen
    · cases hsign
  · have hdigit := Decimal.isDigit_of_mem hdigits
    exact Text.isPlainChar_of_isAlphanum (by rw [Char.isAlphanum, hdigit, Bool.or_true])

/-- What is made up for a story. -/
theorem madeUpBranch_eq {user story name : Value} {mention text : String}
    (hmention : user.field "mention_name" = .ok (.text mention)) (htext : name.asText = .ok text) :
    madeUpBranch user story name = .ok (String.ofList
      ((mention.toList ++ '/' :: ((storyRef story).toList ++ '/' :: (branchSlug text).toList)).take
        maxBranchName)) := by
  rw [madeUpBranch, hmention, htext]
  have hdisplay : (Value.text mention).display = mention := rfl
  simp only [bind, Except.bind, pure, Except.pure, hdisplay, String.toList_append]
  simp

/-- **Which names are the name of a branch**: those that do not end in a slash, and it is
known which those are. -/
structure ValidUnlessCut (mention ref name : String) (branch : String) : Prop where
  /-- It is no longer than allowed. -/
  length : branch.length ≤ maxBranchName
  /-- It is the name of a branch unless it ends in a slash. -/
  valid : IsBranchName branch.toList ↔ branch.toList.getLast? ≠ some '/'
  /-- It ends in a slash when it is cut at one. -/
  slash : branch.toList.getLast? = some '/' ↔ IsCutAtSlash mention ref name

/-- **What is made up for a story** is the name of a branch unless it is cut at a slash. -/
theorem madeUpBranch_valid (id : Int) {user name : Value} {mention text : String}
    (hmention : user.field "mention_name" = .ok (.text mention)) (hplain : IsMention mention)
    (htext : name.asText = .ok text) :
    ∃ branch, madeUpBranch user (.int id) name = .ok branch ∧
      ValidUnlessCut mention (storyRef (.int id)) text branch := by
  have hsome : (storyRef (.int id)).toList ≠ [] := by
    rw [storyRef, String.toList_append]
    exact List.append_ne_nil_of_left_ne_nil (by decide) _
  obtain ⟨hvalid, hslash⟩ := Text.isBranchName_take hplain.plain
    (fun c (hc : c ∈ (storyRef (.int id)).toList) => isPlainChar_of_mem_storyRef hc)
    (fun c (hc : c ∈ (branchSlug text).toList) => isPlainChar_of_mem_branchSlug hc)
    hplain.nonempty hsome hplain.start (n := maxBranchName) (by decide) String.toList_ofList
  rw [branchSlug_eq_empty_iff, String.length_toList, String.length_toList] at hslash
  refine ⟨_, madeUpBranch_eq hmention htext, ?_, hvalid, hslash⟩
  rw [String.length_ofList]
  exact List.length_take_le _ _

/-- **Which made-up branch names git takes.** For a story that the tracker has no branch
name for, and a user whose mention name is plain, the tool reports a name that is no
longer than allowed. It is the name of a branch unless it ends in a slash. -/
theorem branch_name_valid_iff {remote : Remote} {s t m : Session} {user entity own name : Value}
    {id : Int} {mention text : String} (huser : requireUser remote s = (.ok user, t))
    (hmention : user.field "mention_name" = .ok (.text mention)) (hplain : IsMention mention)
    (hstory : requireEntity .stories (.int id) remote t = (.ok entity, m))
    (hown : entity.field "formatted_vcs_branch_name" = .ok own) (hnone : own.truthy = false)
    (hname : entity.field "name" = .ok name) (htext : name.asText = .ok text) :
    ∃ branch : String,
      getStoryBranchName (.int id) remote s =
        (.ok (Report.render
          ("Branch name for story " ++ storyRef (.int id) ++ ": " ++ branch)), m) ∧
      ValidUnlessCut mention (storyRef (.int id)) text branch := by
  obtain ⟨branch, hmade, hvalid⟩ := madeUpBranch_valid id hmention hplain htext
  have hbranch : branchName user (.int id) entity = .ok branch := by
    rw [branchName, hown]
    simp only [bind, Except.bind]
    rw [hnone, if_neg Bool.false_ne_true, hname]
    exact hmade
  refine ⟨branch, ?_, hvalid⟩
  rw [getStoryBranchName, Run.bind_apply, huser]
  dsimp only
  rw [Run.bind_apply, hstory]
  dsimp only
  rw [Run.bind_apply, Run.lift_apply, hbranch]
  rfl

/-! ### A name with a slug and one without -/

namespace Sample

/-- A user. -/
def alice : Value := .object [("mention_name", .text "alice")]

/-- A session of that user. -/
def aliceSession : Session where
  client :=
    { serial := 0, settings := ⟨.text "token", "https://tracker", .int 30⟩, token := "token",
      base :=
        { scheme := "https".toList, userinfo := [], host := "tracker".toList, port := none,
          path := "/".toList, query := none, fragment := none },
      currentUser := alice }
  caches := {}
  clock := .int 0

/-- A tracker whose stories all have one name, given in bytes. -/
def oneName (name : List UInt8) : Remote := fun _ _ =>
  .answer 200 ([123, 34, 110, 97, 109, 101, 34, 58, 34] ++ name ++ [34, 125])

/-- What the tool reports for a story of that name. -/
def branchReport (id : Int) (name : List UInt8) : Option String :=
  (getStoryBranchName (.int id) (oneName name) aliceSession).1.toOption

/-- The bytes of `Log in!`. -/
def logIn : List UInt8 := [76, 111, 103, 32, 105, 110, 33]

/-- The bytes of `!!!`. -/
def exclaimed : List UInt8 := [33, 33, 33]

end Sample

/-- A name with words in it leads to the name of a branch. -/
theorem log_in_branch :
    Sample.branchReport 123 Sample.logIn =
        some "Branch name for story sc-123: alice/sc-123/log-in" ∧
      ∃ branch, Sample.branchReport 123 Sample.logIn =
          some (Report.render ("Branch name for story sc-123: " ++ branch)) ∧
        branch.length ≤ 50 ∧ IsBranchName branch.toList := by
  have hletters : ("alice".toList.all isPlainChar) = true := by decide +kernel
  have hplain : IsMention "alice" := ⟨by decide, List.all_eq_true.1 hletters, by decide⟩
  have huncut : ¬ IsCutAtSlash "alice" "sc-123" "Log in!" := by
    rintro (hone | htwo | ⟨hnone, -⟩)
    · revert hone
      decide
    · revert htwo
      decide
    · revert hnone
      decide +kernel
  have huser : requireUser (Sample.oneName Sample.logIn) Sample.aliceSession =
      (.ok Sample.alice, Sample.aliceSession) := rfl
  obtain ⟨entity, m, hstory, hown, hname⟩ : ∃ entity m,
      requireEntity .stories (.int 123) (Sample.oneName Sample.logIn) Sample.aliceSession =
          (.ok entity, m) ∧
        entity.field "formatted_vcs_branch_name" = .ok .null ∧
          entity.field "name" = .ok (.text "Log in!") := ⟨_, _, rfl, rfl, rfl⟩
  obtain ⟨branch, hreport, hvalid⟩ :=
    branch_name_valid_iff huser rfl hplain hstory hown rfl hname rfl
  exact ⟨by decide +kernel, branch, congrArg (fun ran => ran.1.toOption) hreport, hvalid.length,
    hvalid.valid.2 fun hslash => huncut (hvalid.slash.1 hslash)⟩

/-- **A branch name that git does not take**: nothing is left of the name of the story. -/
theorem exclaimed_branch :
    Sample.branchReport 5 Sample.exclaimed = some "Branch name for story sc-5: alice/sc-5/" ∧
      ¬ IsBranchName "alice/sc-5/".toList :=
  ⟨by decide +kernel, fun hbranch => hbranch.parts [] (by decide) rfl⟩

end Tools

end Backlog
