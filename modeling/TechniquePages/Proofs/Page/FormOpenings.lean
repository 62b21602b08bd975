import TechniquePages.Proofs.Page.Marking
import Mathlib.Data.List.Forall2

/-!
# How forms begin

Every form asks for one beginning of the line: a heading mark of one level with
certain words behind it, or the words of a field.  No line begins in two of these
ways, so at most one form fits it, and the forms may be tried in any order.

The beginning also settles the level of the line.  A line has a level exactly when
that many number signs stand at its start with a blank or nothing behind them,
whether one of the forms fits it or none.
-/

namespace TechniquePages.Page

open Unicode (isBlank)

/-! ## Levels -/

/--
As many number signs as the level says stand at the start of the text, with a blank or
nothing behind them.  A blank is no number sign, so there are exactly that many.
-/
def HasLevel (level : Nat) (text : Text) : Prop :=
  1 ≤ level ∧ level ≤ 6 ∧
    ∃ rest, text = List.replicate level '#' ++ rest ∧
      ∀ character ∈ rest.head?, isBlank character = true

/-- A text has at most one level. -/
theorem HasLevel.unique
    {level other : Nat}
    {text : Text}
    (known : HasLevel level text)
    (alsoKnown : HasLevel other text) :
    level = other := by
  rcases known with ⟨-, -, rest, rfl, blank⟩
  rcases alsoKnown with ⟨-, -, otherRest, same, otherBlank⟩
  exact level_eq_of_sign_append blank otherBlank same

/-- A heading without a form is found by its level. -/
theorem Marker.heading?_eq_some_iff
    (text : Text)
    (kind : LineKind) :
    Marker.heading? text = some kind ↔ ∃ level, HasLevel level text ∧ kind = .heading level := by
  constructor
  · intro found
    simp only [Marker.heading?] at found
    split at found
    · rename_i marked
      simp only [Bool.and_eq_true, decide_eq_true_eq, Bool.or_eq_true, List.isEmpty_iff] at marked
      rcases marked with ⟨⟨low, high⟩, ends⟩
      refine ⟨_, ⟨low, high, text.dropWhile (· == '#'), ?_, ?_⟩, (Option.some.inj found).symm⟩
      · have signs : text.takeWhile (· == '#') =
            List.replicate (text.takeWhile (· == '#')).length '#' :=
          List.eq_replicate_iff.mpr ⟨rfl, fun character member => by
            simpa using List.mem_takeWhile_imp member⟩
        rw [← signs, List.takeWhile_append_dropWhile]
      · intro character first
        rcases ends with nothing | blank
        · simp [nothing] at first
        · rw [Option.mem_def] at first
          simpa [first] using blank
    · cases found
  · rintro ⟨level, ⟨low, high, rest, rfl, blank⟩, rfl⟩
    rcases takeWhile_sign_of_blank level blank with ⟨signs, below⟩
    have ends : (rest.isEmpty || (rest.head?.map isBlank).getD false) = true := by
      cases rest with
      | nil => rfl
      | cons first more => simpa using blank first rfl
    simp only [Marker.heading?, signs, below, List.length_replicate, ends]
    simp [low, high]

/-! ## Openings -/

/-- How the lines of a form begin: a heading mark with words behind it, or words alone. -/
inductive Opening where
  | heading (level : Nat) (words : Text)
  | field (words : Text)

namespace Opening

/-- The text begins so. -/
def Begins : Opening → Text → Prop
  | .heading level words, text => ∃ rest, Marker.headingText? level text = some (words ++ rest)
  | .field words, text => words <+: text

/-- The level of lines that begin so. -/
def level? : Opening → Option Nat
  | .heading level _ => some level
  | .field _ => none

/-- The heading mark has one of the six levels, or the words are not taken for one. -/
def IsProper : Opening → Prop
  | .heading level _ => 1 ≤ level ∧ level ≤ 6
  | .field words => words ≠ [] ∧ words.head? ≠ some '#'

/-- Neither text begins with the other one. -/
def Differ (words others : Text) : Prop :=
  ¬ words <+: others ∧ ¬ others <+: words

/-- Openings of different kinds or levels, or with different words. -/
def Apart : Opening → Opening → Prop
  | .heading level words, .heading other others => level ≠ other ∨ Differ words others
  | .field words, .field others => Differ words others
  | _, _ => True

instance (opening : Opening) : Decidable opening.IsProper :=
  match opening with
  | .heading _ _ => inferInstanceAs (Decidable (_ ∧ _))
  | .field _ => inferInstanceAs (Decidable (_ ∧ _))

instance (words others : Text) : Decidable (Differ words others) :=
  inferInstanceAs (Decidable (_ ∧ _))

instance (opening other : Opening) : Decidable (opening.Apart other) :=
  match opening, other with
  | .heading _ _, .heading _ _ => inferInstanceAs (Decidable (_ ∨ _))
  | .field _, .field _ => inferInstanceAs (Decidable (Differ _ _))
  | .heading _ _, .field _ => inferInstanceAs (Decidable True)
  | .field _, .heading _ _ => inferInstanceAs (Decidable True)

theorem not_isPrefix_of_differ
    {words others text : Text}
    (differ : Differ words others)
    (begins : words <+: text) :
    ¬ others <+: text := by
  intro alsoBegins
  rcases List.prefix_or_prefix_of_prefix begins alsoBegins with shorter | longer
  · exact differ.1 shorter
  · exact differ.2 longer

theorem hasLevel_of_begins
    {level : Nat}
    {words text : Text}
    (proper : (Opening.heading level words).IsProper)
    (begins : (Opening.heading level words).Begins text) :
    HasLevel level text := by
  rcases begins with ⟨rest, marked⟩
  rcases Marker.headingText?_eq_some marked with ⟨blank, more, isBlankFirst, whole⟩
  exact ⟨proper.1, proper.2, blank :: more, whole, by simpa using isBlankFirst⟩

theorem not_hasLevel_of_begins
    {words text : Text}
    (proper : (Opening.field words).IsProper)
    (begins : (Opening.field words).Begins text)
    (level : Nat) :
    ¬ HasLevel level text := by
  rintro ⟨low, -, rest, whole, -⟩
  rcases proper with ⟨nonempty, different⟩
  rcases begins with ⟨more, rfl⟩
  cases words with
  | nil => exact nonempty rfl
  | cons character others =>
    cases level with
    | zero => omega
    | succ count =>
      rw [List.replicate_succ, List.cons_append, List.cons_append, List.cons.injEq] at whole
      exact different (congrArg some whole.1)

/-- The opening of a text settles its level. -/
theorem level?_eq_some_iff
    {opening : Opening}
    {text : Text}
    (proper : opening.IsProper)
    (begins : opening.Begins text)
    (level : Nat) :
    opening.level? = some level ↔ HasLevel level text := by
  cases opening with
  | heading own words =>
    have known := hasLevel_of_begins proper begins
    constructor
    · intro same
      exact Option.some.inj same ▸ known
    · intro alsoKnown
      exact congrArg some (known.unique alsoKnown)
  | field words =>
    exact iff_of_false (by simp [level?]) (not_hasLevel_of_begins proper begins level)

/-- No text begins in two ways that are apart. -/
theorem not_begins_of_apart
    {opening other : Opening}
    {text : Text}
    (proper : opening.IsProper)
    (otherProper : other.IsProper)
    (apart : opening.Apart other)
    (begins : opening.Begins text) :
    ¬ other.Begins text := by
  intro alsoBegins
  cases opening with
  | heading level words =>
    have known := hasLevel_of_begins proper begins
    cases other with
    | heading otherLevel others =>
      have same := known.unique (hasLevel_of_begins otherProper alsoBegins)
      subst same
      rcases apart with different | differ
      · exact different rfl
      · rcases begins with ⟨rest, marked⟩
        rcases alsoBegins with ⟨otherRest, alsoMarked⟩
        refine not_isPrefix_of_differ differ (List.prefix_append words rest) ?_
        rw [Option.some.inj (marked.symm.trans alsoMarked)]
        exact List.prefix_append others otherRest
    | field others => exact not_hasLevel_of_begins otherProper alsoBegins level known
  | field words =>
    cases other with
    | heading level others =>
      exact not_hasLevel_of_begins proper begins level (hasLevel_of_begins otherProper alsoBegins)
    | field others => exact not_isPrefix_of_differ apart begins alsoBegins

end Opening

/-! ## The openings of the forms -/

/-- A form fits only texts with an opening, and gives their lines its level. -/
def IsFormOf
    (form : Text → Option LineKind)
    (opening : Opening) : Prop :=
  ∀ text kind, form text = some kind → opening.Begins text ∧ kind.level? = opening.level?

/-- A form that begins with a heading's words. -/
theorem isFormOf_afterHeading
    {level : Nat}
    {words : String}
    {next : Text → Option LineKind}
    (levels : ∀ rest kind, next rest = some kind → kind.level? = some level) :
    IsFormOf (fun text => Marker.afterHeading? level words text >>= next)
      (.heading level words.toList) := by
  intro text kind found
  rcases Option.bind_eq_some_iff.mp found with ⟨rest, heading, answer⟩
  exact ⟨⟨rest, Marker.afterHeading?_eq_some heading⟩, levels rest kind answer⟩

/-- A form that begins with a field's words. -/
theorem isFormOf_after
    {words : Text}
    {next : Text → Option LineKind}
    (levels : ∀ rest kind, next rest = some kind → kind.level? = none) :
    IsFormOf (fun text => Text.after? words text >>= next) (.field words) := by
  intro text kind found
  rcases Option.bind_eq_some_iff.mp found with ⟨rest, field, answer⟩
  rw [Text.after?_eq_some_iff] at field
  exact ⟨⟨rest, field.symm⟩, levels rest kind answer⟩

/-- The openings of the forms, in their order. -/
def openings : List Opening := [
  .heading 1 [],
  .heading 2 "Atomic Test".toList,
  .heading 2 "[Description from ATT&CK]".toList,
  .field "**Supported Platforms:**".toList,
  .field "**auto_generated_guid:**".toList,
  .heading 4 "Inputs:".toList,
  .heading 4 "Run it with these steps!".toList,
  .heading 4 "Attack Commands:".toList,
  .heading 4 "Cleanup Commands:".toList,
  .heading 4 "Dependencies:".toList,
  .heading 5 "Description:".toList,
  .heading 5 "Check Prereq Commands:".toList,
  .heading 5 "Get Prereq Commands:".toList]

theorem isFormOf_title : IsFormOf Marker.title? (.heading 1 []) := by
  intro text kind found
  rcases Option.bind_eq_some_iff.mp found with ⟨rest, marked, answer⟩
  refine ⟨⟨rest, marked⟩, ?_⟩
  simp only [Option.bind_eq_bind, Option.bind_eq_some_iff] at answer
  rcases answer with ⟨⟨identifier, more⟩, -, tail, -, named⟩
  split at named
  · cases named
  · exact (Option.some.inj named) ▸ rfl

/-- Each form has its opening. -/
theorem forall₂_forms_openings : List.Forall₂ IsFormOf Marker.forms openings := by
  refine .cons isFormOf_title (.cons ?testHeading (.cons ?description (.cons ?platforms
    (.cons ?guid (.cons ?inputs (.cons ?manual (.cons ?command (.cons ?cleanup
      (.cons ?dependencies (.cons ?dependency (.cons ?check (.cons ?get .nil))))))))))))
  case testHeading =>
    intro text kind found
    rcases Marker.testHeading?_eq_some found with ⟨-, name, rfl⟩
    rcases Option.bind_eq_some_iff.mp found with ⟨rest, heading, -⟩
    exact ⟨⟨rest, Marker.afterHeading?_eq_some heading⟩, rfl⟩
  case platforms => exact isFormOf_after fun rest kind answer => (Option.some.inj answer) ▸ rfl
  case guid =>
    refine isFormOf_after fun rest kind answer => ?_
    rcases Option.bind_eq_some_iff.mp answer with ⟨⟨value, tail⟩, -, ends⟩
    simp only at ends
    split at ends
    · exact (Option.some.inj ends) ▸ rfl
    · cases ends
  case description | inputs | dependency =>
    exact isFormOf_afterHeading fun rest kind answer => (Option.some.inj answer) ▸ rfl
  case manual =>
    refine isFormOf_afterHeading fun rest kind answer => ?_
    rcases Option.bind_eq_some_iff.mp answer with ⟨elevated, -, made⟩
    exact (Option.some.inj made) ▸ rfl
  case command =>
    refine isFormOf_afterHeading fun rest kind answer => ?_
    rcases Option.bind_eq_some_iff.mp answer with ⟨⟨executor, tail⟩, -, ends⟩
    rcases Option.bind_eq_some_iff.mp ends with ⟨elevated, -, made⟩
    exact (Option.some.inj made) ▸ rfl
  case dependencies =>
    refine isFormOf_afterHeading fun rest kind answer => ?_
    rcases Option.bind_eq_some_iff.mp answer with ⟨⟨executor, tail⟩, -, made⟩
    exact (Option.some.inj made) ▸ rfl
  case cleanup | check | get =>
    refine isFormOf_afterHeading fun rest kind answer => ?_
    split at answer
    · exact (Option.some.inj answer) ▸ rfl
    · cases answer

theorem isProper_of_mem_openings : ∀ opening ∈ openings, opening.IsProper := by decide

theorem pairwise_apart_openings : openings.Pairwise Opening.Apart := by decide

/-! ## Forms in any order -/

/-- Forms of which no two fit the text. -/
def AreExclusive
    (forms : List (Text → Option LineKind))
    (text : Text) : Prop :=
  forms.Pairwise fun form other => form text = none ∨ other text = none

/-- A form has an opening among those of the forms. -/
theorem exists_opening_of_mem
    {forms : List (Text → Option LineKind)}
    {ways : List Opening}
    (formed : List.Forall₂ IsFormOf forms ways)
    {form : Text → Option LineKind}
    (member : form ∈ forms) :
    ∃ opening ∈ ways, IsFormOf form opening := by
  induction formed with
  | nil => simp at member
  | cons fits formed hypothesis =>
    rcases List.mem_cons.mp member with rfl | later
    · exact ⟨_, List.mem_cons_self .., fits⟩
    · rcases hypothesis later with ⟨opening, inRest, known⟩
      exact ⟨opening, List.mem_cons_of_mem _ inRest, known⟩

/-- Forms whose openings are apart exclude each other. -/
theorem areExclusive_of_forall₂
    {forms : List (Text → Option LineKind)}
    {ways : List Opening}
    (formed : List.Forall₂ IsFormOf forms ways)
    (proper : ∀ opening ∈ ways, opening.IsProper)
    (apart : ways.Pairwise Opening.Apart)
    (text : Text) :
    AreExclusive forms text := by
  induction formed with
  | nil => exact .nil
  | @cons form opening forms ways fits formed hypothesis =>
    rw [List.forall_mem_cons] at proper
    rw [List.pairwise_cons] at apart
    refine List.pairwise_cons.mpr ⟨fun other member => ?_, hypothesis proper.2 apart.2⟩
    -- Two openings that are apart would both stand at the start of the text.
    rcases exists_opening_of_mem formed member with ⟨way, inWays, otherFits⟩
    cases found : form text with
    | none => exact Or.inl rfl
    | some kind =>
      cases otherFound : other text with
      | none => exact Or.inr rfl
      | some otherKind =>
        have begins := (fits text kind found).1
        have alsoBegins := (otherFits text otherKind otherFound).1
        exact absurd alsoBegins
          (Opening.not_begins_of_apart proper.1 (proper.2 way inWays) (apart.1 way inWays) begins)

/-- No two forms fit a line. -/
theorem areExclusive_forms (text : Text) : AreExclusive Marker.forms text :=
  areExclusive_of_forall₂ forall₂_forms_openings isProper_of_mem_openings pairwise_apart_openings
    text

namespace AreExclusive

variable {forms order : List (Text → Option LineKind)} {text : Text}

/-- At most one of the forms fits. -/
theorem countP_le_one (exclusive : AreExclusive forms text) :
    forms.countP (fun form => (form text).isSome) ≤ 1 := by
  induction forms with
  | nil => simp
  | cons form rest hypothesis =>
    rcases List.pairwise_cons.mp exclusive with ⟨first, later⟩
    cases found : form text with
    | none => simpa [found] using hypothesis later
    | some kind =>
      have silent : ∀ other ∈ rest, ¬ (other text).isSome = true := by
        intro other member
        rcases first other member with impossible | none
        · simp [found] at impossible
        · simp [none]
      rw [List.countP_cons, List.countP_eq_zero.mpr silent]
      split <;> omega

/-- The search finds the one form that fits, wherever it stands. -/
theorem findSome?_eq_some_iff
    (exclusive : AreExclusive forms text)
    (kind : LineKind) :
    forms.findSome? (· text) = some kind ↔ ∃ form ∈ forms, form text = some kind := by
  refine ⟨List.exists_of_findSome?_eq_some, ?_⟩
  rintro ⟨form, member, found⟩
  induction forms with
  | nil => simp at member
  | cons first rest hypothesis =>
    rcases List.pairwise_cons.mp exclusive with ⟨apart, later⟩
    rcases List.mem_cons.mp member with rfl | inRest
    · simp [found]
    · have silent : first text = none := by
        rcases apart form inRest with none | impossible
        · exact none
        · simp [found] at impossible
      simpa [silent] using hypothesis later inRest

/-- In another order the search finds the same. -/
theorem findSome?_eq_of_perm
    (exclusive : AreExclusive forms text)
    (same : order.Perm forms) :
    order.findSome? (· text) = forms.findSome? (· text) := by
  have alsoExclusive : AreExclusive order text :=
    same.symm.pairwise exclusive fun known => known.symm
  refine Option.ext fun kind => ?_
  rw [alsoExclusive.findSome?_eq_some_iff, exclusive.findSome?_eq_some_iff]
  exact exists_congr fun form => and_congr_left fun _ => same.mem_iff

end AreExclusive

/-- The kind of a line outside fenced blocks when the forms are tried in an order. -/
def classifyBy
    (order : List (Text → Option LineKind))
    (text : Text) : LineKind :=
  ((order.findSome? (· text)).or (Marker.heading? text)).getD .prose

/-- The level of a line is that of its heading mark, also where a form fits it. -/
theorem level?_classify_eq_some_iff
    (text : Text)
    (level : Nat) :
    (classify text).level? = some level ↔ HasLevel level text := by
  unfold classify
  cases found : Marker.forms.findSome? (· text) with
  | some kind =>
    rcases List.exists_of_findSome?_eq_some found with ⟨form, member, answer⟩
    rcases exists_opening_of_mem forall₂_forms_openings member with ⟨opening, inOpenings, fits⟩
    rcases fits text kind answer with ⟨begins, levels⟩
    have own := Opening.level?_eq_some_iff (isProper_of_mem_openings opening inOpenings) begins level
    simpa [levels] using own
  | none =>
    cases heading : Marker.heading? text with
    | some kind =>
      rcases (Marker.heading?_eq_some_iff text kind).mp heading with ⟨own, known, rfl⟩
      constructor
      · intro same
        have equal : own = level := Option.some.inj same
        exact equal ▸ known
      · intro alsoKnown
        exact congrArg some (known.unique alsoKnown)
    | none =>
      refine iff_of_false (by simp [LineKind.level?]) fun known => ?_
      have marked := (Marker.heading?_eq_some_iff text _).mpr ⟨level, known, rfl⟩
      simp [heading] at marked

/--
The forms exclude each other.  At most one of them fits a line, so the kind of the line
is the same in whatever order they are tried; and whichever fits, the line has the level
that its number signs give it, and no level without them.
-/
theorem forms_exclude_each_other (text : Text) :
    Marker.forms.countP (fun form => (form text).isSome) ≤ 1 ∧
      (∀ order : List (Text → Option LineKind), order.Perm Marker.forms →
        classifyBy order text = classify text) ∧
      ∀ level, (classify text).level? = some level ↔ HasLevel level text := by
  refine ⟨(areExclusive_forms text).countP_le_one, fun order same => ?_,
    level?_classify_eq_some_iff text⟩
  rw [classifyBy, classify, (areExclusive_forms text).findSome?_eq_of_perm same]

end TechniquePages.Page
