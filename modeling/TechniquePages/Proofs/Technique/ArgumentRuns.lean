import TechniquePages.Proofs.Page.Recorded

/-!
# Runs on arguments

Arguments come from nowhere, from a record or from the table of a page.  After
that they are changed step by step: an argument is inserted, the layout is
changed, or the record is written and read back.

Insertion and reading keep keyed names different, but changing a list to keys
looks at no name.  So keyed names repeat exactly when the run has keyed a list
that repeats a name, and since then has neither listed nor read the arguments
again.  Arguments whose keyed names repeat do not survive their own record: its
object repeats a key, and reading merges what stands under it.
-/

namespace TechniquePages

open Json

namespace Arguments

/-! ## The record of arguments -/

/-- Write the record of arguments and read it back. -/
def readBack (arguments : Arguments) : Except Json.Fault Arguments :=
  ofRecord arguments.toJson.compact

/-- What reading keeps: keyed arguments are inserted one after the other. -/
def merged (arguments : Arguments) : Arguments :=
  match arguments.layout with
  | .keyed => arguments.entries.foldl insert .empty
  | .listed => arguments

/-- What the reader makes of the tree of arguments is what is read back. -/
theorem readBack_of_read
    {arguments result : Arguments}
    (known : readArguments depthLimit (source arguments.toJson) = .ok result) :
    arguments.readBack = .ok result := by
  have written : arguments.toJson.compact = writeAt .tight 0 arguments.toJson ++ [] := by
    rw [compact_eq 0, List.append_nil]
  rw [readBack, written]
  exact readAll_writeAt isBlank_tight (isNumberFree_arguments arguments) 0 (by simp [IsBlank]) known

/-- Reading back never fails, whatever names there are. -/
theorem readBack_eq (arguments : Arguments) :
    arguments.readBack = .ok arguments.merged := by
  apply readBack_of_read
  rcases arguments with ⟨layout, entries⟩
  cases layout with
  | keyed => exact readKeyedArguments_sourceMembers 125 .empty entries
  | listed =>
    have representable : (⟨.listed, entries⟩ : Arguments).IsRepresentable := nofun
    exact read_arguments 125 representable

theorem isRepresentable_readBack
    {arguments result : Arguments}
    (known : arguments.readBack = .ok result) :
    result.IsRepresentable :=
  ensures_arguments.all known

/-- Arguments are read back as they are exactly when keyed names differ. -/
theorem readBack_eq_self_iff (arguments : Arguments) :
    arguments.readBack = .ok arguments ↔ arguments.IsRepresentable :=
  ⟨isRepresentable_readBack, fun representable =>
    readBack_of_read (read_arguments 125 representable)⟩

/-- The keys of the record are the names of keyed arguments. -/
theorem keys_of_toJson
    {arguments : Arguments}
    {members : List (Text × Json)}
    (written : arguments.toJson = .object members) :
    arguments.layout = .keyed ∧ members.map Prod.fst = arguments.names := by
  rcases arguments with ⟨layout, entries⟩
  cases layout with
  | keyed =>
    cases written
    simp [names, Function.comp_def]
  | listed => cases written

/-! ## Single steps -/

/-- Insertion among keyed names repeats no name that was not repeated before. -/
theorem isRepresentable_insert_iff
    (arguments : Arguments)
    (argument : Argument) :
    (arguments.insert argument).IsRepresentable ↔ arguments.IsRepresentable := by
  rcases arguments with ⟨layout, entries⟩
  cases layout with
  | keyed =>
    refine ⟨fun after _ => ?_, fun before _ => (nodup_insert rfl (before rfl) argument).2⟩
    have distinct : ((place argument entries).map Argument.name).Nodup := after rfl
    by_cases present : argument.name ∈ entries.map Argument.name
    · rwa [map_name_place_of_present argument present] at distinct
    · rw [place_of_absent argument present, List.map_append] at distinct
      exact distinct.of_append_left
  | listed => exact ⟨fun _ => nofun, fun _ => nofun⟩

end Arguments

/-- What is done with arguments. -/
inductive ArgumentStep where
  | insert (argument : Argument)
  | list
  | key
  | readBack
  deriving DecidableEq

/-- Carry out a step. -/
def ArgumentStep.run : ArgumentStep → Arguments → Except Json.Fault Arguments
  | .insert argument, arguments => .ok (arguments.insert argument)
  | .list, arguments => .ok arguments.toListed
  | .key, arguments => .ok arguments.toKeyed
  | .readBack, arguments => arguments.readBack

namespace Arguments

/-! ## Whole runs -/

/-- Carry out steps in order. -/
def runSteps (steps : List ArgumentStep) (arguments : Arguments) : Except Json.Fault Arguments :=
  steps.foldlM (fun current step => step.run current) arguments

/-- Where arguments come from: nowhere, a record, or the table of a section. -/
inductive IsOrigin : Arguments → Prop where
  | empty : IsOrigin .empty
  | record {text : Text} {arguments : Arguments}
    (known : ofRecord text = .ok arguments) : IsOrigin arguments
  | table (body : List Page.Line) : IsOrigin (Page.Section.arguments body)

theorem IsOrigin.isRepresentable
    {arguments : Arguments}
    (origin : arguments.IsOrigin) :
    arguments.IsRepresentable := by
  cases origin with
  | empty => exact fun _ => List.nodup_nil
  | record known => exact ensures_arguments.all known
  | table body => exact Page.Section.isRepresentable_arguments body

/--
The run has keyed a list that repeats a name, and what it did after that neither
lists the arguments nor reads them back.
-/
def KeysRepeats (start : Arguments) (steps : List ArgumentStep) : Prop :=
  ∃ before after list, steps = before ++ .key :: after ∧
    start.runSteps before = .ok list ∧ list.layout = .listed ∧ ¬ list.names.Nodup ∧
      ∀ step ∈ after, step ≠ .list ∧ step ≠ .readBack

theorem runSteps_concat
    {start middle : Arguments}
    {steps : List ArgumentStep}
    (known : start.runSteps steps = .ok middle)
    (step : ArgumentStep) :
    start.runSteps (steps ++ [step]) = step.run middle := by
  rw [runSteps] at known ⊢
  rw [List.foldlM_append, known]
  change (step.run middle >>= fun result => .ok result) = step.run middle
  cases step.run middle <;> rfl

/-- A run with one more step keys repeats in that step, or has done so before. -/
theorem keysRepeats_concat_iff
    {start middle : Arguments}
    {steps : List ArgumentStep}
    (known : start.runSteps steps = .ok middle)
    (step : ArgumentStep) :
    KeysRepeats start (steps ++ [step]) ↔
      (step = .key ∧ middle.layout = .listed ∧ ¬ middle.names.Nodup) ∨
        (KeysRepeats start steps ∧ step ≠ .list ∧ step ≠ .readBack) := by
  constructor
  · rintro ⟨before, after, list, split, reached, listed, repeats, since⟩
    rcases List.eq_nil_or_concat after with rfl | ⟨front, last, rfl⟩
    · rcases List.append_inj' split rfl with ⟨rfl, same⟩
      rw [known] at reached
      rw [Except.ok.inj reached]
      exact Or.inl ⟨(List.cons.inj same).1, listed, repeats⟩
    · rw [List.concat_eq_append, ← List.cons_append, ← List.append_assoc] at split
      rw [List.concat_eq_append] at since
      rcases List.append_inj' split rfl with ⟨rfl, same⟩
      have final := since last (by simp)
      rw [← (List.cons.inj same).1] at final
      exact Or.inr ⟨⟨before, front, list, rfl, reached, listed, repeats,
        fun other member => since other (List.mem_append_left _ member)⟩, final⟩
  · rintro (⟨rfl, listed, repeats⟩ | ⟨⟨before, after, list, rfl, reached, listed, repeats, since⟩,
      harmless⟩)
    · exact ⟨steps, [], middle, rfl, known, listed, repeats, by simp⟩
    · refine ⟨before, after ++ [step], list, by simp, reached, listed, repeats, ?_⟩
      intro other member
      rcases List.mem_append.mp member with inside | last
      · exact since other inside
      · rw [List.mem_singleton.mp last]
        exact harmless

/-- A run never fails, and its keyed names repeat exactly when it has keyed a list with repeats. -/
theorem exists_runSteps_eq
    {start : Arguments}
    (representable : start.IsRepresentable)
    (steps : List ArgumentStep) :
    ∃ result, start.runSteps steps = .ok result ∧
      (¬ result.IsRepresentable ↔ KeysRepeats start steps) := by
  induction steps using List.reverseRecOn with
  | nil =>
    refine ⟨start, rfl, fun broken => absurd representable broken, ?_⟩
    rintro ⟨before, after, list, split, -⟩
    exact absurd split (by simp)
  | append_singleton steps step hypothesis =>
    rcases hypothesis with ⟨middle, known, exactly⟩
    have last := runSteps_concat known step
    rw [keysRepeats_concat_iff known, ← exactly]
    cases step with
    | insert argument =>
      refine ⟨_, last, ?_⟩
      rw [isRepresentable_insert_iff]
      simp
    | list =>
      refine ⟨_, last, ?_⟩
      simp [IsRepresentable, toListed]
    | readBack =>
      rw [ArgumentStep.run, readBack_eq] at last
      refine ⟨_, last, ?_⟩
      simp [isRepresentable_readBack (readBack_eq middle)]
    | key =>
      refine ⟨_, last, ?_⟩
      rcases middle with ⟨layout, entries⟩
      -- A list with repeats becomes keys here; keys with repeats stay what they are.
      cases layout <;> simp [IsRepresentable, toKeyed, names]

/--
Every run on arguments goes through.  The keyed names at its end differ, unless it
has keyed a list that repeats a name and has neither listed nor read the arguments
back since.  And they differ exactly when no key of the record repeats, and exactly
when the record is read back as the same arguments.
-/
theorem keyed_names_differ_iff
    {start : Arguments}
    (origin : start.IsOrigin)
    (steps : List ArgumentStep) :
    ∃ result, start.runSteps steps = .ok result ∧
      ((result.layout = .keyed → result.names.Nodup) ↔ ¬ KeysRepeats start steps) ∧
      ((result.layout = .keyed → result.names.Nodup) ↔
        ∀ members, result.toJson = .object members → (members.map Prod.fst).Nodup) ∧
      ((result.layout = .keyed → result.names.Nodup) ↔ result.readBack = .ok result) := by
  rcases exists_runSteps_eq origin.isRepresentable steps with ⟨result, known, exactly⟩
  refine ⟨result, known, ?_, ?_, (readBack_eq_self_iff result).symm⟩
  · rw [← exactly, not_not, IsRepresentable]
  · constructor
    · intro distinct members written
      rcases keys_of_toJson written with ⟨keyed, same⟩
      rw [same]
      exact distinct keyed
    · intro distinct keyed
      have written : result.toJson = .object (result.entries.map fun argument =>
          (argument.name, .object argument.detailMembers)) := by
        rw [toJson, keyed]
      have keys := distinct _ written
      rwa [(keys_of_toJson written).2] at keys

/-- A record that lists two arguments of one name. -/
def repeatingRecord : Text :=
  "[\x7b\"arg_name\":\"x\"\x7d,\x7b\"arg_name\":\"x\",\"default\":\"1\"\x7d]".toList

/-- The arguments of that record. -/
def repeatingList : Arguments :=
  ⟨.listed, [⟨"x".toList, none, none, none⟩, ⟨"x".toList, none, none, some "1".toList⟩]⟩

theorem ofRecord_repeatingRecord : ofRecord repeatingRecord = .ok repeatingList := by
  decide +kernel

theorem keyed_names_differ_repeatingList :
    repeatingList.IsOrigin ∧
      ∃ result, repeatingList.runSteps [.key, .insert ⟨"y".toList, none, none, none⟩] =
          .ok result ∧
        ((result.layout = .keyed → result.names.Nodup) ↔
          ¬ KeysRepeats repeatingList [.key, .insert ⟨"y".toList, none, none, none⟩]) ∧
        ((result.layout = .keyed → result.names.Nodup) ↔
          ∀ members, result.toJson = .object members → (members.map Prod.fst).Nodup) ∧
        ((result.layout = .keyed → result.names.Nodup) ↔ result.readBack = .ok result) :=
  have origin : repeatingList.IsOrigin := .record ofRecord_repeatingRecord
  ⟨origin, keyed_names_differ_iff origin _⟩

/-- Keyed names do repeat: a list that repeats a name may be keyed. -/
theorem not_forall_keyed_names_differ :
    ¬ ∀ (start : Arguments) (steps : List ArgumentStep) (result : Arguments),
      start.IsOrigin → start.runSteps steps = .ok result →
        result.layout = .keyed → result.names.Nodup := by
  intro differ
  have distinct := differ repeatingList [.key] repeatingList.toKeyed
    (.record ofRecord_repeatingRecord) rfl rfl
  exact absurd distinct (by decide)

end Arguments

end TechniquePages
