import TechniquePages.Proofs.Json.Canonical
import TechniquePages.Proofs.Technique.RecordRoundTrip
import TechniquePages.Schema

/-!
# The record that is checked

A technique is held to a schema as a value that is built from it directly, while
its record is written as a text.  The two agree: the text, in either layout, is
parsed as the value that has been checked.  This holds of every technique, also of
one whose keyed arguments repeat a name.  Its text repeats the key, and both the
value and whoever parses the text keep the last argument of that name.
-/

namespace TechniquePages

open Json

/-! ## Records are shallow -/

@[simp]
theorem depthOfMembers_append (first second : List (Text × Json)) :
    depthOfMembers (first ++ second) = max (depthOfMembers first) (depthOfMembers second) := by
  induction first with
  | nil => simp [depthOfMembers]
  | cons member rest hypothesis => simp [depthOfMembers, hypothesis, Nat.max_assoc]

@[simp]
theorem depthOfMembers_always
    (key : String)
    (value : Json) :
    depthOfMembers (Json.always key value) = value.depth := by
  simp [Json.always, depthOfMembers]

@[simp]
theorem depthOfMembers_ifPresent
    (key : String)
    (text : Option Text) :
    depthOfMembers (Json.ifPresent key text) = 0 := by
  cases text <;> simp [Json.ifPresent, depthOfMembers, depth]

theorem depthOfItems_map_le
    {α : Type}
    {toJson : α → Json}
    {limit : Nat}
    (shallow : ∀ value, (toJson value).depth ≤ limit)
    (values : List α) :
    depthOfItems (values.map toJson) ≤ limit := by
  induction values with
  | nil => exact Nat.zero_le limit
  | cons value rest hypothesis => exact Nat.max_le.mpr ⟨shallow value, hypothesis⟩

theorem depth_argument_le (argument : Argument) : argument.toJson.depth ≤ 1 := by
  simp [Argument.toJson, Argument.detailMembers, depth]

theorem depth_arguments_le (arguments : Arguments) : arguments.toJson.depth ≤ 2 := by
  rcases arguments with ⟨layout, entries⟩
  cases layout with
  | keyed =>
    refine Nat.succ_le_succ ?_
    induction entries with
    | nil => exact Nat.zero_le 1
    | cons argument rest hypothesis =>
      refine Nat.max_le.mpr ⟨?_, hypothesis⟩
      simp [Argument.detailMembers, depth]
  | listed => exact Nat.succ_le_succ (depthOfItems_map_le depth_argument_le entries)

theorem depth_executor_le (executor : Executor) : executor.toJson.depth ≤ 1 := by
  simp [Executor.toJson, depth]

theorem depth_dependency_le (dependency : Dependency) : dependency.toJson.depth ≤ 1 := by
  simp [Dependency.toJson, depth]

theorem depth_test_le (test : AtomicTest) : test.toJson.depth ≤ 3 := by
  have platforms : depthOfItems (test.platforms.map Json.string) ≤ 0 :=
    depthOfItems_map_le (fun _ => Nat.le_refl 0) test.platforms
  have dependencies : depthOfMembers test.dependencyMembers ≤ 2 := by
    rw [AtomicTest.dependencyMembers]
    cases test.dependencies with
    | nil => exact Nat.zero_le 2
    | cons dependency rest =>
      rw [depthOfMembers_always]
      exact Nat.succ_le_succ (depthOfItems_map_le depth_dependency_le (dependency :: rest))
  have executor := depth_executor_le test.executor
  have arguments := depth_arguments_le test.arguments
  simp only [AtomicTest.toJson, depth, depthOfMembers_append, depthOfMembers_always,
    depthOfMembers_ifPresent]
  omega

theorem depth_technique_le (technique : Technique) : technique.toJson.depth ≤ 5 := by
  have tests := depthOfItems_map_le depth_test_le technique.tests
  simp only [Technique.toJson, depth, depthOfMembers_append, depthOfMembers_always,
    depthOfMembers_ifPresent]
  omega

/-! ## What is parsed and what is checked -/

/-- A record is parsed as the value that a technique is checked as. -/
theorem parse_record
    (layout : RecordLayout)
    (technique : Technique) :
    Json.parse (technique.record layout) = .ok technique.toJson.canonical := by
  have shallow : technique.toJson.depth ≤ depthLimit :=
    Nat.le_trans (depth_technique_le technique) (by decide)
  rcases exists_record_eq_writeAt layout technique with ⟨blanks, ending, blank, spaces, written⟩
  rw [written]
  exact parse_writeAt blank (isNumberFree_technique technique) shallow 0 spaces

/--
The value that a schema is held against is the one that the written record is
parsed as, in both layouts.  It is what a reader sees of the technique's record who
keeps one member a key, the last one, in key order.
-/
theorem Format.record_holds_checked_value
    (technique : Technique)
    (layout : RecordLayout) :
    ∃ text value, (Format.json layout).write technique = .ok text ∧
      Json.parse text = .ok value ∧
      value = technique.toJson.canonical ∧
      (∀ seen, IsSeenAs technique.toJson seen ↔ seen = value) ∧
      ∀ schema : Schema, schema.validate technique = schema.validateJson value := by
  refine ⟨technique.record layout, technique.toJson.canonical, rfl, parse_record layout technique,
    rfl, fun seen => ⟨IsSeenAs.eq_canonical, ?_⟩, fun schema => rfl⟩
  rintro rfl
  exact isSeenAs_canonical technique.toJson

end TechniquePages
