import TechniquePages.Proofs.Page.RoundTrip

/-!
# Runs of reshaping

A technique is reshaped step by step: its arguments are listed or keyed, its
procedures are put under the shared key, or what has been chosen of these is applied
at once.  However the steps follow one another, two things about them decide the
result: the layout that was chosen last, if any was, and whether the key was shared
at all.

Nothing but the two written shapes is touched.  So the technique has the same page
shape as before, and its page does not tell that it was reshaped.
-/

namespace TechniquePages

/-! ## Steps -/

/-- What is done to the shape of a technique. -/
inductive ReshapeStep where
  | listArguments
  | keyArguments
  | shareProcedureKey
  | apply (reshape : Reshape)
  deriving DecidableEq

namespace ReshapeStep

/-- Carry out a step. -/
def run : ReshapeStep → Technique → Technique
  | .listArguments, technique => technique.listArguments
  | .keyArguments, technique => technique.keyArguments
  | .shareProcedureKey, technique => technique.shareProcedureKey
  | .apply reshape, technique => reshape.apply technique

/-- The layout that a step chooses. -/
def layout? : ReshapeStep → Option ArgumentLayout
  | .listArguments => some .listed
  | .keyArguments => some .keyed
  | .shareProcedureKey => none
  | .apply reshape => if reshape.listArguments then some .listed else none

/-- The step shares the procedure key. -/
def sharesKey : ReshapeStep → Bool
  | .shareProcedureKey => true
  | .apply reshape => reshape.shareProcedureKey
  | _ => false

/-- The layout that steps choose last. -/
def lastLayout? (steps : List ReshapeStep) : Option ArgumentLayout :=
  (steps.filterMap layout?).getLast?

@[simp]
theorem lastLayout?_append (front back : List ReshapeStep) :
    lastLayout? (front ++ back) = (lastLayout? back).or (lastLayout? front) := by
  rw [lastLayout?, List.filterMap_append, List.getLast?_append, lastLayout?, lastLayout?]

@[simp]
theorem lastLayout?_cons
    (step : ReshapeStep)
    (rest : List ReshapeStep) :
    lastLayout? (step :: rest) = (lastLayout? rest).or step.layout? := by
  rw [← List.singleton_append, lastLayout?_append]
  cases chosen : step.layout? <;> simp [lastLayout?, chosen]

end ReshapeStep

/-! ## Shapes -/

/-- The test in a layout, if one is chosen, and with the shared key, if it is. -/
def AtomicTest.inShape
    (layout : Option ArgumentLayout)
    (shared : Bool)
    (test : AtomicTest) : AtomicTest :=
  { test with
    arguments := { test.arguments with layout := layout.getD test.arguments.layout }
    executor := { test.executor with key := if shared then .shared else test.executor.key } }

namespace Technique

open ReshapeStep (lastLayout?)

/-- The technique with all tests in the shape that is chosen. -/
def inShape
    (layout : Option ArgumentLayout)
    (shared : Bool)
    (technique : Technique) : Technique :=
  technique.mapTests (AtomicTest.inShape layout shared)

theorem mapTests_mapTests
    (technique : Technique)
    (first second : AtomicTest → AtomicTest) :
    (technique.mapTests first).mapTests second = technique.mapTests (second ∘ first) := by
  simp [mapTests]

/-- Where nothing is chosen, the shape stays. -/
theorem inShape_unchosen (technique : Technique) : technique.inShape none false = technique := by
  have same : AtomicTest.inShape none false = id := rfl
  simp [inShape, mapTests, same]

/-- Of two layouts the later one counts, and a key that has been shared stays so. -/
theorem inShape_inShape
    (technique : Technique)
    (first second : Option ArgumentLayout)
    (early late : Bool) :
    (technique.inShape first early).inShape second late =
      technique.inShape (second.or first) (early || late) := by
  have tests : AtomicTest.inShape second late ∘ AtomicTest.inShape first early =
      AtomicTest.inShape (second.or first) (early || late) := by
    funext test
    cases first <;> cases second <;> cases early <;> cases late <;> rfl
  rw [inShape, inShape, mapTests_mapTests, tests, inShape]

/-- A step chooses its layout and its key. -/
theorem run_step
    (step : ReshapeStep)
    (technique : Technique) :
    step.run technique = technique.inShape step.layout? step.sharesKey := by
  cases step with
  | listArguments => rfl
  | keyArguments => rfl
  | shareProcedureKey => rfl
  | apply reshape =>
    rcases reshape with ⟨list, share⟩
    cases list with
    | false =>
      cases share with
      | false => exact (inShape_unchosen technique).symm
      | true => rfl
    | true =>
      cases share with
      | false => rfl
      | true => exact inShape_inShape technique (some .listed) none false true

theorem inPageShape_inShape
    (technique : Technique)
    (layout : Option ArgumentLayout)
    (shared : Bool) :
    (technique.inShape layout shared).inPageShape = technique.inPageShape :=
  mapTests_mapTests technique (AtomicTest.inShape layout shared) AtomicTest.inPageShape

/-! ## Runs -/

/-- Carry out steps in order. -/
def runSteps (steps : List ReshapeStep) (technique : Technique) : Technique :=
  steps.foldl (fun current step => step.run current) technique

/-- A run is one choice of shape. -/
theorem runSteps_eq_inShape
    (technique : Technique)
    (steps : List ReshapeStep) :
    technique.runSteps steps =
      technique.inShape (lastLayout? steps) (steps.any ReshapeStep.sharesKey) := by
  induction steps using List.reverseRecOn with
  | nil => exact (inShape_unchosen technique).symm
  | append_singleton steps step hypothesis =>
    have last : technique.runSteps (steps ++ [step]) = step.run (technique.runSteps steps) := by
      rw [runSteps, List.foldl_append]
      rfl
    rw [last, hypothesis, run_step, inShape_inShape]
    simp [lastLayout?]

/-- Runs that choose the same layout last and agree about the key have the same result. -/
theorem runSteps_congr
    (technique : Technique)
    {first second : List ReshapeStep}
    (layout : lastLayout? first = lastLayout? second)
    (shared : first.any ReshapeStep.sharesKey = second.any ReshapeStep.sharesKey) :
    technique.runSteps first = technique.runSteps second := by
  rw [runSteps_eq_inShape, runSteps_eq_inShape, layout, shared]

/--
A run of reshaping steps comes to one choice of shape: the layout that was chosen
last, if any, and the shared key if it was chosen at all.  So a step may be repeated,
and sharing the key may be moved past any other step, wherever they stand.  Apart
from the written shapes nothing changes, and the page is the same.
-/
theorem reshape_run_decided
    (technique : Technique)
    (steps : List ReshapeStep) :
    technique.runSteps steps =
        technique.inShape (lastLayout? steps) (steps.any ReshapeStep.sharesKey) ∧
      (∀ step after, technique.runSteps (steps ++ step :: step :: after) =
        technique.runSteps (steps ++ step :: after)) ∧
      (∀ step after, technique.runSteps (steps ++ step :: .shareProcedureKey :: after) =
        technique.runSteps (steps ++ .shareProcedureKey :: step :: after)) ∧
      (technique.runSteps steps).inPageShape = technique.inPageShape ∧
      Page.write (technique.runSteps steps) = Page.write technique := by
  have unshaped : (technique.runSteps steps).inPageShape = technique.inPageShape := by
    rw [runSteps_eq_inShape, inPageShape_inShape]
  refine ⟨runSteps_eq_inShape technique steps, fun step after => ?_, fun step after => ?_,
    unshaped, ?_⟩
  · apply runSteps_congr
    · cases chosen : step.layout? <;> simp [chosen]
    · simp
  · apply runSteps_congr
    · simp [ReshapeStep.layout?]
    · simp [ReshapeStep.sharesKey]
  · rw [← Page.write_inPageShape, unshaped, Page.write_inPageShape]

end Technique

end TechniquePages
