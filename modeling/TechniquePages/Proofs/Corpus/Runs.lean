import TechniquePages.Corpus
import TechniquePages.Proofs.Files.Making
import TechniquePages.Proofs.Files.Parents

/-!
# Runs of conversions

A conversion reads its input, composes the text to write, and writes it.  All that
it asks of the file tree before it writes is the text of the input, so a run is told
by two values: what has been composed, and what writing the output then comes to.

Writing a file below a settled path makes the directories of that path and puts the
text in them.
-/

namespace TechniquePages

open FilePath (names)

namespace Action

variable {α β : Type}

/-- The value of an outcome and the tree it leaves, without what was put out. -/
def Outcome.result (outcome : Outcome α) : α × FileTree :=
  (outcome.value, outcome.tree)

theorem result_run_bind
    (tree : FileTree)
    (action : Action α)
    (after : α → Action β) :
    ((action >>= after).run tree).result =
      ((after (action.run tree).result.1).run (action.run tree).result.2).result := by
  rw [run_bind]
  rfl

/-- Reporting events changes no file. -/
theorem result_run_logAll
    (tree : FileTree)
    (events : List Log.Event) :
    ((logAll events).run tree).result = ((), tree) := by
  induction events with
  | nil => rfl
  | cons event rest hypothesis => exact hypothesis

end Action

/-! ## Writing a file -/

namespace FileTree

theorem writeText_eq_ok
    {tree written : FileTree}
    {path : FilePath}
    {text : Text}
    (done : tree.writeText path text = .ok written) :
    ∃ place, tree.locate path = .ok place ∧ tree.entry? place ≠ some .directory ∧
      asksDirectory path = false ∧ written = tree.set place (.file text) := by
  rw [writeText] at done
  cases located : tree.locate path with
  | error fault => simp [located] at done
  | ok place =>
    simp only [located] at done
    cases asked : asksDirectory path with
    | true =>
      simp only [asked] at done
      split at done <;> cases done
    | false =>
      simp only [asked] at done
      refine ⟨place, rfl, ?_⟩
      split at done
      · cases done
      · rename_i entry solid found
        cases done
        rw [found]
        exact ⟨by simpa using solid, rfl, rfl⟩
      · rename_i absent
        cases done
        rw [absent]
        exact ⟨by simp, rfl, rfl⟩

/-- A text is written where the path is found, unless a directory stands there. -/
theorem writeText_of_locate
    {tree : FileTree}
    {path : FilePath}
    {place : Place}
    (located : tree.locate path = .ok place)
    (unasked : asksDirectory path = false)
    (text : Text) :
    tree.writeText path text =
      if tree.hasDirectory place then .error .isDirectory
      else .ok (tree.set place (.file text)) := by
  rw [writeText, located, hasDirectory]
  simp only [unasked]
  cases tree.entry? place with
  | none => rfl
  | some entry => cases entry <;> rfl

end FileTree

theorem result_run_makeParents
    (tree : FileTree)
    (path : FilePath) :
    ((makeParents path).run tree).result = tree.parentsMade path := by
  rw [makeParents, FileTree.parentsMade]
  cases path.parent? with
  | none => rfl
  | some parent =>
    simp only
    split <;> rfl

/-- A file is written after the directories above it have been made. -/
theorem result_run_writeFile
    (tree : FileTree)
    (path : FilePath)
    (text : Text) :
    ((writeFile path text).run tree).result =
      match tree.parentsMade path with
      | (.error fault, left) => (.error (.file path fault), left)
      | (.ok (), left) =>
        match left.writeText path text with
        | .error fault => (.error (.file path fault), left)
        | .ok written => (.ok path, written) := by
  rw [writeFile, Action.result_run_bind, result_run_makeParents]
  rcases tree.parentsMade path with ⟨fault | done, left⟩
  · rfl
  · simp only [Action.run]
    cases left.writeText path text <;> rfl

/-- A file is written when the directories above it stand. -/
theorem exists_of_writeFile_ok
    {tree after : FileTree}
    {path written : FilePath}
    {text : Text}
    (done : ((writeFile path text).run tree).result = (.ok written, after)) :
    ∃ left, FileTree.Grown (left.IsPlaceAbove path) (fun _ => False) tree left ∧
      left.writeText path text = .ok after ∧ written = path := by
  have grown := tree.grown_parentsMade path
  rw [result_run_writeFile] at done
  rcases parents : tree.parentsMade path with ⟨fault | _, left⟩
  · simp [parents] at done
  · rw [parents] at grown
    simp only [parents] at done
    cases answer : left.writeText path text with
    | error fault => simp [answer] at done
    | ok changed =>
      simp only [answer, Prod.mk.injEq, Except.ok.injEq] at done
      rcases done with ⟨rfl, rfl⟩
      exact ⟨left, grown, answer, rfl⟩

/-- A file that could not be written is what the fault is about, and leaves directories at
most. -/
theorem exists_of_writeFile_error
    {tree after : FileTree}
    {path : FilePath}
    {text : Text}
    {fault : ConversionFault}
    (failed : ((writeFile path text).run tree).result = (.error fault, after)) :
    ∃ reason, fault = .file path reason ∧
      FileTree.Grown (after.IsPlaceAbove path) (fun _ => False) tree after := by
  have grown := tree.grown_parentsMade path
  rw [result_run_writeFile] at failed
  rcases parents : tree.parentsMade path with ⟨reason | _, left⟩
  · rw [parents] at grown
    simp only [parents, Prod.mk.injEq, Except.error.injEq] at failed
    rcases failed with ⟨rfl, rfl⟩
    exact ⟨reason, rfl, grown⟩
  · rw [parents] at grown
    simp only [parents] at failed
    cases answer : left.writeText path text with
    | error reason =>
      simp only [answer, Prod.mk.injEq, Except.error.injEq] at failed
      rcases failed with ⟨rfl, rfl⟩
      exact ⟨reason, rfl, grown⟩
    | ok changed => simp [answer] at failed

/-! ## Conversions -/

namespace ConversionRequest

/-- What a conversion composes: the format of the input, the technique, and the text to write. -/
def composed
    (request : ConversionRequest)
    (tree : FileTree) : Except ConversionFault (Text × Technique × Text) :=
  match request.sourceFormat with
  | .error fault => .error fault
  | .ok source =>
    match tree.readText request.input with
    | .error fault => .error (.file request.input fault)
    | .ok text =>
      match request.compose source text with
      | .error fault => .error fault
      | .ok (technique, written) => .ok (source, technique, written)

end ConversionRequest

theorem result_run_convert
    (tree : FileTree)
    (request : ConversionRequest) :
    ((convert request).run tree).result =
      match request.composed tree with
      | .error fault => (.error fault, tree)
      | .ok (source, technique, written) =>
        ((deliver request source technique written).run tree).result := by
  rw [convert, ConversionRequest.composed]
  cases request.sourceFormat with
  | error fault => rfl
  | ok source =>
    simp only [Action.run]
    cases tree.readText request.input with
    | error fault => rfl
    | ok text =>
      simp only [Action.result_run_bind, Action.result_run_logAll]
      cases request.compose source text with
      | error fault => rfl
      | ok composed => rfl

theorem result_run_deliver
    (tree : FileTree)
    {request : ConversionRequest}
    {source : Text}
    {technique : Technique}
    {path : FilePath}
    (named : request.outputPath? source technique = some path)
    (text : Text) :
    ((deliver request source technique text).run tree).result =
      match ((writeFile path text).run tree).result with
      | (.error fault, left) => (.error fault, left)
      | (.ok written, left) => (.ok ⟨technique.identifier, .file written⟩, left) := by
  rw [deliver, named]
  simp only [Action.result_run_bind]
  rcases ((writeFile path text).run tree).result with ⟨fault | written, left⟩ <;> rfl

/-! ## Pages of a batch -/

namespace BatchJob

/-- The record that a page is converted to. -/
def record
    (options : BatchOptions)
    (tree : FileTree)
    (job : BatchJob) : Except ConversionFault Text :=
  match (job.request options).composed tree with
  | .error fault => .error fault
  | .ok (_, _, written) => .ok written

end BatchJob

/-- A page is converted by writing its record. -/
theorem result_run_runJob
    (tree : FileTree)
    (options : BatchOptions)
    (job : BatchJob) :
    ((runJob options job).run tree).result =
      match job.record options tree with
      | .error fault => (.failed job.input fault, tree)
      | .ok text =>
        match ((writeFile job.output text).run tree).result with
        | (.error fault, left) => (.failed job.input fault, left)
        | (.ok _, left) => (.converted job.input job.output, left) := by
  rw [runJob, Action.result_run_bind, result_run_convert, BatchJob.record]
  cases (job.request options).composed tree with
  | error fault => rfl
  | ok composed =>
    rcases composed with ⟨source, technique, written⟩
    have named : (job.request options).outputPath? source technique = some job.output := rfl
    simp only [result_run_deliver tree named]
    rcases ((writeFile job.output written).run tree).result with ⟨fault | _, left⟩ <;> rfl

end TechniquePages
