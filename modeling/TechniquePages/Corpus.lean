import TechniquePages.Conversion

/-!
# Corpora

A corpus is a directory that holds the pages of many techniques.  A page of a
corpus is a file named after a technique, in a directory named after one; the
directories may stand at any depth.

A batch converts every page of a corpus to a record, one after the other in
the order of their paths.  A page that cannot be converted is reported, and the
batch goes on with the next one.
-/

namespace TechniquePages

/-- A page of a corpus, and the record it is converted to. -/
structure BatchJob where
  input : FilePath
  output : FilePath
  deriving DecidableEq

namespace BatchJob

/-- The name of a technique's directory, which begins with a capital letter. -/
def isDirectoryName : Text → Bool
  | 'T' :: rest =>
    match Page.Marker.techniqueDigits? rest with
    | some (_, after) => after.isEmpty
    | none => false
  | _ => false

/-- The name of a technique's page, in any case. -/
def isPageName : Text → Bool
  | letter :: rest =>
    (letter == 'T' || letter == 't') &&
      match Page.Marker.techniqueDigits? rest with
      | some (_, after) => after.map Char.toLower == ".md".toList
      | none => false
  | [] => false

/--
The job of a file, if it is a page of a corpus.  The record goes beside the
page, or below an output directory to the page's own directory.
-/
def ofFile? (outDirectory : Option FilePath) (path : FilePath) : Option BatchJob := do
  let name ← path.fileName?
  let parent ← path.parent?
  let directory ← parent.fileName?
  let stem ← path.stem?
  if isDirectoryName directory && isPageName name then
    -- The extension is replaced in whatever case it is written.
    let record := stem ++ ".json".toList
    some ⟨path,
      match outDirectory with
      | some outDirectory => (outDirectory.join directory).join record
      | none => parent.join record⟩
  else none

/-- Jobs in order: by input, then by output. -/
def precedes (left right : BatchJob) : Bool :=
  left.input.precedes right.input ||
    (!right.input.precedes left.input && left.output.precedes right.output)

/-- Put a job at its place in order. -/
def insert (job : BatchJob) : List BatchJob → List BatchJob
  | [] => [job]
  | present :: rest =>
    if job.precedes present then job :: present :: rest else present :: insert job rest

/-- Jobs in order. -/
def sort (jobs : List BatchJob) : List BatchJob :=
  jobs.foldl (fun sorted job => insert job sorted) []

end BatchJob

/-- What every page of a batch has in common. -/
structure BatchOptions where
  outDirectory : Option FilePath
  reshape : Reshape
  schema : Option Schema
  layout : RecordLayout

/-- What has become of a page. -/
inductive BatchOutcome where
  | converted (input output : FilePath)
  | failed (input : FilePath) (fault : ConversionFault)

/-- The page that an outcome is about. -/
def BatchOutcome.input : BatchOutcome → FilePath
  | .converted input _ => input
  | .failed input _ => input

/-- The page could not be converted. -/
def BatchOutcome.isFailure : BatchOutcome → Bool
  | .converted _ _ => false
  | .failed _ _ => true

/-- The outcomes of a batch in order. -/
structure BatchReport where
  outcomes : List BatchOutcome

namespace BatchReport

/-- The pages that could not be converted. -/
def failures (report : BatchReport) : List BatchOutcome :=
  report.outcomes.filter BatchOutcome.isFailure

/-- How many pages were converted. -/
def converted (report : BatchReport) : Nat :=
  report.outcomes.length - report.failures.length

/-- Every page was converted. -/
def isSuccess (report : BatchReport) : Bool :=
  report.failures.isEmpty

/-- Every page was converted or could not be. -/
theorem converted_add_failures (report : BatchReport) :
    report.converted + report.failures.length = report.outcomes.length := by
  have bound : report.failures.length ≤ report.outcomes.length :=
    List.length_filter_le _ _
  unfold converted
  omega

end BatchReport

/-- The event that reports a corpus which cannot be walked. -/
def unreadableEvent (path : FilePath) (fault : FileFault) : Log.Event :=
  ⟨.warn, "skipping unreadable path".toList,
    [("error", "IO error for operation on ".toList ++ path ++ ": ".toList ++ fault.message)]⟩

/-- The jobs of a corpus in order. -/
def discover (root : FilePath) (outDirectory : Option FilePath) : Action (List BatchJob) :=
  .files root fun answer =>
    match answer with
    | .error fault => do
      Action.log (unreadableEvent root fault)
      return []
    | .ok files => .done (BatchJob.sort (files.filterMap (BatchJob.ofFile? outDirectory)))

/-- The conversion that a job asks for. -/
def BatchJob.request (options : BatchOptions) (job : BatchJob) : ConversionRequest :=
  ⟨job.input, some "markdown".toList, some "json".toList, .file job.output, options.reshape,
    options.schema, options.layout⟩

/-- Convert one page of a batch. -/
def runJob (options : BatchOptions) (job : BatchJob) : Action BatchOutcome := do
  match ← convert (job.request options) with
  | .ok _ => return .converted job.input job.output
  | .error fault =>
    Action.log ⟨.warn, "failed to convert".toList,
      [("input", job.input), ("error", fault.message)]⟩
    return .failed job.input fault

/-- Convert pages one after the other. -/
def runJobs (options : BatchOptions) : List BatchJob → Action (List BatchOutcome)
  | [] => return []
  | job :: rest => do
    let outcome ← runJob options job
    let outcomes ← runJobs options rest
    return outcome :: outcomes

/-- Convert every page of a corpus. -/
def runBatch (root : FilePath) (options : BatchOptions) : Action BatchReport := do
  let jobs ← discover root options.outDirectory
  let outcomes ← runJobs options jobs
  let report : BatchReport := ⟨outcomes⟩
  Action.log ⟨.info, "batch finished".toList, [
    ("root", root),
    ("converted", Text.ofNat report.converted),
    ("failed", Text.ofNat report.failures.length)]⟩
  return report

end TechniquePages
