import TechniquePages.Proofs.Corpus.Isolation

/-!
# Where records go

A record is named after the stem of its page, and stands beside the page or in a
directory named like the page's own.  That much decides its path: two pages have the
same output exactly when they agree in it.  Pages in one directory whose names differ
in the case of the extension do, and below an output directory pages of different
directories with one name.

Outputs with different paths are different files.  So at the end of a batch each file
holds the record of the last page that was converted to it.
-/

namespace TechniquePages

open FileTree (Grown)

/-! ## Equal outputs -/

namespace BatchJob

/-- What the path of a page's record is made of, apart from the output directory. -/
def recordKey? (outDirectory : Option FilePath) (path : FilePath) : Option (Text × Text) := do
  let stem ← path.stem?
  let parent ← path.parent?
  match outDirectory with
  | none => some (parent, stem)
  | some _ => (parent.fileName?).map fun directory => (directory, stem)

end BatchJob

theorem IsPage.isSettled
    {path parent : FilePath}
    {directory name : Text}
    (page : IsPage path parent directory name) :
    parent.IsSettled := by
  rcases FilePath.exists_above_of_parent? page.named page.above page.parent_ne_nil with
    ⟨pieces, split, solid, more⟩
  rcases FilePath.exists_parent? split solid more with ⟨other, above, settled, -⟩
  rw [page.above] at above
  cases above
  exact settled

theorem recordKey?_of_isPage
    {path parent : FilePath}
    {directory name : Text}
    (page : IsPage path parent directory name)
    (outDirectory : Option FilePath) :
    BatchJob.recordKey? outDirectory path =
      some ((match outDirectory with | none => parent | some _ => directory),
        (FilePath.cutExtension name).1) := by
  have stem : path.stem? = some (FilePath.cutExtension name).1 := by
    simp [FilePath.stem?, page.named]
  rw [BatchJob.recordKey?]
  cases outDirectory <;> simp [stem, page.above, page.within]

/-- Outputs are equal exactly when the pages agree in what the output is made of. -/
theorem output_eq_iff
    {outDirectory : Option FilePath}
    {first second : BatchJob}
    (one : BatchJob.ofFile? outDirectory first.input = some first)
    (other : BatchJob.ofFile? outDirectory second.input = some second) :
    first.output = second.output ↔
      BatchJob.recordKey? outDirectory first.input =
        BatchJob.recordKey? outDirectory second.input := by
  rcases (BatchJob.ofFile?_eq_some_iff ..).mp one with ⟨parent, directory, name, page, same⟩
  rcases (BatchJob.ofFile?_eq_some_iff ..).mp other with ⟨above, within, next, paper, equal⟩
  have record := BatchJob.isName_recordName page.page
  have sheet := BatchJob.isName_recordName paper.page
  have stems : BatchJob.recordName name = BatchJob.recordName next ↔
      (FilePath.cutExtension name).1 = (FilePath.cutExtension next).1 :=
    List.append_left_inj _
  have outputs : first.output = (BatchJob.recordDirectory outDirectory parent directory).join
      (BatchJob.recordName name) := by rw [same]
  have other : second.output = (BatchJob.recordDirectory outDirectory above within).join
      (BatchJob.recordName next) := by rw [equal]
  rw [recordKey?_of_isPage page, recordKey?_of_isPage paper, outputs, other]
  cases outDirectory with
  | none =>
    have ending := And.intro page.isSettled.nonempty (page.isSettled.getLast?_ne_slash page.within)
    have finish := And.intro paper.isSettled.nonempty
      (paper.isSettled.getLast?_ne_slash paper.within)
    simp only [BatchJob.recordDirectory]
    rw [FilePath.join_injective ending finish record.unslashed sheet.unslashed, stems]
    simp
  | some path =>
    have proper := BatchJob.isName_of_isDirectoryName page.numbered
    have good := BatchJob.isName_of_isDirectoryName paper.numbered
    have ending : ∀ {text : Text}, IsName text →
        path.join text ≠ [] ∧ (path.join text).getLast? ≠ some '/' := by
      intro text named
      refine ⟨FilePath.join_ne_nil named.nonempty path, ?_⟩
      rw [FilePath.getLast?_join named.nonempty]
      exact fun slash => named.unslashed (List.mem_of_getLast? slash)
    simp only [BatchJob.recordDirectory]
    rw [FilePath.join_injective (ending proper) (ending good) record.unslashed sheet.unslashed,
      FilePath.join_right_inj proper.unslashed good.unslashed, stems]
    simp

/-! ## Different outputs -/

section Places

variable {tree current : FileTree} {root : FilePath}

/-- Nothing is below a root that is a file itself. -/
theorem eq_nil_of_isFile
    (wellFormed : tree.IsWellFormed)
    {base below : Place}
    (rooted : tree.locate root = .ok base)
    {path : FilePath}
    (whole : tree.isFile root = true)
    (file : tree.isFile path = true)
    (located : tree.locate path = .ok (base ++ below)) :
    below = [] := by
  by_contra more
  rcases FileTree.exists_entry_of_isFile whole rooted with ⟨entry, kind, plain, -⟩
  rcases FileTree.exists_entry_of_isFile file located with ⟨_, present, -⟩
  have directory := wellFormed.hasDirectory_of_append more (by rw [present]; rfl)
  rw [FileTree.hasDirectory_iff, kind] at directory
  exact plain (Option.some.inj directory)

/-- Documents in one directory have the same parent. -/
theorem IsDocument.parent_eq
    (wellFormed : tree.IsWellFormed)
    {first second parent above : FilePath}
    {directory within name next : Text}
    (one : IsDocument tree root first)
    (other : IsDocument tree root second)
    (page : IsPage first parent directory name)
    (paper : IsPage second above within next)
    {place : Place}
    (located : tree.locate first = .ok (place ++ [name]))
    (relocated : tree.locate second = .ok (place ++ [next])) :
    parent = above := by
  rcases one.below with ⟨base, names, rooted, reached, rfl⟩
  rcases other.below with ⟨again, more, rerooted, rereached, rfl⟩
  rw [rooted] at rerooted
  cases rerooted
  rw [located] at reached
  rw [relocated] at rereached
  have placed := Except.ok.inj reached
  have replaced := Except.ok.inj rereached
  have nonempty := ((FileTree.locate_eq_ok_iff ..).mp rooted).2.1
  cases names using List.reverseRecOn with
  | nil =>
    have none := eq_nil_of_isFile wellFormed rooted one.file other.file
      (by rw [relocated, replaced])
    rw [none] at paper
    exact Option.some.inj (page.above.symm.trans paper.above)
  | append_singleton front last =>
    cases more using List.reverseRecOn with
    | nil =>
      have none := eq_nil_of_isFile wellFormed rooted other.file one.file (by rw [located, placed])
      simp at none
    | append_singleton back final =>
      rcases FileTree.exists_entry_of_isFile one.file (by rw [located, placed]) with ⟨_, present, -⟩
      rcases FileTree.exists_entry_of_isFile other.file (by rw [relocated, replaced]) with
        ⟨_, found, -⟩
      have proper := wellFormed.isName_of_mem (by rw [present]; rfl)
      have good := wellFormed.isName_of_mem (by rw [found]; rfl)
      have top := FileTree.parent?_foldl_join nonempty fun name member =>
        proper name (List.mem_append_right _ member)
      have next := FileTree.parent?_foldl_join nonempty fun name member =>
        good name (List.mem_append_right _ member)
      rw [← List.append_assoc] at placed replaced
      rcases List.append_inj' placed rfl with ⟨rfl, -⟩
      rcases List.append_inj' replaced rfl with ⟨same, -⟩
      cases List.append_cancel_left same
      rw [page.above] at top
      rw [paper.above] at next
      exact Option.some.inj (top.trans next.symm)

/-- Different outputs are found at different places. -/
theorem output_eq_of_locate_eq
    (wellFormed : tree.IsWellFormed)
    {outDirectory : Option FilePath}
    {first second : BatchJob}
    (one : IsDocument tree root first.input)
    (made : BatchJob.ofFile? outDirectory first.input = some first)
    (other : IsDocument tree root second.input)
    (remade : BatchJob.ofFile? outDirectory second.input = some second)
    {makes writes : Place → Prop}
    (grown : Grown makes writes tree current)
    {place : Place}
    (located : current.locate first.output = .ok place)
    (relocated : current.locate second.output = .ok place) :
    first.output = second.output := by
  rcases (BatchJob.ofFile?_eq_some_iff ..).mp made with ⟨parent, directory, name, page, same⟩
  rcases (BatchJob.ofFile?_eq_some_iff ..).mp remade with ⟨above, within, next, paper, equal⟩
  have record := BatchJob.isName_recordName page.page
  have sheet := BatchJob.isName_recordName paper.page
  rw [same] at located ⊢
  rw [equal] at relocated ⊢
  cases outDirectory with
  | none =>
    rcases one.exists_directory page with ⟨settled, place, here, -, -, found⟩
    rcases other.exists_directory paper with ⟨calm, other, there, -, -, refound⟩
    rcases (current.locate_join settled.nonempty record _).mp located with ⟨front, high, -, rfl⟩
    rcases (current.locate_join calm.nonempty sheet _).mp relocated with ⟨back, higher, -, final⟩
    rcases List.append_inj' final rfl with ⟨rfl, records⟩
    rw [grown.locate found] at high
    rw [grown.locate refound] at higher
    cases high
    cases higher
    have parents := one.parent_eq wellFormed other page paper here there
    simp only [BatchJob.recordDirectory]
    rw [parents, (List.cons.inj records).1]
  | some path =>
    have proper := BatchJob.isName_of_isDirectoryName page.numbered
    have good := BatchJob.isName_of_isDirectoryName paper.numbered
    simp only [BatchJob.recordDirectory] at located relocated ⊢
    rcases (current.locate_join (FilePath.join_ne_nil proper.nonempty path) record _).mp located
      with ⟨front, above, -, rfl⟩
    rcases (current.locate_join (FilePath.join_ne_nil good.nonempty path) sheet _).mp relocated
      with ⟨back, higher, -, last⟩
    rcases List.append_inj' last rfl with ⟨rfl, records⟩
    rcases FileTree.exists_of_locate_join proper above with ⟨start, rfl⟩
    rcases FileTree.exists_of_locate_join good higher with ⟨begin, last⟩
    rw [(List.cons.inj records).1, (List.cons.inj (List.append_inj' last rfl).2).1]

end Places

/-! ## Runs -/

/-- What the conversion of a page comes to, and the tree it leaves. -/
inductive JobRun
    (options : BatchOptions)
    (tree : FileTree)
    (job : BatchJob) : BatchOutcome × FileTree → Prop where
  | failed
      (fault : ConversionFault)
      (after : FileTree)
      (grown : Grown (fun _ => True) (fun _ => False) tree after) :
      JobRun options tree job (.failed job.input fault, after)
  | converted
      (text : Text)
      (left : FileTree)
      (place : Place)
      (record : job.record options tree = .ok text)
      (grown : Grown (fun _ => True) (fun _ => False) tree left)
      (located : left.locate job.output = .ok place)
      (free : left.entry? place ≠ some .directory) :
      JobRun options tree job
        (.converted job.input job.output, left.set place (.file text))

theorem jobRun
    (options : BatchOptions)
    (tree : FileTree)
    (job : BatchJob) :
    JobRun options tree job ((runJob options job).run tree).result := by
  rw [result_run_runJob]
  cases record : job.record options tree with
  | error fault => exact .failed fault tree (Grown.refl tree)
  | ok text =>
    rcases result : ((writeFile job.output text).run tree).result with ⟨fault | written, after⟩
    · rcases exists_of_writeFile_error result with ⟨reason, -, grown⟩
      simp only [result]
      exact .failed fault after (grown.mono (fun _ _ => trivial) fun _ => id)
    · rcases exists_of_writeFile_ok result with ⟨left, grown, done, -⟩
      rcases FileTree.writeText_eq_ok done with ⟨place, located, free, -, rfl⟩
      simp only [result]
      exact .converted text left place record (grown.mono (fun _ _ => trivial) fun _ => id) located
        free

theorem JobRun.input_eq
    {options : BatchOptions}
    {tree : FileTree}
    {job : BatchJob}
    {result : BatchOutcome × FileTree}
    (run : JobRun options tree job result) :
    result.1.input = job.input := by
  cases run <;> rfl

/-- A file with a text is found at a path. -/
def Holds (tree : FileTree) (path : FilePath) (text : Text) : Prop :=
  ∃ place, tree.locate path = .ok place ∧ tree.entry? place = some (.file text)

/-- A job that discovery makes of a document. -/
structure IsJob
    (tree : FileTree)
    (root : FilePath)
    (outDirectory : Option FilePath)
    (job : BatchJob) : Prop where
  document : IsDocument tree root job.input
  made : BatchJob.ofFile? outDirectory job.input = some job

section Runs

variable {tree current : FileTree} {root : FilePath} {outDirectory : Option FilePath}
  {options : BatchOptions} {job other : BatchJob} {result : BatchOutcome × FileTree}

theorem IsJob.exists_output
    (isJob : IsJob tree root outDirectory job) :
    ∃ base record, job.output = FilePath.join base record ∧ base ≠ [] ∧ IsName record ∧
      BatchJob.isPageName record = false := by
  rcases (BatchJob.ofFile?_eq_some_iff ..).mp isJob.made with ⟨parent, directory, name, page, same⟩
  refine ⟨BatchJob.recordDirectory outDirectory parent directory, BatchJob.recordName name,
    congrArg BatchJob.output same, ?_, BatchJob.isName_recordName page.page,
    BatchJob.isPageName_recordName page.page⟩
  cases outDirectory with
  | none => exact page.isSettled.nonempty
  | some path =>
    exact FilePath.join_ne_nil (BatchJob.isName_of_isDirectoryName page.numbered).nonempty path

theorem IsJob.isNoPage
    (isJob : IsJob tree root outDirectory job)
    {place : Place}
    (located : current.locate job.output = .ok place) :
    IsNoPage place := by
  rcases isJob.exists_output with ⟨base, record, same, nonempty, proper, outside⟩
  rw [same] at located
  rcases (current.locate_join nonempty proper place).mp located with ⟨above, -, -, last⟩
  exact ⟨above, record, last, outside⟩

theorem IsJob.readText_of_holds
    (isJob : IsJob tree root outDirectory job)
    {text : Text}
    (holds : Holds current job.output text) :
    current.readText job.output = .ok text := by
  rcases isJob.exists_output with ⟨base, record, same, nonempty, proper, -⟩
  rcases holds with ⟨place, located, file⟩
  have unasked : FileTree.asksDirectory job.output = false := by
    rw [same]
    exact FileTree.asksDirectory_join proper.nonempty proper.unslashed base
  rw [FileTree.readText, located]
  simp [file, unasked]

/-- Nothing that the conversion of a page does touches a page. -/
theorem JobRun.grown
    (run : JobRun options current job result)
    (isJob : IsJob tree root outDirectory job)
    (grown : Grown (fun _ => True) IsNoPage tree current) :
    Grown (fun _ => True) IsNoPage tree result.2 := by
  cases run with
  | failed fault after step =>
    exact grown.trans (step.mono (fun _ _ => trivial) fun _ => False.elim)
  | converted text left place record step located free =>
    refine (grown.trans (step.mono (fun _ _ => trivial) fun _ => False.elim)).trans
      ((FileTree.grown_set_file free text).mono (fun _ => False.elim) fun other here => ?_)
    rw [here]
    exact isJob.isNoPage located

/-- The file at an output stays as it is while no page is converted to that output. -/
theorem JobRun.holds
    (run : JobRun options current job result)
    (wellFormed : tree.IsWellFormed)
    (isJob : IsJob tree root outDirectory job)
    (isOther : IsJob tree root outDirectory other)
    (grown : Grown (fun _ => True) IsNoPage tree current)
    {text : Text}
    (holds : Holds current other.output text)
    (apart : job.output = other.output → result.1 ≠ .converted job.input job.output) :
    Holds result.2 other.output text := by
  rcases holds with ⟨place, found, file⟩
  cases run with
  | failed fault after step =>
    exact ⟨place, step.locate found, by rw [step.entry?_eq id (by rw [file]; rfl), file]⟩
  | converted written left target record step located free =>
    have later := step.locate found
    have different : place ≠ target := by
      rintro rfl
      refine apart ?_ rfl
      exact output_eq_of_locate_eq wellFormed isJob.document isJob.made isOther.document
        isOther.made (grown.trans (step.mono (fun _ _ => trivial) fun _ => False.elim)) located
        later
    have write := FileTree.grown_set_file free written
    refine ⟨place, write.locate later, ?_⟩
    rw [FileTree.entry?_set left (FileTree.ne_nil_of_entry?_ne free), if_neg different,
      step.entry?_eq id (by rw [file]; rfl), file]

/-- A page that is converted has its record at its output. -/
theorem JobRun.holds_output
    (run : JobRun options current job result)
    (isJob : IsJob tree root outDirectory job)
    (grown : Grown (fun _ => True) IsNoPage tree current)
    (converted : result.1 = .converted job.input job.output) :
    ∃ text, job.record options tree = .ok text ∧ Holds result.2 job.output text := by
  cases run with
  | failed fault after step => cases converted
  | converted text left place record step located free =>
    have kept := isJob.document.isKept fun _ (here : IsNoPage _) => here
    rw [kept.record_eq grown] at record
    refine ⟨text, record, place, (FileTree.grown_set_file free text).locate located, ?_⟩
    rw [FileTree.entry?_set left (FileTree.ne_nil_of_entry?_ne free), if_pos rfl]

theorem input_runJobs
    (jobs : List BatchJob) :
    ((runJobs options jobs).run current).result.1.map BatchOutcome.input =
      jobs.map BatchJob.input := by
  induction jobs generalizing current with
  | nil => rfl
  | cons job rest hypothesis =>
    rw [runJobs, Action.result_run_bind, Action.result_run_bind]
    exact congrArg₂ List.cons (jobRun options current job).input_eq hypothesis

/-- The outcomes and the tree of a list of jobs, from those of its first one. -/
theorem result_runJobs_cons
    (job : BatchJob)
    (rest : List BatchJob) :
    ((runJobs options (job :: rest)).run current).result =
      let first := ((runJob options job).run current).result
      let others := ((runJobs options rest).run first.2).result
      (first.1 :: others.1, others.2) := by
  rw [runJobs, Action.result_run_bind, Action.result_run_bind]
  rfl

/-- A record stays while no later page is converted to its output. -/
theorem holds_runJobs
    {jobs : List BatchJob}
    (wellFormed : tree.IsWellFormed)
    (all : ∀ job ∈ jobs, IsJob tree root outDirectory job)
    (isOther : IsJob tree root outDirectory other)
    (grown : Grown (fun _ => True) IsNoPage tree current)
    {text : Text}
    (holds : Holds current other.output text)
    (apart : ∀ job ∈ jobs, job.output = other.output →
      .converted job.input job.output ∉ ((runJobs options jobs).run current).result.1) :
    Holds ((runJobs options jobs).run current).result.2 other.output text := by
  induction jobs generalizing current with
  | nil => exact holds
  | cons job rest hypothesis =>
    rcases List.forall_mem_cons.mp all with ⟨isJob, others⟩
    rw [result_runJobs_cons] at apart ⊢
    have run := jobRun options current job
    refine hypothesis others (run.grown isJob grown) ?_ ?_
    · refine run.holds wellFormed isJob isOther grown holds fun same here => ?_
      exact apart job (List.mem_cons_self ..) same (by simp [here])
    · intro later member same inside
      exact apart later (List.mem_cons_of_mem _ member) same (List.mem_cons_of_mem _ inside)

/-- Each output holds the record of the last page that was converted to it. -/
theorem holds_of_converted
    {before rest : List BatchJob}
    (wellFormed : tree.IsWellFormed)
    (all : ∀ other ∈ before ++ job :: rest, IsJob tree root outDirectory other)
    (distinct : ((before ++ job :: rest).map BatchJob.input).Nodup)
    (grown : Grown (fun _ => True) IsNoPage tree current)
    (converted : .converted job.input job.output ∈
      ((runJobs options (before ++ job :: rest)).run current).result.1)
    (last : ∀ later ∈ rest, later.output = job.output → .converted later.input later.output ∉
      ((runJobs options (before ++ job :: rest)).run current).result.1) :
    ∃ text, job.record options tree = .ok text ∧
      Holds ((runJobs options (before ++ job :: rest)).run current).result.2 job.output text := by
  induction before generalizing current with
  | nil =>
    rcases List.forall_mem_cons.mp all with ⟨isJob, others⟩
    simp only [List.nil_append, result_runJobs_cons] at converted last ⊢
    have run := jobRun options current job
    have further := run.grown isJob grown
    have own : .converted job.input job.output = ((runJob options job).run current).result.1 := by
      rcases List.mem_cons.mp converted with here | later
      · exact here
      · -- The outcomes that follow are about other pages.
        have inside := List.mem_map_of_mem (f := BatchOutcome.input) later
        rw [input_runJobs] at inside
        exact absurd inside (List.nodup_cons.mp distinct).1
    rcases run.holds_output isJob grown own.symm with ⟨text, record, holds⟩
    exact ⟨text, record, holds_runJobs wellFormed others isJob further holds fun later member same
      inside => last later member same (List.mem_cons_of_mem _ inside)⟩
  | cons first front hypothesis =>
    rcases List.forall_mem_cons.mp all with ⟨isFirst, others⟩
    simp only [List.cons_append, result_runJobs_cons] at converted last ⊢
    have run := jobRun options current first
    rw [List.cons_append, List.map_cons, List.nodup_cons] at distinct
    refine hypothesis others distinct.2 (run.grown isFirst grown) ?_ fun later member same inside =>
      last later member same (List.mem_cons_of_mem _ inside)
    rcases List.mem_cons.mp converted with here | later
    · have same : job.input = first.input := by
        rw [← run.input_eq, ← here]
        rfl
      exact absurd (List.mem_map.mpr ⟨job, by simp, same⟩) distinct.1
    · exact later

end Runs

/-! ## The batch -/

/-- Where the records of a batch end up, said of the jobs that are found. -/
structure KeepsRecords
    (root : FilePath)
    (options : BatchOptions)
    (tree : FileTree)
    (jobs : List BatchJob) : Prop where
  /-- Outputs differ exactly when pages differ in what outputs are made of. -/
  distinct : (jobs.map BatchJob.output).Nodup ↔
    (jobs.map fun job => BatchJob.recordKey? options.outDirectory job.input).Nodup
  /-- An output holds the record of the last page that was converted to it. -/
  last : ∀ before job rest, jobs = before ++ job :: rest →
    .converted job.input job.output ∈ ((runBatch root options).run tree).value.outcomes →
    (∀ later ∈ rest, later.output = job.output → .converted later.input later.output ∉
      ((runBatch root options).run tree).value.outcomes) →
    ∃ text, job.record options tree = .ok text ∧
      ((runBatch root options).run tree).tree.readText job.output = .ok text
  /-- No record is lost when outputs differ. -/
  kept : (jobs.map BatchJob.output).Nodup → ∀ job ∈ jobs,
    .converted job.input job.output ∈ ((runBatch root options).run tree).value.outcomes →
    ∃ text, job.record options tree = .ok text ∧
      ((runBatch root options).run tree).tree.readText job.output = .ok text

/-- At the end of a batch an output holds the record of the last page converted to it. -/
theorem exists_record_of_converted
    {tree : FileTree}
    (wellFormed : tree.IsWellFormed)
    {root : FilePath}
    {options : BatchOptions}
    {before rest : List BatchJob}
    {job : BatchJob}
    (found : ((discover root options.outDirectory).run tree).result =
      (before ++ job :: rest, tree))
    (all : ∀ other ∈ before ++ job :: rest, IsJob tree root options.outDirectory other)
    (inputs : ((before ++ job :: rest).map BatchJob.input).Nodup)
    (converted : .converted job.input job.output ∈
      ((runBatch root options).run tree).value.outcomes)
    (latest : ∀ later ∈ rest, later.output = job.output → .converted later.input later.output ∉
      ((runBatch root options).run tree).value.outcomes) :
    ∃ text, job.record options tree = .ok text ∧
      ((runBatch root options).run tree).tree.readText job.output = .ok text := by
  rcases run_runBatch found with ⟨outcomes, after⟩
  rw [outcomes] at converted latest
  rcases holds_of_converted wellFormed all inputs (Grown.refl tree) converted latest with
    ⟨text, record, holds⟩
  rw [← after] at holds
  exact ⟨text, record, (all job (by simp)).readText_of_holds holds⟩

/-- A batch loses a record only to a page with the same output. -/
theorem runBatch_keeps_records
    {tree : FileTree}
    (wellFormed : tree.IsWellFormed)
    (root : FilePath)
    (options : BatchOptions) :
    KeepsRecords root options tree ((discover root options.outDirectory).run tree).value := by
  rcases discover_spec wellFormed root options.outDirectory with ⟨jobs, found, ordered, members⟩
  have listed : ((discover root options.outDirectory).run tree).value = jobs :=
    congrArg Prod.fst found
  have all : ∀ job ∈ jobs, IsJob tree root options.outDirectory job := fun job member =>
    ⟨((members job).mp member).1, ((members job).mp member).2⟩
  have inputs : (jobs.map BatchJob.input).Nodup := by
    refine List.pairwise_map.mpr (ordered.imp fun earlier same => ?_)
    rw [same] at earlier
    exact absurd (FilePath.not_precedes_of_precedes earlier) (by simp [earlier])
  rw [listed]
  refine ⟨?_, ?_, fun apart job member converted => ?_⟩
  · rw [List.Nodup, List.Nodup, List.pairwise_map, List.pairwise_map]
    refine List.Pairwise.iff_of_mem fun {first second} one other => ?_
    exact not_congr (output_eq_iff (all first one).made (all second other).made)
  · rintro before job rest rfl converted latest
    exact exists_record_of_converted wellFormed found all inputs converted latest
  · rcases List.append_of_mem member with ⟨before, rest, rfl⟩
    refine exists_record_of_converted wellFormed found all inputs converted
      fun later inside same => ?_
    rw [List.map_append, List.map_cons] at apart
    have ahead := (List.nodup_append.mp apart).2.1
    exact absurd (List.mem_map.mpr ⟨later, inside, same⟩) (List.nodup_cons.mp ahead).1

/-- Two pages in one directory whose names differ in the case of the extension. -/
def twinCorpus : FileTree where
  home := ["work".toList]
  entries := [
    (["work".toList], .directory),
    (["work".toList, "T1000".toList], .directory),
    (["work".toList, "T1000".toList, "T1000.md".toList], .file "# T1000 - Lower\n".toList),
    (["work".toList, "T1000".toList, "T1000.MD".toList], .file "# T1000 - Upper\n".toList)]

/-- Records beside their pages, nothing else chosen. -/
def besidePages : BatchOptions := ⟨none, .none, none, .spread⟩

theorem runBatch_keeps_records_twinCorpus :
    twinCorpus.IsWellFormed ∧
      KeepsRecords ".".toList besidePages twinCorpus
        ((discover ".".toList besidePages.outDirectory).run twinCorpus).value :=
  have wellFormed : twinCorpus.IsWellFormed := by decide
  ⟨wellFormed, runBatch_keeps_records wellFormed ".".toList besidePages⟩

/-- Outputs are not always different. -/
theorem not_forall_outputs_nodup :
    ¬ ∀ (tree : FileTree) (root : FilePath) (outDirectory : Option FilePath),
      tree.IsWellFormed →
        (((discover root outDirectory).run tree).value.map BatchJob.output).Nodup := by
  intro distinct
  have twins := distinct twinCorpus ".".toList none (by decide)
  have same : (((discover ".".toList none).run twinCorpus).value.map BatchJob.output) =
      ["./T1000/T1000.json".toList, "./T1000/T1000.json".toList] := by decide
  rw [same] at twins
  exact absurd twins (by decide)

end TechniquePages
