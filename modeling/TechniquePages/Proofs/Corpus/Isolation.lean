import TechniquePages.Proofs.Corpus.Discovery

/-!
# Batches keep documents apart

A batch writes to the tree that it still reads from.  What it writes never matters to
a later page: records are put where no page is, and the directories that are made for
one record are never in the way of another one, since all records below an output
directory stand equally deep.

So writing a record is steady: it answers in every tree that the batch comes to as it
would have answered in the first one.  The outcome of a page is then the one that its
conversion has alone.
-/

namespace TechniquePages

open FileTree (Grown IsGrounded)
open FilePath (names)

/-! ## Records below a path -/

section Records

variable {tree left : FileTree} {base : FilePath} {record : Text} {place : Place}

theorem parentsMade_join
    (tree : FileTree)
    (settled : base.IsSettled)
    (proper : IsName record) :
    tree.parentsMade (base.join record) = tree.makeDirectories base := by
  rw [FileTree.parentsMade,
    FilePath.parent?_join settled proper.nonempty proper.notHere proper.unslashed]
  exact if_neg (by simpa using settled.nonempty)

/-- A record is written in the directory of its path, unless its own name is one. -/
theorem result_run_writeFile_join
    (settled : base.IsSettled)
    (proper : IsName record)
    (made : tree.makeDirectories base = (.ok (), left))
    (located : left.locate base = .ok place)
    (directory : left.hasDirectory place)
    (text : Text) :
    ((writeFile (base.join record) text).run tree).result =
      if left.hasDirectory (place ++ [record]) then
        (.error (.file (base.join record) .isDirectory), left)
      else (.ok (base.join record), left.set (place ++ [record]) (.file text)) := by
  have found : left.locate (base.join record) = .ok (place ++ [record]) :=
    (FileTree.locate_join left settled.nonempty proper _).mpr ⟨place, located, directory, rfl⟩
  rw [result_run_writeFile, parentsMade_join tree settled proper, made]
  simp only [FileTree.writeText_of_locate found
    (FileTree.asksDirectory_join proper.nonempty proper.unslashed base)]
  by_cases taken : left.hasDirectory (place ++ [record])
  · simp only [if_pos taken]
  · simp only [if_neg taken]

end Records

/-! ## Steady outputs -/

/-- Writing to a path answers alike in all trees that differ by what may be made and written. -/
def IsSteady
    (made written : Place → Prop)
    (tree : FileTree)
    (output : FilePath) : Prop :=
  ∃ verdict, ∀ current text, Grown made written tree current → current.IsGrounded →
    ((writeFile output text).run current).result.1 = verdict ∧
      Grown made written tree ((writeFile output text).run current).result.2 ∧
      ((writeFile output text).run current).result.2.IsGrounded

section Steady

variable {made written : Place → Prop} {tree : FileTree} {base : FilePath} {record : Text}

/-- Where a record is written, the tree grows by it. -/
theorem grown_record
    {left : FileTree}
    {place : Place}
    (grown : Grown made written tree left)
    (grounded : left.IsGrounded)
    (directory : left.hasDirectory place)
    (noted : written (place ++ [record]))
    (free : ¬ left.hasDirectory (place ++ [record]))
    (text : Text) :
    Grown made written tree (left.set (place ++ [record]) (.file text)) ∧
      (left.set (place ++ [record]) (.file text)).IsGrounded := by
  have vacant : left.entry? (place ++ [record]) ≠ some .directory := by
    rwa [FileTree.hasDirectory_iff] at free
  have step := FileTree.grown_set_file vacant text
  refine ⟨grown.trans (step.mono (fun _ => False.elim) fun other here => ?_),
    grounded.set directory (Or.inr vacant)⟩
  rw [here]
  exact noted

/-- A record beside its page is written in a directory that stands from the start. -/
theorem isSteady_inPlace
    {place : Place}
    (settled : base.IsSettled)
    (located : tree.locate base = .ok place)
    (directory : tree.hasDirectory place)
    (proper : IsName record)
    (unmade : ¬ made (place ++ [record]))
    (noted : written (place ++ [record])) :
    IsSteady made written tree (base.join record) := by
  refine ⟨if tree.hasDirectory (place ++ [record]) then
    .error (.file (base.join record) .isDirectory) else .ok (base.join record), ?_⟩
  intro current text grown grounded
  have found := grown.locate located
  have present := grown.hasDirectory directory
  rw [result_run_writeFile_join settled proper
    (FileTree.makeDirectories_of_hasDirectory found present) found present,
    grown.hasDirectory_eq unmade]
  by_cases taken : tree.hasDirectory (place ++ [record])
  · rw [if_pos taken, if_pos taken]
    exact ⟨rfl, grown, grounded⟩
  · rw [if_neg taken, if_neg taken]
    rw [← grown.hasDirectory_eq unmade] at taken
    exact ⟨rfl, grown_record grown grounded present noted taken text⟩

/-- Making the directories of a path that leads down answers as in the first tree. -/
theorem makeDirectories_of_grown
    (settled : base.IsSettled)
    (straight : "..".toList ∉ names base)
    (unended : '\x00' ∉ base)
    {limit : Nat}
    (deep : (tree.start base).length + (names base).length = limit)
    (deeper : ∀ place, written place → limit < place.length)
    {current : FileTree}
    (grown : Grown (fun place => place.length ≤ limit) written tree current)
    (grounded : current.IsGrounded) :
    ∃ left, current.makeDirectories base =
        ((match tree.barrier? (tree.start base) (names base).reverse with
          | none => .ok ()
          | some fault => .error fault), left) ∧
      Grown (fun place => place.length ≤ limit) written tree left ∧ left.IsGrounded ∧
      (tree.barrier? (tree.start base) (names base).reverse = none →
        left.locate base = .ok (tree.start base ++ names base) ∧
        left.hasDirectory (tree.start base ++ names base)) := by
  have named : names base = (names base).reverse.reverse := (List.reverse_reverse _).symm
  -- Records stand too deep to be in the way of a directory.
  have same : ∀ {other : FileTree}, Grown (fun place => place.length ≤ limit) written tree other →
      other.barrier? (tree.start base) (names base).reverse =
        tree.barrier? (tree.start base) (names base).reverse := by
    intro other further
    refine further.barrier?_eq fun place short here => ?_
    have long := deeper place here
    rw [List.length_reverse] at short
    omega
  have made : FileTree.IsMade limit current (current.start base) (names base).reverse
      (current.makeDirectories base) := by
    refine FileTree.isMade_makeDirectories grounded settled unended named straight ?_
    rw [grown.start_eq, List.length_reverse]
    exact deep.le
  rcases result : current.makeDirectories base with ⟨answer, left⟩
  rw [grown.start_eq, result] at made
  rcases made with ⟨given, further, calm, directory⟩
  rw [same grown] at given directory
  have whole : Grown (fun place => place.length ≤ limit) written tree left :=
    grown.trans (further.mono (fun _ short => short) fun _ => False.elim)
  refine ⟨left, Prod.ext given rfl, whole, calm, fun free => ?_⟩
  have present := directory free
  have located := FileTree.locate_of_hasDirectory calm settled unended named straight
    (by rw [whole.start_eq, same whole, free]) (by rw [whole.start_eq]; exact present)
  rw [whole.start_eq, List.reverse_reverse] at located
  rw [List.reverse_reverse] at present
  exact ⟨located, present⟩

/-- A record below a path that leads down is met by the same obstacles, or by none. -/
theorem isSteady_below
    (settled : base.IsSettled)
    (straight : "..".toList ∉ names base)
    (proper : IsName record)
    {limit : Nat}
    (deep : (tree.start base).length + (names base).length = limit)
    (deeper : ∀ place, written place → limit < place.length)
    (noted : written (tree.start base ++ names base ++ [record])) :
    IsSteady (fun place => place.length ≤ limit) written tree (base.join record) := by
  by_cases ended : '\x00' ∈ base
  · refine ⟨.error (.file (base.join record) .holdsNul), fun current text grown grounded => ?_⟩
    rw [result_run_writeFile, parentsMade_join current settled proper,
      FileTree.makeDirectories_of_mem_nul current ended]
    exact ⟨rfl, grown, grounded⟩
  · have steps := fun {current : FileTree} (grown : Grown _ written tree current) calm =>
      makeDirectories_of_grown settled straight ended deep deeper grown calm
    cases free : tree.barrier? (tree.start base) (names base).reverse with
    | some fault =>
      refine ⟨.error (.file (base.join record) fault), fun current text grown grounded => ?_⟩
      rcases steps grown grounded with ⟨left, made, whole, calm, -⟩
      simp only [free] at made
      rw [result_run_writeFile, parentsMade_join current settled proper, made]
      exact ⟨rfl, whole, calm⟩
    | none =>
      have unmade : ¬ (tree.start base ++ names base ++ [record]).length ≤ limit :=
        Nat.not_le.mpr (deeper _ noted)
      refine ⟨if tree.hasDirectory (tree.start base ++ names base ++ [record]) then
          .error (.file (base.join record) .isDirectory)
        else .ok (base.join record), fun current text grown grounded => ?_⟩
      rcases steps grown grounded with ⟨left, made, whole, calm, standing⟩
      simp only [free] at made
      rcases standing free with ⟨located, directory⟩
      rw [result_run_writeFile_join settled proper made located directory,
        whole.hasDirectory_eq unmade]
      by_cases taken : tree.hasDirectory (tree.start base ++ names base ++ [record])
      · simp only [if_pos taken]
        exact ⟨trivial, whole, calm⟩
      · simp only [if_neg taken]
        rw [← whole.hasDirectory_eq unmade] at taken
        exact ⟨trivial, grown_record whole calm directory noted taken text⟩

end Steady

/-! ## Pages -/

section Pages

variable {made written : Place → Prop} {tree current : FileTree}

/-- A file is found at a path, and nothing is written where it is. -/
def IsKept (written : Place → Prop) (tree : FileTree) (path : FilePath) : Prop :=
  ∃ place, tree.locate path = .ok place ∧ (tree.entry? place).isSome ∧ ¬ written place

theorem IsKept.readText_eq
    {path : FilePath}
    (kept : IsKept written tree path)
    (grown : Grown made written tree current) :
    current.readText path = tree.readText path := by
  rcases kept with ⟨place, located, present, unwritten⟩
  rw [FileTree.readText, FileTree.readText, located, grown.locate located]
  simp only [grown.entry?_eq unwritten present]

/-- The record of a page does not change while nothing is written where the page is. -/
theorem IsKept.record_eq
    {job : BatchJob}
    (kept : IsKept written tree job.input)
    (grown : Grown made written tree current)
    (options : BatchOptions) :
    job.record options current = job.record options tree := by
  have same : current.readText (job.request options).input =
      tree.readText (job.request options).input := kept.readText_eq grown
  rw [BatchJob.record, BatchJob.record, ConversionRequest.composed, ConversionRequest.composed,
    same]

/-- One page of a batch: its outcome is that in the first tree, and the tree only grows. -/
theorem runJob_of_grown
    {job : BatchJob}
    (grounded : tree.IsGrounded)
    (steady : IsSteady made written tree job.output)
    (kept : IsKept written tree job.input)
    (grown : Grown made written tree current)
    (calm : current.IsGrounded)
    (options : BatchOptions) :
    ((runJob options job).run current).result.1 = ((runJob options job).run tree).result.1 ∧
      Grown made written tree ((runJob options job).run current).result.2 ∧
      ((runJob options job).run current).result.2.IsGrounded := by
  rw [result_run_runJob, result_run_runJob, kept.record_eq grown]
  cases job.record options tree with
  | error fault => exact ⟨rfl, grown, calm⟩
  | ok text =>
    rcases steady with ⟨verdict, steady⟩
    rcases steady current text grown calm with ⟨answer, further, still⟩
    rcases steady tree text (Grown.refl tree) grounded with ⟨first, -, -⟩
    simp only
    generalize ((writeFile job.output text).run current).result = now at answer further still ⊢
    generalize ((writeFile job.output text).run tree).result = alone at first ⊢
    rcases now with ⟨found, after⟩
    rcases alone with ⟨expected, other⟩
    have same : found = expected := answer.trans first.symm
    subst same
    cases found <;> exact ⟨rfl, further, still⟩

/-- A whole batch: every page has the outcome that it has in the first tree. -/
theorem runJobs_of_grown
    {jobs : List BatchJob}
    (grounded : tree.IsGrounded)
    (steady : ∀ job ∈ jobs, IsSteady made written tree job.output)
    (kept : ∀ job ∈ jobs, IsKept written tree job.input)
    (grown : Grown made written tree current)
    (calm : current.IsGrounded)
    (options : BatchOptions) :
    ((runJobs options jobs).run current).result.1 =
        jobs.map (fun job => ((runJob options job).run tree).result.1) ∧
      Grown made written tree ((runJobs options jobs).run current).result.2 := by
  induction jobs generalizing current with
  | nil => exact ⟨rfl, grown⟩
  | cons job rest hypothesis =>
    rcases List.forall_mem_cons.mp steady with ⟨first, others⟩
    rcases List.forall_mem_cons.mp kept with ⟨here, later⟩
    rcases runJob_of_grown grounded first here grown calm options with ⟨answer, further, still⟩
    rcases hypothesis others later further still with ⟨answers, whole⟩
    rw [runJobs, Action.result_run_bind, Action.result_run_bind, answers, answer]
    exact ⟨rfl, whole⟩

end Pages

/-! ## Documents -/

section Documents

variable {tree : FileTree} {root : FilePath}

/-- A place where no page is. -/
def IsNoPage (place : Place) : Prop :=
  ∃ above name, place = above ++ [name] ∧ BatchJob.isPageName name = false

/-- A document is found in a directory, which is the place of its parent. -/
theorem IsDocument.exists_directory
    {path parent : FilePath}
    {directory name : Text}
    (document : IsDocument tree root path)
    (page : IsPage path parent directory name) :
    parent.IsSettled ∧ ∃ place, tree.locate path = .ok (place ++ [name]) ∧
      (tree.entry? (place ++ [name])).isSome ∧ tree.hasDirectory place ∧
      tree.locate parent = .ok place := by
  rcases (FileTree.isFile_iff ..).mp document.file with ⟨place, entry, located, found, -, -⟩
  rcases FileTree.locate_parent located page.named page.above page.parent_ne_nil with
    ⟨settled, above, rfl, present, higher⟩
  exact ⟨settled, above, located, by rw [found]; rfl, present, higher⟩

theorem IsDocument.isKept
    {path : FilePath}
    (document : IsDocument tree root path)
    {written : Place → Prop}
    (away : ∀ place, written place → IsNoPage place) :
    IsKept written tree path := by
  rcases document.page with ⟨parent, directory, name, page⟩
  rcases document.exists_directory page with ⟨-, place, located, present, -, -⟩
  refine ⟨place ++ [name], located, present, fun here => ?_⟩
  rcases away _ here with ⟨above, other, same, outside⟩
  have equal := (List.cons.inj (List.append_inj' same rfl).2).1
  rw [← equal, page.page] at outside
  cases outside

/-- The records of a batch without an output directory leading up are all steady. -/
theorem exists_isSteady
    (tree : FileTree)
    (root : FilePath)
    (outDirectory : Option FilePath)
    (straight : ∀ path ∈ outDirectory, FilePath.Part.up ∉ path.parts) :
    ∃ made written, (∀ place, written place → IsNoPage place) ∧
      ∀ job, IsDocument tree root job.input →
        BatchJob.ofFile? outDirectory job.input = some job →
        IsSteady made written tree job.output := by
  cases outDirectory with
  | none =>
    refine ⟨fun _ => False, IsNoPage, fun _ here => here, fun job document made => ?_⟩
    rcases (BatchJob.ofFile?_eq_some_iff ..).mp made with ⟨parent, directory, name, page, same⟩
    rcases document.exists_directory page with ⟨settled, place, -, -, present, located⟩
    rw [same]
    exact isSteady_inPlace settled located present (BatchJob.isName_recordName page.page) id
      ⟨place, _, rfl, BatchJob.isPageName_recordName page.page⟩
  | some path =>
    have down : "..".toList ∉ names path := fun member =>
      straight path rfl (FilePath.up_mem_parts member)
    refine ⟨fun place => place.length ≤ (tree.start path).length + (names path).length + 1,
      fun place => IsNoPage place ∧
        (tree.start path).length + (names path).length + 1 < place.length,
      fun _ here => here.1, fun job document made => ?_⟩
    rcases (BatchJob.ofFile?_eq_some_iff ..).mp made with ⟨parent, directory, name, page, same⟩
    have proper := BatchJob.isName_of_isDirectoryName page.numbered
    have joined := FilePath.names_join proper.nonempty proper.notHere proper.unslashed path
    have begins := tree.start_join proper path
    have settled := FilePath.isSettled_join proper.nonempty proper.notHere proper.unslashed path
    rw [same]
    refine isSteady_below settled ?_ (BatchJob.isName_recordName page.page) ?_
      (fun _ here => here.2) ⟨⟨_, _, rfl, BatchJob.isPageName_recordName page.page⟩, ?_⟩
    · rw [joined]
      simpa using And.intro down proper.notUp.symm
    · rw [begins, joined, List.length_append, List.length_singleton, Nat.add_assoc]
    · change _ < (tree.start (path.join directory) ++ names (path.join directory) ++ _).length
      rw [begins, joined]
      simp
      omega

end Documents

/-! ## The batch -/

namespace BatchJob

/-- The outcome of a page when its conversion is the only one. -/
def alone
    (options : BatchOptions)
    (tree : FileTree)
    (job : BatchJob) : BatchOutcome :=
  match ((convert (job.request options)).run tree).value with
  | .ok _ => .converted job.input job.output
  | .error fault => .failed job.input fault

theorem result_run_runJob_eq_alone
    (options : BatchOptions)
    (tree : FileTree)
    (job : BatchJob) :
    ((runJob options job).run tree).result.1 = job.alone options tree := by
  rw [runJob, Action.result_run_bind, alone]
  change ((Action.run _ (match ((convert (job.request options)).run tree).value with
    | .ok _ => _
    | .error fault => _)).result).1 = _
  cases ((convert (job.request options)).run tree).value <;> rfl

end BatchJob

/-- What keeps the documents of a batch apart, said of the jobs that are found. -/
structure IsIsolated
    (root : FilePath)
    (options : BatchOptions)
    (tree : FileTree)
    (jobs : List BatchJob) : Prop where
  /-- The jobs are those of the documents. -/
  documents : ∀ path, path ∈ jobs.map BatchJob.input ↔ IsDocument tree root path
  made : ∀ job ∈ jobs, BatchJob.ofFile? options.outDirectory job.input = some job
  /-- Every file has one job. -/
  once : ∀ path, IsDocument tree root path →
    ∃! job, job ∈ jobs ∧ tree.locate job.input = tree.locate path
  ordered : jobs.Pairwise fun first second => first.input.precedes second.input = true
  outcomes : ((runBatch root options).run tree).value.outcomes =
    jobs.map (BatchJob.alone options tree)
  /-- Every document is where it was, and what it was. -/
  unchanged : ∀ job ∈ jobs, ∃ place, tree.locate job.input = .ok place ∧
    ((runBatch root options).run tree).tree.locate job.input = .ok place ∧
    ((runBatch root options).run tree).tree.entry? place = tree.entry? place
  success : ((runBatch root options).run tree).value.isSuccess = true ↔
    ∀ outcome ∈ ((runBatch root options).run tree).value.outcomes, outcome.isFailure = false
  counted : ((runBatch root options).run tree).value.converted +
    ((runBatch root options).run tree).value.failures.length = jobs.length

/-- A batch runs the jobs that are found; its report on the end changes nothing. -/
theorem run_runBatch
    {root : FilePath}
    {options : BatchOptions}
    {tree : FileTree}
    {jobs : List BatchJob}
    (found : ((discover root options.outDirectory).run tree).result = (jobs, tree)) :
    ((runBatch root options).run tree).value.outcomes =
        ((runJobs options jobs).run tree).result.1 ∧
      ((runBatch root options).run tree).tree = ((runJobs options jobs).run tree).result.2 := by
  have result : ((runBatch root options).run tree).result =
      (⟨((runJobs options jobs).run tree).result.1⟩,
        ((runJobs options jobs).run tree).result.2) := by
    rw [runBatch, Action.result_run_bind, found, Action.result_run_bind, Action.result_run_bind]
    rfl
  exact ⟨congrArg (fun result => result.1.outcomes) result, congrArg Prod.snd result⟩

/-- Two documents at one place are reached by one path. -/
theorem IsDocument.eq_of_locate_eq
    {tree : FileTree}
    {root first second : FilePath}
    (one : IsDocument tree root first)
    (other : IsDocument tree root second)
    (same : tree.locate first = tree.locate second) :
    first = second := by
  rcases one.below with ⟨place, names, located, reached, rfl⟩
  rcases other.below with ⟨again, more, relocated, rereached, rfl⟩
  rw [located] at relocated
  cases relocated
  rw [reached, rereached] at same
  rw [List.append_cancel_left (Except.ok.inj same)]

theorem IsDocument.exists_job
    {tree : FileTree}
    {root path : FilePath}
    (document : IsDocument tree root path)
    (outDirectory : Option FilePath) :
    ∃ job, job.input = path ∧ BatchJob.ofFile? outDirectory job.input = some job := by
  rcases document.page with ⟨parent, directory, name, page⟩
  exact ⟨⟨path, _⟩, rfl,
    (BatchJob.ofFile?_eq_some_iff outDirectory path _).mpr ⟨parent, directory, name, page, rfl⟩⟩

/-- The outcomes of a batch are those of its pages alone, and what it read is kept. -/
theorem outcomes_runBatch
    {tree : FileTree}
    (grounded : tree.IsGrounded)
    {root : FilePath}
    {options : BatchOptions}
    {jobs : List BatchJob}
    (found : ((discover root options.outDirectory).run tree).result = (jobs, tree))
    (members : ∀ job ∈ jobs, IsDocument tree root job.input ∧
      BatchJob.ofFile? options.outDirectory job.input = some job)
    (straight : ∀ path ∈ options.outDirectory, FilePath.Part.up ∉ path.parts) :
    ((runBatch root options).run tree).value.outcomes = jobs.map (BatchJob.alone options tree) ∧
      ∀ job ∈ jobs, ∃ place, tree.locate job.input = .ok place ∧
        ((runBatch root options).run tree).tree.locate job.input = .ok place ∧
        ((runBatch root options).run tree).tree.entry? place = tree.entry? place := by
  rcases exists_isSteady tree root options.outDirectory straight with
    ⟨made, written, away, steady⟩
  have kept : ∀ job ∈ jobs, IsKept written tree job.input := fun job member =>
    (members job member).1.isKept away
  rcases runJobs_of_grown grounded
    (fun job member => steady job (members job member).1 (members job member).2)
    kept (Grown.refl tree) grounded options with ⟨answers, grown⟩
  rcases run_runBatch found with ⟨report, after⟩
  rw [← after] at grown
  refine ⟨?_, fun job member => ?_⟩
  · rw [report, answers]
    exact List.map_congr_left fun job _ => BatchJob.result_run_runJob_eq_alone options tree job
  · rcases kept job member with ⟨place, located, present, unwritten⟩
    exact ⟨place, located, grown.locate located, grown.entry?_eq unwritten present⟩

/-- A batch gives every document the outcome that it has alone, and changes none of them. -/
theorem runBatch_isolates
    {tree : FileTree}
    (wellFormed : tree.IsWellFormed)
    (root : FilePath)
    (options : BatchOptions)
    (straight : ∀ path ∈ options.outDirectory, FilePath.Part.up ∉ path.parts) :
    IsIsolated root options tree ((discover root options.outDirectory).run tree).value := by
  rcases discover_spec wellFormed root options.outDirectory with ⟨jobs, found, ordered, members⟩
  have listed : ((discover root options.outDirectory).run tree).value = jobs :=
    congrArg Prod.fst found
  rcases outcomes_runBatch wellFormed.toIsGrounded found (fun job => (members job).mp) straight
    with ⟨outcomes, unchanged⟩
  rw [listed]
  refine ⟨fun path => ?_, fun job member => ((members job).mp member).2, fun path document => ?_,
    ordered, outcomes, unchanged, ?_, ?_⟩
  · rw [List.mem_map]
    constructor
    · rintro ⟨job, member, rfl⟩
      exact ((members job).mp member).1
    · intro document
      rcases document.exists_job options.outDirectory with ⟨job, rfl, made⟩
      exact ⟨job, (members job).mpr ⟨document, made⟩, rfl⟩
  · rcases document.exists_job options.outDirectory with ⟨job, rfl, made⟩
    refine ⟨job, ⟨(members job).mpr ⟨document, made⟩, rfl⟩, ?_⟩
    rintro other ⟨present, same⟩
    rcases (members other).mp present with ⟨also, again⟩
    rw [also.eq_of_locate_eq document same, made] at again
    exact (Option.some.inj again).symm
  · simp [BatchReport.isSuccess, BatchReport.failures, List.filter_eq_nil_iff]
  · rw [BatchReport.converted_add_failures, outcomes, List.length_map]

/-- A corpus of two pages, the second of which is none that can be read. -/
def smallCorpus : FileTree where
  home := ["work".toList]
  entries := [
    (["work".toList], .directory),
    (["work".toList, "T1001".toList], .directory),
    (["work".toList, "T1001".toList, "T1001.md".toList], .file "nothing".toList),
    (["work".toList, "T1000".toList], .directory),
    (["work".toList, "T1000".toList, "t1000.MD".toList], .file "# T1000 - Blank\n".toList)]

/-- Records below a directory of their own, nothing else chosen. -/
def belowOut : BatchOptions := ⟨some "out".toList, .none, none, .spread⟩

theorem runBatch_isolates_smallCorpus :
    (smallCorpus.IsWellFormed ∧
      ∀ path ∈ belowOut.outDirectory, FilePath.Part.up ∉ FilePath.parts path) ∧
      ((discover ".".toList belowOut.outDirectory).run smallCorpus).value =
        [⟨"./T1000/t1000.MD".toList, "out/T1000/t1000.json".toList⟩,
          ⟨"./T1001/T1001.md".toList, "out/T1001/T1001.json".toList⟩] ∧
      IsIsolated ".".toList belowOut smallCorpus
        ((discover ".".toList belowOut.outDirectory).run smallCorpus).value :=
  have wellFormed : smallCorpus.IsWellFormed := by decide
  have straight : ∀ path ∈ belowOut.outDirectory, FilePath.Part.up ∉ FilePath.parts path := by
    decide
  ⟨⟨wellFormed, straight⟩, by decide, runBatch_isolates wellFormed ".".toList belowOut straight⟩

end TechniquePages
