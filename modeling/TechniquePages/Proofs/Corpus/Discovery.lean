import TechniquePages.Proofs.Corpus.Names
import TechniquePages.Proofs.Corpus.Runs
import TechniquePages.Proofs.Files.Folders
import TechniquePages.Proofs.Files.Order

/-!
# Discovery of a corpus

The pages of a corpus are the files at or below its root that have the name of a
page and stand in a directory with the name of a technique.  Discovery finds each of
them once, by a path that leads from the root to it, and lists them in the order of
those paths.

Different files have paths with different parts, so the order is strict.
-/

namespace TechniquePages

open FileTree (IsGrounded)

/-- A file with the name of a page, in a directory with the name of a technique. -/
structure IsPage (path parent : FilePath) (directory name : Text) : Prop where
  named : path.fileName? = some name
  above : path.parent? = some parent
  within : parent.fileName? = some directory
  numbered : BatchJob.isDirectoryName directory = true
  page : BatchJob.isPageName name = true

theorem IsPage.parent_ne_nil
    {path parent : FilePath}
    {directory name : Text}
    (page : IsPage path parent directory name) :
    parent ≠ [] := by
  intro empty
  have within := page.within
  rw [empty] at within
  cases within

/-- A path leads from a root to a page of the corpus there. -/
structure IsDocument (tree : FileTree) (root path : FilePath) : Prop where
  file : tree.isFile path = true
  below : ∃ place names, tree.locate root = .ok place ∧
    tree.locate path = .ok (place ++ names) ∧ path = names.foldl FilePath.join root
  page : ∃ parent directory name, IsPage path parent directory name

/-! ## Jobs -/

namespace BatchJob

/-- The directory that the record of a page goes to. -/
def recordDirectory
    (outDirectory : Option FilePath)
    (parent : FilePath)
    (directory : Text) : FilePath :=
  match outDirectory with
  | some outDirectory => outDirectory.join directory
  | none => parent

theorem ofFile?_eq_some_iff
    (outDirectory : Option FilePath)
    (path : FilePath)
    (job : BatchJob) :
    ofFile? outDirectory path = some job ↔
      ∃ parent directory name, IsPage path parent directory name ∧
        job = ⟨path, (recordDirectory outDirectory parent directory).join (recordName name)⟩ := by
  rw [ofFile?]
  constructor
  · intro made
    cases named : path.fileName? with
    | none => simp [named] at made
    | some name =>
      cases above : path.parent? with
      | none => simp [named, above] at made
      | some parent =>
        cases within : parent.fileName? with
        | none => simp [named, above, within] at made
        | some directory =>
          have stem : path.stem? = some (FilePath.cutExtension name).1 := by
            simp [FilePath.stem?, named]
          simp only [named, above, within, stem, Option.bind_eq_bind, Option.bind_some] at made
          split at made
          · rename_i both
            rw [Bool.and_eq_true] at both
            refine ⟨parent, directory, name, ⟨named, above, within, both.1, both.2⟩, ?_⟩
            rw [← Option.some.inj made]
            cases outDirectory <;> rfl
          · cases made
  · rintro ⟨parent, directory, name, ⟨named, above, within, numbered, page⟩, rfl⟩
    have stem : path.stem? = some (FilePath.cutExtension name).1 := by
      simp [FilePath.stem?, named]
    simp only [named, above, within, stem, numbered, page, Option.bind_eq_bind, Option.bind_some,
      Bool.and_self, if_true]
    cases outDirectory <;> rfl

/-! ## Order -/

theorem perm_insert (job : BatchJob) (jobs : List BatchJob) :
    (insert job jobs).Perm (job :: jobs) := by
  induction jobs with
  | nil => exact List.Perm.refl _
  | cons present rest hypothesis =>
    rw [insert]
    split
    · exact List.Perm.refl _
    · exact (hypothesis.cons present).trans (List.Perm.swap job present rest)

theorem perm_foldl_insert (jobs sorted : List BatchJob) :
    (jobs.foldl (fun sorted job => insert job sorted) sorted).Perm (jobs ++ sorted) := by
  induction jobs generalizing sorted with
  | nil => exact List.Perm.refl _
  | cons job rest hypothesis =>
    exact (hypothesis _).trans (((perm_insert job sorted).append_left rest).trans
      List.perm_middle)

theorem perm_sort (jobs : List BatchJob) : (sort jobs).Perm jobs := by
  simpa [sort] using perm_foldl_insert jobs []

/-- A job is put before those with later paths. -/
theorem pairwise_insert
    {job : BatchJob}
    {sorted : List BatchJob}
    (ordered : sorted.Pairwise fun first second => first.input.precedes second.input = true)
    (different : ∀ present ∈ sorted, job.input.parts ≠ present.input.parts) :
    (insert job sorted).Pairwise fun first second => first.input.precedes second.input = true := by
  induction sorted with
  | nil => exact List.pairwise_singleton _ _
  | cons present rest hypothesis =>
    rcases List.pairwise_cons.mp ordered with ⟨front, back⟩
    rcases List.forall_mem_cons.mp different with ⟨other, others⟩
    rw [insert]
    split
    · rename_i earlier
      have first : job.input.precedes present.input = true := by
        rcases FilePath.precedes_or_precedes other with lower | higher
        · exact lower
        · have opposite := FilePath.not_precedes_of_precedes higher
          simp [precedes, higher, opposite] at earlier
      refine List.pairwise_cons.mpr ⟨List.forall_mem_cons.mpr ⟨first, ?_⟩, ordered⟩
      exact fun later member => FilePath.precedes_trans first (front later member)
    · rename_i later
      have first : present.input.precedes job.input = true := by
        rcases FilePath.precedes_or_precedes other with lower | higher
        · simp [precedes, lower] at later
        · exact higher
      refine List.pairwise_cons.mpr ⟨fun next member => ?_, hypothesis back others⟩
      rcases List.mem_cons.mp ((perm_insert job rest).mem_iff.mp member) with rfl | inside
      · exact first
      · exact front next inside

/-- Jobs with different paths are sorted strictly. -/
theorem pairwise_sort
    {jobs : List BatchJob}
    (different : jobs.Pairwise fun first second => first.input.parts ≠ second.input.parts) :
    (sort jobs).Pairwise fun first second => first.input.precedes second.input = true := by
  have general : ∀ rest sorted : List BatchJob,
      (sorted ++ rest).Pairwise (fun first second => first.input.parts ≠ second.input.parts) →
      sorted.Pairwise (fun first second => first.input.precedes second.input = true) →
      (rest.foldl (fun sorted job => insert job sorted) sorted).Pairwise
        fun first second => first.input.precedes second.input = true := by
    intro rest
    induction rest with
    | nil => exact fun _ _ ordered => ordered
    | cons job rest hypothesis =>
      intro sorted distinct ordered
      have apart : ∀ present ∈ sorted, job.input.parts ≠ present.input.parts := by
        intro present member
        have parted := (List.pairwise_append.mp distinct).2.2
        exact (parted present member job (List.mem_cons_self ..)).symm
      refine hypothesis _ ?_ (pairwise_insert ordered apart)
      have moved : (sorted ++ job :: rest).Perm (insert job sorted ++ rest) :=
        List.perm_middle.trans (((perm_insert job sorted).append_right rest).symm)
      exact (moved.pairwise_iff fun same => same.symm).mp distinct
  exact general jobs [] (by simpa using different) List.Pairwise.nil

end BatchJob

/-! ## Files -/

namespace FileTree

theorem below?_eq_some_iff
    (above place names : Place) :
    below? above place = some names ↔ place = above ++ names := by
  induction above generalizing place with
  | nil => simp [below?, eq_comm]
  | cons first rest hypothesis =>
    cases place with
    | nil => simp [below?]
    | cons name more =>
      rw [below?]
      by_cases same : first = name
      · simp [same, hypothesis]
      · simp [same, Ne.symm same]

/-- Something other than a directory stands at a place. -/
theorem isFile_iff
    (tree : FileTree)
    (path : FilePath) :
    tree.isFile path = true ↔
      ∃ place entry, tree.locate path = .ok place ∧ tree.entry? place = some entry ∧
        entry ≠ .directory ∧ asksDirectory path = false := by
  rw [isFile]
  cases tree.locate path with
  | error fault => simp
  | ok place =>
    cases found : tree.entry? place with
    | none => simp [found]
    | some entry => cases entry <;> simp [found]

theorem exists_entry_of_isFile
    {tree : FileTree}
    {path : FilePath}
    {place : Place}
    (isFile : tree.isFile path = true)
    (located : tree.locate path = .ok place) :
    ∃ entry, tree.entry? place = some entry ∧ entry ≠ .directory ∧ asksDirectory path = false := by
  rcases (isFile_iff ..).mp isFile with ⟨other, entry, again, found, file, unasked⟩
  rw [located] at again
  cases again
  exact ⟨entry, found, file, unasked⟩

theorem parts_foldl_join
    {root : FilePath}
    (nonempty : root ≠ [])
    {names : Place}
    (proper : ∀ name ∈ names, IsName name) :
    (names.foldl FilePath.join root).parts = root.parts ++ names.map .name := by
  induction names generalizing root with
  | nil => simp
  | cons name rest hypothesis =>
    rcases List.forall_mem_cons.mp proper with ⟨good, others⟩
    rw [List.foldl_cons, hypothesis (FilePath.join_ne_nil good.nonempty root) others,
      FilePath.parts_join good.nonempty good.notHere good.notUp good.unslashed nonempty,
      List.map_cons, List.append_assoc, List.singleton_append]

variable {tree : FileTree} {root : FilePath} {paths : List FilePath}

/-- The path of an entry of a tree, if it is a file at or below the place of a root. -/
def listedPath?
    (root : FilePath)
    (place : Place)
    (present : Place × Entry) : Option FilePath :=
  if present.2 = .directory then none
  else (below? place present.1).map fun names => names.foldl FilePath.join root

theorem listedPath?_eq_some_iff
    (root : FilePath)
    (place other : Place)
    (entry : Entry)
    (path : FilePath) :
    listedPath? root place (other, entry) = some path ↔
      entry ≠ .directory ∧ ∃ names, other = place ++ names ∧
        path = names.foldl FilePath.join root := by
  rw [listedPath?]
  by_cases directory : entry = .directory
  · simp [directory]
  · simp [directory, below?_eq_some_iff, @eq_comm _ path]

theorem exists_of_files_eq_ok
    (listed : tree.files root = .ok paths) :
    ∃ place present, tree.locate root = .ok place ∧ tree.entry? place = some present ∧
      (present ≠ .directory → asksDirectory root = false) ∧
      paths = tree.entries.filterMap (listedPath? root place) := by
  rw [files] at listed
  cases located : tree.locate root with
  | error fault => simp [located] at listed
  | ok place =>
    cases found : tree.entry? place with
    | none => simp [located, found] at listed
    | some present =>
      simp only [located, found] at listed
      split at listed
      · cases listed
      · rename_i unasked
        refine ⟨place, present, rfl, found, fun file => ?_, (Except.ok.inj listed).symm⟩
        simpa [file] using unasked

/-- Files are listed where one can be found. -/
theorem exists_files_eq_ok
    (grounded : tree.IsGrounded)
    {path : FilePath}
    {place names : Place}
    (located : tree.locate root = .ok place)
    (reached : tree.locate path = .ok (place ++ names))
    (joined : path = names.foldl FilePath.join root)
    (isFile : tree.isFile path = true) :
    ∃ paths, tree.files root = .ok paths := by
  rcases exists_entry_of_isFile isFile reached with ⟨entry, entered, file, unasked⟩
  cases names with
  | nil =>
    rw [List.append_nil] at entered
    rw [joined, List.foldl_nil] at unasked
    rw [files]
    simp only [located, entered]
    rw [if_neg (by simp [unasked])]
    exact ⟨_, rfl⟩
  | cons name rest =>
    have directory := grounded.hasDirectory_of_append (List.cons_ne_nil name rest)
      (by rw [entered]; rfl)
    rw [hasDirectory_iff] at directory
    rw [files]
    simp only [located, directory]
    rw [if_neg (by simp)]
    exact ⟨_, rfl⟩

/-- The files that are listed are those found at or below the root. -/
theorem mem_files_iff
    (wellFormed : tree.IsWellFormed)
    (listed : tree.files root = .ok paths)
    (path : FilePath) :
    path ∈ paths ↔ tree.isFile path = true ∧ ∃ place names, tree.locate root = .ok place ∧
      tree.locate path = .ok (place ++ names) ∧ path = names.foldl FilePath.join root := by
  rcases exists_of_files_eq_ok listed with ⟨place, present, located, found, unasked, rfl⟩
  rw [List.mem_filterMap]
  constructor
  · rintro ⟨⟨other, entry⟩, member, path?⟩
    rcases (listedPath?_eq_some_iff ..).mp path? with ⟨file, names, rfl, rfl⟩
    have proper := wellFormed.named _ member
    have entered := (wellFormed.mem_entries_iff proper.1 entry).mp member
    have reached := locate_below wellFormed.toIsGrounded located
      (fun name inside => proper.2 name (List.mem_append_right _ inside)) (by rw [entered]; rfl)
    refine ⟨(isFile_iff ..).mpr ⟨_, entry, reached, entered, file, ?_⟩, place, names, located,
      reached, rfl⟩
    cases names using List.reverseRecOn with
    | nil =>
      rw [List.append_nil, found] at entered
      exact unasked (Option.some.inj entered ▸ file)
    | append_singleton front name =>
      have good := proper.2 name (by simp)
      rw [List.foldl_append]
      exact asksDirectory_join good.nonempty good.unslashed _
  · rintro ⟨isFile, base, names, based, reached, rfl⟩
    rw [located] at based
    cases based
    rcases exists_entry_of_isFile isFile reached with ⟨entry, entered, file, -⟩
    have below : place ++ names ≠ [] := by
      intro empty
      rw [empty, entry?_nil] at entered
      exact file (Option.some.inj entered).symm
    exact ⟨(place ++ names, entry), (wellFormed.mem_entries_iff below entry).mpr entered,
      (listedPath?_eq_some_iff ..).mpr ⟨file, names, rfl, rfl⟩⟩

/-- The paths of different files have different parts. -/
theorem pairwise_parts_files
    (wellFormed : tree.IsWellFormed)
    (listed : tree.files root = .ok paths) :
    paths.Pairwise fun first second => first.parts ≠ second.parts := by
  rcases exists_of_files_eq_ok listed with ⟨place, present, located, -, -, rfl⟩
  have nonempty := ((locate_eq_ok_iff ..).mp located).2.1
  rw [List.pairwise_filterMap]
  refine (List.pairwise_map.mp wellFormed.distinct).imp_of_mem ?_
  rintro ⟨first, entry⟩ ⟨second, other⟩ member later different path path? next next?
  rcases (listedPath?_eq_some_iff ..).mp path? with ⟨-, names, rfl, rfl⟩
  rcases (listedPath?_eq_some_iff ..).mp next? with ⟨-, others, rfl, rfl⟩
  have proper : ∀ name ∈ names, IsName name := fun name inside =>
    (wellFormed.named _ member).2 name (List.mem_append_right _ inside)
  have good : ∀ name ∈ others, IsName name := fun name inside =>
    (wellFormed.named _ later).2 name (List.mem_append_right _ inside)
  rw [parts_foldl_join nonempty proper, parts_foldl_join nonempty good]
  intro same
  have equal := List.map_injective_iff.mpr (fun _ _ => FilePath.Part.name.inj)
    (List.append_cancel_left same)
  exact different (congrArg (place ++ ·) equal)

end FileTree

/-! ## Discovery -/

variable {tree : FileTree}

/-- Discovery lists the job of every document once, in order, and changes no file. -/
theorem discover_spec
    (wellFormed : tree.IsWellFormed)
    (root : FilePath)
    (outDirectory : Option FilePath) :
    ∃ jobs, ((discover root outDirectory).run tree).result = (jobs, tree) ∧
      jobs.Pairwise (fun first second => first.input.precedes second.input = true) ∧
      ∀ job, job ∈ jobs ↔
        IsDocument tree root job.input ∧ BatchJob.ofFile? outDirectory job.input = some job := by
  cases listed : tree.files root with
  | error fault =>
    refine ⟨[], ?_, List.Pairwise.nil, fun job => ?_⟩
    · rw [discover]
      simp only [Action.run, listed]
      rfl
    · simp only [List.not_mem_nil, false_iff, not_and]
      rintro ⟨isFile, ⟨place, names, located, reached, joined⟩, -⟩
      rcases FileTree.exists_files_eq_ok wellFormed.toIsGrounded located reached joined isFile with
        ⟨paths, found⟩
      rw [listed] at found
      cases found
  | ok paths =>
    refine ⟨BatchJob.sort (paths.filterMap (BatchJob.ofFile? outDirectory)), ?_, ?_, fun job => ?_⟩
    · rw [discover]
      simp only [Action.run, listed]
      rfl
    · apply BatchJob.pairwise_sort
      rw [List.pairwise_filterMap]
      refine (FileTree.pairwise_parts_files wellFormed listed).imp fun different => ?_
      intro first first? second second?
      rcases (BatchJob.ofFile?_eq_some_iff ..).mp first? with ⟨_, _, _, -, rfl⟩
      rcases (BatchJob.ofFile?_eq_some_iff ..).mp second? with ⟨_, _, _, -, rfl⟩
      exact different
    · rw [(BatchJob.perm_sort _).mem_iff, List.mem_filterMap]
      constructor
      · rintro ⟨path, member, made⟩
        rcases (BatchJob.ofFile?_eq_some_iff ..).mp made with ⟨parent, directory, name, page, rfl⟩
        rcases (FileTree.mem_files_iff wellFormed listed path).mp member with ⟨isFile, below⟩
        exact ⟨⟨isFile, below, parent, directory, name, page⟩, made⟩
      · rintro ⟨⟨isFile, below, -⟩, made⟩
        exact ⟨job.input, (FileTree.mem_files_iff wellFormed listed _).mpr ⟨isFile, below⟩, made⟩

end TechniquePages
