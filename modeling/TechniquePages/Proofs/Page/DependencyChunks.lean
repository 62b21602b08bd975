import TechniquePages.Proofs.Page.Acceptance
import TechniquePages.Proofs.Page.WrittenDependencies

/-!
# Dependencies chunk by chunk

The lines below the dependencies heading are cut before each description.  What
stands before the first description belongs to no dependency, and each chunk makes
one dependency by itself if it has a check heading.  Reading gives the dependencies
of the chunks in order, up to the first chunk without one.

The same is done by a scan that goes on from position to position.  A round takes
the next description, looks for its blocks below the next one's description, and
goes on after the last block that it took.  Every round moves on, so the scan ends.
-/

namespace TechniquePages.Page

/-! ## What a search leaves -/

theorem Line.suffix_of_afterFirst?
    {α : Type}
    {answer? : LineKind → Option α}
    {lines rest : List Line}
    {answer : α}
    (found : Line.afterFirst? answer? lines = some (answer, rest)) :
    ∃ line, line :: rest <:+ lines := by
  rcases (Line.afterFirst?_eq_some_iff _ _ _ _).mp found with ⟨before, line, rfl, -, -⟩
  exact ⟨line, List.suffix_append _ _⟩

theorem Line.suffix_of_after?
    {kind : LineKind}
    {lines rest : List Line}
    (found : Line.after? kind lines = some rest) :
    rest <:+ lines := by
  rcases Option.map_eq_some_iff.mp found with ⟨⟨⟨⟩, after⟩, known, rfl⟩
  rcases Line.suffix_of_afterFirst? known with ⟨line, below⟩
  exact (List.suffix_cons line after).trans below

theorem Line.after?_eq_none_iff
    (kind : LineKind)
    (lines : List Line) :
    Line.after? kind lines = none ↔ ∀ line ∈ lines, line.kind ≠ kind := by
  rw [Line.after?, Option.map_eq_none_iff, Line.afterFirst?_eq_none_iff]
  simp

namespace FencedBlock

theorem suffix_of_untilClose?
    {lines inside rest : List Line}
    (found : untilClose? lines = some (inside, rest)) :
    rest <:+ lines := by
  induction lines generalizing inside with
  | nil => cases found
  | cons line others hypothesis =>
    rw [untilClose?] at found
    split at found
    · cases found
      exact List.suffix_cons ..
    · rcases Option.map_eq_some_iff.mp found with ⟨⟨code, after⟩, known, same⟩
      cases same
      exact (hypothesis known).trans (List.suffix_cons ..)

theorem suffix_of_first?
    {lines : List Line}
    {block : FencedBlock}
    (found : first? lines = some block) :
    block.rest <:+ lines := by
  simp only [first?, Option.bind_eq_bind, Option.bind_eq_some_iff] at found
  rcases found with ⟨⟨⟨⟩, inside⟩, opened, ⟨code, rest⟩, closed, same⟩
  cases same
  rcases Line.suffix_of_afterFirst? opened with ⟨line, below⟩
  exact (suffix_of_untilClose? closed).trans ((List.suffix_cons line inside).trans below)

end FencedBlock

namespace DependencyBlock

/-! ## Chunks -/

/-- The line describes no dependency. -/
def isPlain (line : Line) : Bool :=
  line.kind.dependency?.isNone

/-- A description and the lines below it that describe no other dependency. -/
def IsChunk (chunk : List Line) : Prop :=
  ∃ line below, chunk = line :: below ∧ isPlain line = false ∧ ∀ other ∈ below, isPlain other = true

/-- Lines cut before each description; what stands before the first one is left out. -/
structure IsCut (lines : List Line) (chunks : List (List Line)) : Prop where
  whole : ∃ ignored, lines = ignored ++ chunks.flatten ∧ ∀ line ∈ ignored, isPlain line = true
  chunk : ∀ chunk ∈ chunks, IsChunk chunk

/-- The chunks of the lines below the dependencies heading. -/
def chunks : List Line → List (List Line)
  | [] => []
  | line :: rest => if isPlain line then chunks rest else (line :: extent rest) :: chunks rest

/-- The chunk has a check heading. -/
def hasCheck (chunk : List Line) : Bool :=
  chunk.any fun line => line.kind = .checkHeading

theorem extent_eq (lines : List Line) : extent lines = lines.takeWhile isPlain := rfl

theorem isPlain_of_mem_extent
    {lines : List Line}
    {line : Line}
    (member : line ∈ extent lines) :
    isPlain line = true := by
  rw [extent_eq] at member
  exact List.mem_takeWhile_imp member

/-- The extent of plain lines and what follows: all of them, up to where what follows ends. -/
theorem extent_append
    {front : List Line}
    (plain : ∀ line ∈ front, isPlain line = true)
    (back : List Line) :
    extent (front ++ back) = front ++ extent back :=
  List.takeWhile_append_of_pos plain

theorem chunks_append
    {front : List Line}
    (plain : ∀ line ∈ front, isPlain line = true)
    (back : List Line) :
    chunks (front ++ back) = chunks back := by
  induction front with
  | nil => rfl
  | cons line rest hypothesis =>
    rcases List.forall_mem_cons.mp plain with ⟨first, others⟩
    rw [List.cons_append, chunks, if_pos first, hypothesis others]

/-- Chunks put together are cut where they were put together. -/
theorem chunks_flatten
    {parts : List (List Line)}
    (cut : ∀ part ∈ parts, IsChunk part) :
    chunks parts.flatten = parts ∧ extent parts.flatten = [] := by
  induction parts with
  | nil => exact ⟨rfl, rfl⟩
  | cons part rest hypothesis =>
    rcases List.forall_mem_cons.mp cut with ⟨⟨line, below, rfl, describes, plain⟩, others⟩
    rcases hypothesis others with ⟨same, ends⟩
    have unplain : ¬ isPlain line = true := by simp [describes]
    constructor
    · rw [List.flatten_cons, List.cons_append, chunks, if_neg unplain, extent_append plain, ends,
        chunks_append plain, same, List.append_nil]
    · rw [extent_eq, List.flatten_cons, List.cons_append, List.takeWhile_cons_of_neg unplain]

theorem flatten_chunks (lines : List Line) :
    (chunks lines).flatten = lines.dropWhile isPlain := by
  induction lines with
  | nil => rfl
  | cons line rest hypothesis =>
    rw [chunks]
    by_cases plain : isPlain line = true
    · rw [if_pos plain, hypothesis, List.dropWhile_cons_of_pos plain]
    · rw [if_neg plain, List.flatten_cons, hypothesis, List.dropWhile_cons_of_neg plain,
        List.cons_append, extent_eq, List.takeWhile_append_dropWhile]

theorem isChunk_of_mem_chunks
    {lines chunk : List Line}
    (member : chunk ∈ chunks lines) :
    IsChunk chunk := by
  induction lines with
  | nil => cases member
  | cons line rest hypothesis =>
    rw [chunks] at member
    split at member
    case isTrue => exact hypothesis member
    case isFalse describes =>
      rcases List.mem_cons.mp member with rfl | later
      · exact ⟨line, extent rest, rfl, by simpa using describes, fun other => isPlain_of_mem_extent⟩
      · exact hypothesis later

/-- There is one way to cut lines before each description. -/
theorem isCut_iff_eq_chunks
    (lines : List Line)
    (parts : List (List Line)) :
    IsCut lines parts ↔ parts = chunks lines := by
  constructor
  · rintro ⟨⟨ignored, rfl, plain⟩, cut⟩
    rw [chunks_append plain, (chunks_flatten cut).1]
  · rintro rfl
    refine ⟨⟨lines.takeWhile isPlain, ?_, fun line => List.mem_takeWhile_imp⟩,
      fun chunk => isChunk_of_mem_chunks⟩
    rw [flatten_chunks, List.takeWhile_append_dropWhile]

/-! ## Reading a chunk -/

theorem dependency?_eq_none_of_isPlain
    {line : Line}
    (plain : isPlain line = true) :
    line.kind.dependency? = none :=
  Option.isNone_iff_eq_none.mp plain

theorem readFrom_plain_append
    {front : List Line}
    (plain : ∀ line ∈ front, isPlain line = true)
    (back : List Line) :
    readFrom (front ++ back) = readFrom back :=
  readFrom_append (fun line member => dependency?_eq_none_of_isPlain (plain line member)) back

theorem readFrom_cons
    {line : Line}
    {description : Text}
    (describes : line.kind.dependency? = some description)
    (rest : List Line) :
    readFrom (line :: rest) =
      match dependency? description (extent rest) with
      | none => []
      | some dependency => dependency :: readFrom rest := by
  cases made : dependency? description (extent rest) with
  | none => simp only [readFrom, describes, made]
  | some dependency => simp only [readFrom, describes, made]

theorem readFrom_of_isPlain
    {lines : List Line}
    (plain : ∀ line ∈ lines, isPlain line = true) :
    readFrom lines = [] :=
  readFrom_of_silent fun line member => dependency?_eq_none_of_isPlain (plain line member)

theorem isSome_dependency?
    (description : Text)
    (lines : List Line) :
    (dependency? description lines).isSome = hasCheck lines := by
  rw [dependency?]
  cases found : Line.after? .checkHeading lines with
  | none =>
    have absent := (Line.after?_eq_none_iff ..).mp found
    symm
    simpa [hasCheck] using absent
  | some after =>
    have present : hasCheck lines = true := by
      by_contra unchecked
      have absent : ∀ line ∈ lines, line.kind ≠ .checkHeading := by
        simpa [hasCheck] using unchecked
      rw [(Line.after?_eq_none_iff ..).mpr absent] at found
      cases found
    dsimp only
    rw [present]
    cases FencedBlock.first? after <;> rfl

/-- A description is no check heading. -/
theorem hasCheck_cons
    {line : Line}
    (describes : isPlain line = false)
    (rest : List Line) :
    hasCheck (line :: rest) = hasCheck rest := by
  have unlike : line.kind ≠ .checkHeading := by
    intro same
    rw [isPlain, same] at describes
    cases describes
  simp [hasCheck, unlike]

/-- A chunk is read as its own dependency and what follows; without a check heading it ends
the reading. -/
theorem IsChunk.exists_readFrom_append
    {chunk : List Line}
    (cut : IsChunk chunk) :
    ∃ own : Option Dependency, own.isSome = hasCheck chunk ∧
      ∀ back, extent back = [] →
        readFrom (chunk ++ back) = own.elim [] fun dependency => dependency :: readFrom back := by
  rcases cut with ⟨line, below, rfl, describes, plain⟩
  rcases Option.isSome_iff_exists.mp (Option.isNone_eq_false_iff.mp describes) with
    ⟨description, known⟩
  refine ⟨dependency? description below, ?_, ?_⟩
  · rw [isSome_dependency?, hasCheck_cons describes]
  · intro back ends
    rw [List.cons_append, readFrom_cons known, extent_append plain, ends, List.append_nil,
      readFrom_plain_append plain]
    cases dependency? description below <;> rfl

/-- Chunks are read one after the other, up to the first one without a check heading. -/
theorem forall₂_readFrom_flatten
    {parts : List (List Line)}
    (cut : ∀ part ∈ parts, IsChunk part) :
    List.Forall₂ (fun part dependency => readFrom part = [dependency])
      (parts.takeWhile hasCheck) (readFrom parts.flatten) := by
  induction parts with
  | nil => exact List.Forall₂.nil
  | cons part rest hypothesis =>
    rcases List.forall_mem_cons.mp cut with ⟨first, others⟩
    rcases first.exists_readFrom_append with ⟨own, checked, reads⟩
    rw [List.flatten_cons, reads _ (chunks_flatten others).2]
    cases own with
    | none =>
      rw [List.takeWhile_cons_of_neg (by simp [← checked])]
      exact List.Forall₂.nil
    | some dependency =>
      have alone := reads [] rfl
      rw [List.append_nil] at alone
      rw [List.takeWhile_cons_of_pos checked.symm]
      exact List.Forall₂.cons alone (hypothesis others)

/-! ## Round by round -/

/-- The dependency that a description and its lines make, and the lines after the last block
that it took. -/
def taken?
    (description : Text)
    (lines : List Line) : Option (Dependency × List Line) := do
  let after ← Line.after? .checkHeading lines
  let check := FencedBlock.first? after
  let checked := (check.map FencedBlock.rest).getD after
  let get := (Line.after? .getHeading checked).bind FencedBlock.first?
  let command := get.bind fun block => ExecutorBlock.nonEmpty? block.content
  some
    (⟨Html.decode description, (check.map FencedBlock.content).getD [], command⟩,
      (get.map FencedBlock.rest).getD checked)

/-- A round of the scan: the next dependency, and the lines from which to go on. -/
def round? (lines : List Line) : Option (Dependency × List Line) := do
  let (description, rest) ← Line.afterFirst? LineKind.dependency? lines
  let (dependency, left) ← taken? description (extent rest)
  some (dependency, left ++ rest.dropWhile isPlain)

theorem dependency?_eq_map_taken?
    (description : Text)
    (lines : List Line) :
    dependency? description lines = (taken? description lines).map Prod.fst := by
  rw [dependency?, taken?]
  cases Line.after? .checkHeading lines with
  | none => rfl
  | some after =>
    dsimp only
    cases opened : FencedBlock.first? after with
    | none => simp [get?, opened, Option.bind_assoc]
    | some block => simp [get?, opened, Option.bind_assoc]

/-- What a search for a block leaves: the lines after it, or all of them. -/
theorem suffix_left
    {found? : Option FencedBlock}
    {lines : List Line}
    (below : ∀ block, found? = some block → block.rest <:+ lines) :
    (found?.map FencedBlock.rest).getD lines <:+ lines := by
  cases found? with
  | none => exact List.suffix_rfl
  | some block => exact below block rfl

theorem suffix_of_taken?
    {description : Text}
    {lines left : List Line}
    {dependency : Dependency}
    (taken : taken? description lines = some (dependency, left)) :
    left <:+ lines := by
  simp only [taken?, Option.bind_eq_bind, Option.bind_eq_some_iff] at taken
  rcases taken with ⟨after, checked, same⟩
  cases same
  have passed : ((FencedBlock.first? after).map FencedBlock.rest).getD after <:+ after :=
    suffix_left fun _ => FencedBlock.suffix_of_first?
  refine List.IsSuffix.trans (suffix_left ?_) (passed.trans (Line.suffix_of_after? checked))
  intro block found
  rcases Option.bind_eq_some_iff.mp found with ⟨following, heading, opened⟩
  exact (FencedBlock.suffix_of_first? opened).trans (Line.suffix_of_after? heading)

/-- A round that reads a dependency goes on below the line that describes it. -/
theorem exists_of_round?
    {lines left : List Line}
    {dependency : Dependency}
    (taken : round? lines = some (dependency, left)) :
    ∃ read, read ++ left = lines ∧ read ≠ [] := by
  simp only [round?, Option.bind_eq_bind, Option.bind_eq_some_iff] at taken
  rcases taken with ⟨⟨description, rest⟩, described, ⟨own, unread⟩, made, same⟩
  cases same
  rcases suffix_of_taken? made with ⟨read, split⟩
  rcases Line.suffix_of_afterFirst? described with ⟨line, before, rfl⟩
  have whole : read ++ (unread ++ rest.dropWhile isPlain) = rest := by
    rw [← List.append_assoc, split, extent_eq, List.takeWhile_append_dropWhile]
  refine ⟨before ++ line :: read, ?_, by simp⟩
  rw [List.append_assoc, List.cons_append, whole]

/-- A round reads what reading reads first; reading the lines that it leaves reads the rest. -/
theorem readFrom_eq_round?
    (lines : List Line) :
    readFrom lines =
      match round? lines with
      | none => []
      | some (dependency, left) => dependency :: readFrom left := by
  rw [round?]
  cases described : Line.afterFirst? LineKind.dependency? lines with
  | none =>
    have silent := (Line.afterFirst?_eq_none_iff ..).mp described
    rw [readFrom_of_isPlain fun line member => Option.isNone_iff_eq_none.mpr (silent line member)]
    rfl
  | some found =>
    rcases found with ⟨description, rest⟩
    rcases (Line.afterFirst?_eq_some_iff ..).mp described with ⟨before, line, rfl, silent, known⟩
    rw [readFrom_append silent, readFrom_cons known, dependency?_eq_map_taken?]
    cases made : taken? description (extent rest) with
    | none => simp [made]
    | some taken =>
      rcases taken with ⟨dependency, left⟩
      have plain : ∀ other ∈ left, isPlain other = true := fun other member =>
        isPlain_of_mem_extent ((suffix_of_taken? made).subset member)
      have own : ∀ other ∈ extent rest, isPlain other = true := fun _ => isPlain_of_mem_extent
      have passed := readFrom_plain_append own (rest.dropWhile isPlain)
      rw [extent_eq, List.takeWhile_append_dropWhile] at passed
      simp [made, readFrom_plain_append plain, passed]

/-- The dependencies read round by round. -/
def readRounds (lines : List Line) : List Dependency :=
  match _ : round? lines with
  | none => []
  | some (dependency, left) => dependency :: readRounds left
termination_by lines.length
decreasing_by
  rename_i taken
  rcases exists_of_round? taken with ⟨read, rfl, passed⟩
  simpa using List.length_pos_iff.mpr passed

theorem readRounds_eq_readFrom (lines : List Line) :
    readRounds lines = readFrom lines := by
  fun_induction readRounds lines with
  | case1 lines ended => rw [readFrom_eq_round?, ended]
  | case2 lines dependency left taken hypothesis =>
    rw [readFrom_eq_round?, taken, hypothesis]

/-- Every round moves the scan on in the body. -/
theorem exists_position_of_round?
    {body left : List Line}
    {position : Nat}
    {dependency : Dependency}
    (taken : round? (body.drop position) = some (dependency, left)) :
    ∃ next, position < next ∧ next ≤ body.length ∧ left = body.drop next := by
  rcases exists_of_round? taken with ⟨read, split, passed⟩
  have size := congrArg List.length split
  rw [List.length_append, List.length_drop] at size
  have moved := List.length_pos_iff.mpr passed
  refine ⟨position + read.length, by omega, by omega, ?_⟩
  rw [← List.drop_drop, ← split, List.drop_left]

/-! ## The dependencies of a test -/

/-- The dependencies of a body come from the lines below its first dependencies heading. -/
theorem read_of_split
    {body before after : List Line}
    {heading : Line}
    {printed : Text}
    (split : body = before ++ heading :: after)
    (first : ∀ line ∈ before, heading? line.kind = none)
    (opens : heading.kind = .dependenciesHeading printed)
    (executor : Text) :
    read executor body =
      (if printed.trim = executor then none else some printed.trim, readFrom after) := by
  have own : heading? heading.kind = some printed.trim := by
    rw [opens]
    rfl
  have found := (Line.afterFirst?_eq_some_iff heading? body printed.trim after).mpr
    ⟨before, heading, split, first, own⟩
  rw [read, found]

/--
Dependencies are read chunk by chunk.  The lines below the first dependencies heading are
cut before each description, in the one way there is; the chunks up to the first one
without a check heading give one dependency each, the one that the chunk gives by itself
below the heading.  The scan that goes on from round to round reads the same, each round
ends further down than it started, and the printed interpreter is kept if it is not the
test's own.
-/
theorem read_by_chunks
    (executor : Text)
    {body before after : List Line}
    {heading : Line}
    {printed : Text}
    (split : body = before ++ heading :: after)
    (first : ∀ line ∈ before, heading? line.kind = none)
    (opens : heading.kind = .dependenciesHeading printed) :
    (∀ parts, IsCut after parts ↔ parts = chunks after) ∧
      List.Forall₂
        (fun chunk dependency => (read executor (heading :: chunk)).2 = [dependency])
        ((chunks after).takeWhile hasCheck) (read executor body).2 ∧
      (read executor body).2 = readRounds after ∧
      (∀ position dependency left, round? (body.drop position) = some (dependency, left) →
        ∃ next, position < next ∧ next ≤ body.length ∧ left = body.drop next) ∧
      ∀ name, (read executor body).1 = some name ↔ name = printed.trim ∧ name ≠ executor := by
  rw [read_of_split split first opens executor]
  refine ⟨isCut_iff_eq_chunks after, ?_, (readRounds_eq_readFrom after).symm,
    fun position dependency left => exists_position_of_round?, ?_⟩
  · have cut := (isCut_iff_eq_chunks after (chunks after)).mpr rfl
    rcases cut.whole with ⟨ignored, whole, plain⟩
    have alone : ∀ chunk, (read executor (heading :: chunk)).2 = readFrom chunk := by
      intro chunk
      rw [read_of_split (List.nil_append _).symm (by simp) opens executor]
    have below : readFrom after = readFrom (chunks after).flatten := by
      conv_lhs => rw [whole]
      exact readFrom_plain_append plain _
    simp only [alone, below]
    exact forall₂_readFrom_flatten cut.chunk
  · intro name
    by_cases same : printed.trim = executor
    · simp [same]
    · rw [if_neg same, Option.some.injEq]
      constructor
      · rintro rfl
        exact ⟨rfl, same⟩
      · exact fun known => known.1.symm

/-- Dependencies of which the second one has no check. -/
def danglingText : Text :=
  "#### Dependencies:  Run with `sh`!\n##### Description: kept\n".toList ++
    "##### Check Prereq Commands:\n```sh\ntrue\n```\n".toList ++
    "##### Description: dangling\nsome text\n".toList

/-- The dependencies below the heading of `danglingText`. -/
def danglingLines : List Line :=
  (scan danglingText).tail

theorem read_by_chunks_danglingText :
    scan danglingText = [] ++
        ⟨1, "#### Dependencies:  Run with `sh`!".toList, .dependenciesHeading "sh".toList⟩ ::
          danglingLines ∧
      (chunks danglingLines).length = 2 ∧
      ((chunks danglingLines).takeWhile hasCheck).length = 1 ∧
      (read "sh".toList (scan danglingText)).2 = readRounds danglingLines ∧
      (read "bash".toList (scan danglingText)).1 = some "sh".toList := by
  have split : scan danglingText = [] ++
      ⟨1, "#### Dependencies:  Run with `sh`!".toList, .dependenciesHeading "sh".toList⟩ ::
        danglingLines := by
    decide
  have own := read_by_chunks "sh".toList split (by simp) rfl
  have other := read_by_chunks "bash".toList split (by simp) rfl
  refine ⟨split, by decide, by decide, own.2.2.1, ?_⟩
  exact (other.2.2.2.2 "sh".toList).mpr (by decide)

end DependencyBlock

end TechniquePages.Page
