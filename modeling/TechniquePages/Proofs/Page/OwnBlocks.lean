import Mathlib.Data.List.Forall2
import TechniquePages.Proofs.Page.DependencyChunks

/-!
# Whose block a command comes from

A command is the first block below its heading, and the search for it goes on past
other headings: for the check of a dependency up to the next description, for a
cleanup up to the end of the section.  The heading's own lines end sooner, at the
first line that begins something else.

Where a block starts among the own lines, the command is its content, since a block
never reaches over such a line.  Where none does, the command is that of the next
block below, whatever heading this block stands under; it is missing only if there is
no such block, or an empty one.
-/

namespace TechniquePages.Page

instance (kind : LineKind) : Decidable kind.IsBlockStart :=
  decidable_of_iff _ (FencedBlock.opens?_eq_some_iff kind)

/-! ## Whole blocks -/

/-- Every block that starts in the lines has its code and its closing fence there. -/
def AreBlocksWhole (lines : List Line) : Prop :=
  ∀ before opening after, lines = before ++ opening :: after → opening.kind.IsBlockStart →
    ∃ code close rest, after = code ++ close :: rest ∧
      (∀ line ∈ code, line.kind = .code) ∧ close.kind = .fenceClose

theorem areBlocksWhole_scanFrom
    (number : Nat)
    (texts : List Text) :
    AreBlocksWhole (scanFrom number none texts) := by
  rintro before opening after split ⟨language, opens⟩
  have scanned := scanned_scanFrom number texts
  rw [split] at scanned
  have outside : opening.kind.isInside = false := by
    rw [opens]
    rfl
  rcases scanned.suffix outside with ⟨rest, here⟩
  rcases here.exists_block opens with ⟨code, close, back, lines, -, -, -, -, below, -⟩
  exact ⟨_, _, _, below, fun _ => kind_of_mem_codeLines, rfl⟩

namespace AreBlocksWhole

variable {lines : List Line}

theorem of_suffix
    {rest : List Line}
    (whole : AreBlocksWhole lines)
    (below : rest <:+ lines) :
    AreBlocksWhole rest := by
  rcases below with ⟨front, rfl⟩
  intro before opening after split starts
  exact whole (front ++ before) opening after (by rw [split, List.append_assoc]) starts

/-- Lines up to one that is no part of a block hold their blocks whole. -/
theorem takeWhile
    {keeps : Line → Bool}
    (whole : AreBlocksWhole lines)
    (passes : ∀ line : Line, line.kind.isFenced = true → keeps line = true) :
    AreBlocksWhole (lines.takeWhile keeps) := by
  intro before opening after split starts
  have back := List.takeWhile_append_dropWhile (p := keeps) (l := lines)
  rw [split, List.append_assoc, List.cons_append] at back
  rcases whole _ _ _ back.symm starts with ⟨code, close, rest, below, coded, closes⟩
  have kept : ∀ line ∈ code ++ [close], keeps line = true := by
    intro line member
    apply passes
    rcases List.mem_append.mp member with inside | last
    · rw [coded line inside]
      rfl
    · rw [List.mem_singleton.mp last, closes]
      rfl
  have above : ∀ line ∈ before ++ [opening], keeps line = true := by
    intro line member
    refine List.mem_takeWhile_imp (l := lines) ?_
    rw [split, ← List.singleton_append, ← List.append_assoc]
    exact List.mem_append_left _ member
  have taken : lines.takeWhile keeps =
      (before ++ [opening]) ++ ((code ++ [close]) ++ rest.takeWhile keeps) := by
    rw [← List.takeWhile_append_of_pos kept, ← List.takeWhile_append_of_pos above, ← back, below]
    simp
  rw [taken] at split
  exact ⟨code, close, rest.takeWhile keeps, by simpa using split.symm, coded, closes⟩

end AreBlocksWhole

namespace FencedBlock

variable {front : List Line}

/-- A block that starts among lines with whole blocks is the same whatever follows them. -/
theorem exists_first?_append
    (whole : AreBlocksWhole front)
    (starts : ∃ line ∈ front, line.kind.IsBlockStart)
    (back : List Line) :
    ∃ block, first? front = some block ∧
      first? (front ++ back) = some ⟨block.content, block.rest ++ back⟩ := by
  cases opened : Line.afterFirst? opens? front with
  | none =>
    rcases starts with ⟨line, member, opens⟩
    have silent := (Line.afterFirst?_eq_none_iff ..).mp opened line member
    rw [(opens?_eq_some_iff _).mpr opens] at silent
    cases silent
  | some found =>
    rcases found with ⟨⟨⟩, inside⟩
    rcases (Line.afterFirst?_eq_some_iff ..).mp opened with ⟨before, opening, rfl, silent, opens⟩
    rcases whole _ _ _ rfl ((opens?_eq_some_iff _).mp opens) with
      ⟨code, close, rest, rfl, coded, closes⟩
    have unclosed : ∀ line ∈ code, line.kind ≠ .fenceClose := by
      intro line member
      simp [coded line member]
    have longer : Line.afterFirst? opens?
        ((before ++ opening :: (code ++ close :: rest)) ++ back) =
          some ((), code ++ close :: (rest ++ back)) :=
      (Line.afterFirst?_eq_some_iff ..).mpr ⟨before, opening, by simp, silent, opens⟩
    refine ⟨⟨Html.decode (Line.join code).trim, rest⟩, ?_, ?_⟩
    · simp [first?, opened, untilClose?_append unclosed closes]
    · rw [first?, longer]
      simp [untilClose?_append unclosed closes]

/-- Lines in which no block starts are passed over. -/
theorem first?_append_of_unstarted
    (unstarted : ∀ line ∈ front, ¬ line.kind.IsBlockStart)
    (back : List Line) :
    first? (front ++ back) = first? back := by
  have silent : ∀ line ∈ front, opens? line.kind = none := fun line member =>
    opens?_eq_none (unstarted line member)
  rw [first?, Line.afterFirst?_append silent, first?]

end FencedBlock

/-! ## Own lines -/

/-- The lines below a heading up to the first one of an ending kind. -/
def ownLines
    (ends : LineKind → Bool)
    (below : List Line) : List Line :=
  below.takeWhile fun line => !ends line.kind

/-- The lines below a heading from the first one of an ending kind on. -/
def linesBeyond
    (ends : LineKind → Bool)
    (below : List Line) : List Line :=
  below.dropWhile fun line => !ends line.kind

/-- The content of the first block below a heading; empty if there is none. -/
def contentBelow (below : List Line) : Text :=
  ((FencedBlock.first? below).map FencedBlock.content).getD []

/-- The first block below a heading is its own, or else the first one beyond its own lines. -/
theorem contentBelow_eq
    {ends : LineKind → Bool}
    (passes : ∀ kind : LineKind, kind.isFenced = true → ends kind = false)
    {below : List Line}
    (whole : AreBlocksWhole below) :
    ((∃ line ∈ ownLines ends below, line.kind.IsBlockStart) →
        ∃ block, FencedBlock.first? (ownLines ends below) = some block ∧
          contentBelow below = block.content) ∧
      ((∀ line ∈ ownLines ends below, ¬ line.kind.IsBlockStart) →
        contentBelow below = contentBelow (linesBeyond ends below)) := by
  have split : ownLines ends below ++ linesBeyond ends below = below :=
    List.takeWhile_append_dropWhile
  constructor
  · intro starts
    have own : AreBlocksWhole (ownLines ends below) :=
      whole.takeWhile fun line fenced => by simp [passes _ fenced]
    rcases FencedBlock.exists_first?_append own starts (linesBeyond ends below) with
      ⟨block, found, whole⟩
    rw [split] at whole
    exact ⟨block, found, by rw [contentBelow, whole]; rfl⟩
  · intro unstarted
    have beyond := FencedBlock.first?_append_of_unstarted unstarted (linesBeyond ends below)
    rw [split] at beyond
    rw [contentBelow, beyond, contentBelow]

namespace DependencyBlock

/-! ## Checks -/

/-- The lines of a check end at the get heading, the next description, and where free text ends. -/
def endsCheck (kind : LineKind) : Bool :=
  decide (kind = .getHeading) || kind.dependency?.isSome || kind.endsText

theorem endsCheck_of_isFenced
    (kind : LineKind)
    (fenced : kind.isFenced = true) :
    endsCheck kind = false := by
  cases kind <;> first | rfl | cases fenced

/-- A chunk of lines with whole blocks holds its own blocks whole. -/
theorem areBlocksWhole_tail_of_mem_chunks
    {lines chunk : List Line}
    (whole : AreBlocksWhole lines)
    (member : chunk ∈ chunks lines) :
    AreBlocksWhole chunk.tail := by
  induction lines with
  | nil => cases member
  | cons line rest hypothesis =>
    have below := whole.of_suffix (List.suffix_cons line rest)
    rw [chunks] at member
    split at member
    · exact hypothesis below member
    · rcases List.mem_cons.mp member with rfl | later
      · refine below.takeWhile fun other fenced => ?_
        rcases other with ⟨number, text, kind⟩
        cases kind <;> first | rfl | cases fenced
      · exact hypothesis below later

/-- The check of a chunk is the content of the first block below its check heading. -/
theorem exists_check_eq_contentBelow
    {chunk : List Line}
    (cut : IsChunk chunk)
    {dependency : Dependency}
    (reads : readFrom chunk = [dependency]) :
    ∃ below, Line.after? .checkHeading chunk = some below ∧ below <:+ chunk.tail ∧
      dependency.check = contentBelow below := by
  rcases cut with ⟨line, under, rfl, describes, plain⟩
  rcases Option.isSome_iff_exists.mp (Option.isNone_eq_false_iff.mp describes) with
    ⟨description, known⟩
  have unlike : line.kind ≠ .checkHeading := by
    intro same
    rw [same] at known
    cases known
  have passed : Line.after? .checkHeading (line :: under) = Line.after? .checkHeading under := by
    simp [Line.after?, Line.afterFirst?, unlike]
  have extent : extent under = under := by
    rw [extent_eq, List.takeWhile_eq_self_iff]
    exact plain
  rw [readFrom_cons known, extent, dependency?] at reads
  rw [passed]
  cases found : Line.after? .checkHeading under with
  | none => simp [found] at reads
  | some below =>
    refine ⟨below, rfl, Line.suffix_of_after? found, ?_⟩
    rw [contentBelow]
    cases block : FencedBlock.first? below with
    | none =>
      simp only [found, block, List.cons.injEq] at reads
      rw [← reads.1]
      rfl
    | some block =>
      simp only [found, block, List.cons.injEq] at reads
      rw [← reads.1]
      rfl

/--
The check is the content of the block that starts among the lines of the check heading.
If none starts there, it is that of the first block beyond them in the chunk.
-/
def TakesCheck
    (chunk : List Line)
    (dependency : Dependency) : Prop :=
  ∃ below, Line.after? .checkHeading chunk = some below ∧
    ((∃ line ∈ ownLines endsCheck below, line.kind.IsBlockStart) →
      ∃ block, FencedBlock.first? (ownLines endsCheck below) = some block ∧
        dependency.check = block.content) ∧
    ((∀ line ∈ ownLines endsCheck below, ¬ line.kind.IsBlockStart) →
      dependency.check = contentBelow (linesBeyond endsCheck below))

/--
The check of a dependency is the block of its check heading's own lines where one starts
there.  Otherwise it is the next block before the following description, whatever
heading that block stands under, and it is empty only without such a block or where
that block is.
-/
theorem check_from_blocks
    {page : Text}
    {part : Section}
    (member : part ∈ sections (scan page))
    (executor : Text)
    {before after : List Line}
    {heading : Line}
    {printed : Text}
    (split : part.body = before ++ heading :: after)
    (first : ∀ line ∈ before, heading? line.kind = none)
    (opens : heading.kind = .dependenciesHeading printed) :
    List.Forall₂ TakesCheck ((chunks after).takeWhile hasCheck) (read executor part.body).2 := by
  rcases exists_body_eq_scanFrom member with ⟨number, texts, scanned⟩
  have whole : AreBlocksWhole after := by
    refine (areBlocksWhole_scanFrom number texts).of_suffix ?_
    rw [← scanned, split]
    exact (List.suffix_cons heading after).trans (List.suffix_append ..)
  have cut := (isCut_iff_eq_chunks after (chunks after)).mpr rfl
  rcases cut.whole with ⟨ignored, all, plain⟩
  have below : readFrom after = readFrom (chunks after).flatten := by
    conv_lhs => rw [all]
    exact readFrom_plain_append plain _
  have each : ∀ chunk ∈ (chunks after).takeWhile hasCheck, chunk ∈ chunks after :=
    fun chunk inside => List.takeWhile_subset _ inside
  rw [read_of_split split first opens executor, below]
  refine ((List.forall₂_and_left _ _).mpr ⟨each, forall₂_readFrom_flatten cut.chunk⟩).imp ?_
  rintro chunk dependency ⟨inChunks, reads⟩
  rcases exists_check_eq_contentBelow (cut.chunk chunk inChunks) reads with
    ⟨below, found, under, check⟩
  have taken := contentBelow_eq endsCheck_of_isFenced
    ((areBlocksWhole_tail_of_mem_chunks whole inChunks).of_suffix under)
  rw [TakesCheck, check]
  exact ⟨below, found, taken⟩

/-- A section with a check heading that has no block, above a get heading that has one. -/
def installSection : Section where
  name := "Named".toList
  body := [
    ⟨3, "#### Attack Commands: Run with `sh`!".toList, .commandHeading "sh".toList false⟩,
    ⟨4, "```sh".toList, .fenceOpen "sh".toList true⟩,
    ⟨5, "id".toList, .code⟩,
    ⟨6, "```".toList, .fenceClose⟩,
    ⟨7, "#### Dependencies:  Run with `sh`!".toList, .dependenciesHeading "sh".toList⟩,
    ⟨8, "##### Description: A tool".toList, .dependency "A tool".toList⟩,
    ⟨9, "##### Check Prereq Commands:".toList, .checkHeading⟩,
    ⟨10, "##### Get Prereq Commands:".toList, .getHeading⟩,
    ⟨11, "```sh".toList, .fenceOpen "sh".toList true⟩,
    ⟨12, "apt install tool".toList, .code⟩,
    ⟨13, "```".toList, .fenceClose⟩]

/-- The page of `installSection`. -/
def installPage : Text :=
  "# T1059 - Shell\n## Atomic Test #1 - Named\n".toList ++ Line.join installSection.body

/-- The dependencies heading of `installSection`. -/
def installHeading : Line :=
  ⟨7, "#### Dependencies:  Run with `sh`!".toList, .dependenciesHeading "sh".toList⟩

theorem installSection_mem : installSection ∈ sections (scan installPage) := by decide

theorem body_installSection :
    installSection.body =
      installSection.body.take 4 ++ installHeading :: installSection.body.drop 5 := rfl

theorem heading?_installSection :
    ∀ line ∈ installSection.body.take 4, heading? line.kind = none := by
  decide

theorem check_from_blocks_installPage :
    installSection ∈ sections (scan installPage) ∧
      installSection.body =
        installSection.body.take 4 ++ installHeading :: installSection.body.drop 5 ∧
      (∀ line ∈ installSection.body.take 4, heading? line.kind = none) ∧
      List.Forall₂ TakesCheck ((chunks (installSection.body.drop 5)).takeWhile hasCheck)
        (read "sh".toList installSection.body).2 ∧
      (read "sh".toList installSection.body).2 =
        [⟨"A tool".toList, "apt install tool".toList, none⟩] :=
  ⟨installSection_mem, body_installSection, heading?_installSection,
    check_from_blocks installSection_mem "sh".toList body_installSection heading?_installSection
      rfl, by decide⟩

/-- A check heading without a block of its own does not always have an empty check. -/
theorem not_forall_check_eq_nil :
    ¬ ∀ (page : Text) (part : Section) (executor printed : Text) (before after : List Line)
        (heading : Line), part ∈ sections (scan page) → part.body = before ++ heading :: after →
      (∀ line ∈ before, heading? line.kind = none) →
      heading.kind = .dependenciesHeading printed →
      List.Forall₂
        (fun chunk dependency => ∀ below, Line.after? .checkHeading chunk = some below →
          (∀ line ∈ ownLines endsCheck below, ¬ line.kind.IsBlockStart) → dependency.check = [])
        ((chunks after).takeWhile hasCheck) (read executor part.body).2 := by
  intro always
  have known := always _ _ "sh".toList _ _ _ _ installSection_mem body_installSection
    heading?_installSection rfl
  have cut : (chunks (installSection.body.drop 5)).takeWhile hasCheck =
      [installSection.body.drop 5] := by
    decide
  have made : (read "sh".toList installSection.body).2 =
      [⟨"A tool".toList, "apt install tool".toList, none⟩] := by
    decide
  rw [cut, made] at known
  cases known with
  | cons empty others =>
    exact absurd (empty (installSection.body.drop 7) (by decide) (by decide)) (by decide)

end DependencyBlock

namespace ExecutorBlock

/-! ## Cleanup commands -/

theorem endsText_of_isFenced
    (kind : LineKind)
    (fenced : kind.isFenced = true) :
    kind.endsText = false := by
  cases kind <;> first | rfl | cases fenced

theorem cleanup?_eq_contentBelow
    {lines below : List Line}
    (found : Line.after? .cleanupHeading lines = some below) :
    cleanup? lines = nonEmpty? (contentBelow below) := by
  rw [contentBelow, cleanup?, found]
  change ((FencedBlock.first? below).bind fun block => nonEmpty? block.content) = _
  cases FencedBlock.first? below <;> rfl

/--
The cleanup command is the content of the block that starts among the lines of the first
cleanup heading.  If none starts there, it is that of the first block beyond them.  An
empty one counts as missing, and so does that of a section without such a heading.
-/
def TakesCleanup
    (lines : List Line)
    (cleanup : Option Text) : Prop :=
  (Line.after? .cleanupHeading lines = none → cleanup = none) ∧
    ∀ below, Line.after? .cleanupHeading lines = some below →
      ((∃ line ∈ ownLines LineKind.endsText below, line.kind.IsBlockStart) →
        ∃ block, FencedBlock.first? (ownLines LineKind.endsText below) = some block ∧
          cleanup = nonEmpty? block.content) ∧
      ((∀ line ∈ ownLines LineKind.endsText below, ¬ line.kind.IsBlockStart) →
        cleanup = nonEmpty? (contentBelow (linesBeyond LineKind.endsText below)))

theorem takesCleanup_cleanup?
    {lines : List Line}
    (whole : AreBlocksWhole lines) :
    TakesCleanup lines (cleanup? lines) := by
  constructor
  · intro absent
    rw [cleanup?, absent]
    rfl
  · intro below found
    rw [cleanup?_eq_contentBelow found]
    rcases contentBelow_eq endsText_of_isFenced (whole.of_suffix (Line.suffix_of_after? found))
      with ⟨own, beyond⟩
    constructor
    · intro starts
      rcases own starts with ⟨block, first, content⟩
      exact ⟨block, first, by rw [content]⟩
    · intro unstarted
      rw [beyond unstarted]

/--
The command of a test is the first block below its executor heading.  Its cleanup
command is the block of the lines of the next cleanup heading where one starts there,
and otherwise the next block of the section, whatever heading that one stands under.
-/
theorem cleanup_from_blocks
    {page : Text}
    {part : Section}
    (member : part ∈ sections (scan page))
    {executor : Executor}
    (made : read part.name part.body = .ok executor)
    {name : Text}
    {cleanup : Option Text}
    (command : executor.kind = .command name cleanup) :
    ∃ printed elevated rest block,
      Line.afterFirst? heading? part.body = some (.command printed elevated, rest) ∧
        FencedBlock.first? rest = some block ∧ executor.procedure = block.content ∧
        TakesCleanup block.rest cleanup := by
  rcases exists_body_eq_scanFrom member with ⟨number, texts, scanned⟩
  have whole : AreBlocksWhole part.body := scanned ▸ areBlocksWhole_scanFrom number texts
  rw [read] at made
  split at made
  next absent => cases made
  next elevated rest found =>
    cases made
    cases command
  next printed elevated rest found =>
    split at made
    next absent => cases made
    next block first =>
      cases made
      cases command
      rcases Line.suffix_of_afterFirst? found with ⟨heading, below⟩
      have under : block.rest <:+ part.body :=
        (FencedBlock.suffix_of_first? first).trans ((List.suffix_cons heading rest).trans below)
      exact ⟨printed, elevated, rest, block, found, first, rfl,
        takesCleanup_cleanup? (whole.of_suffix under)⟩

/-- A section with a cleanup heading that has no block, above a check heading that has one. -/
def checkedSection : Section where
  name := "Named".toList
  body := [
    ⟨3, "#### Attack Commands: Run with `sh`!".toList, .commandHeading "sh".toList false⟩,
    ⟨4, "```sh".toList, .fenceOpen "sh".toList true⟩,
    ⟨5, "id".toList, .code⟩,
    ⟨6, "```".toList, .fenceClose⟩,
    ⟨7, "#### Cleanup Commands:".toList, .cleanupHeading⟩,
    ⟨8, "#### Dependencies:  Run with `sh`!".toList, .dependenciesHeading "sh".toList⟩,
    ⟨9, "##### Description: A tool".toList, .dependency "A tool".toList⟩,
    ⟨10, "##### Check Prereq Commands:".toList, .checkHeading⟩,
    ⟨11, "```sh".toList, .fenceOpen "sh".toList true⟩,
    ⟨12, "test -x tool".toList, .code⟩,
    ⟨13, "```".toList, .fenceClose⟩]

/-- The page of `checkedSection`. -/
def checkedPage : Text :=
  "# T1059 - Shell\n## Atomic Test #1 - Named\n".toList ++ Line.join checkedSection.body

theorem checkedSection_mem : checkedSection ∈ sections (scan checkedPage) := by decide

theorem read_checkedSection :
    read checkedSection.name checkedSection.body =
      .ok ⟨.command "sh".toList (some "test -x tool".toList), false, "id".toList, .separate⟩ := by
  decide

theorem cleanup_from_blocks_checkedPage :
    checkedSection ∈ sections (scan checkedPage) ∧
      read checkedSection.name checkedSection.body =
        .ok ⟨.command "sh".toList (some "test -x tool".toList), false, "id".toList, .separate⟩ ∧
      ∃ printed elevated rest block,
        Line.afterFirst? heading? checkedSection.body = some (.command printed elevated, rest) ∧
          FencedBlock.first? rest = some block ∧ "id".toList = block.content ∧
          TakesCleanup block.rest (some "test -x tool".toList) :=
  ⟨checkedSection_mem, read_checkedSection,
    cleanup_from_blocks checkedSection_mem read_checkedSection rfl⟩

/-- A cleanup heading without a block of its own does not always mean no cleanup command. -/
theorem not_forall_cleanup_eq_none :
    ¬ ∀ (page : Text) (part : Section) (executor : Executor) (name printed : Text)
        (cleanup : Option Text) (elevated : Bool) (rest below : List Line)
        (block : FencedBlock), part ∈ sections (scan page) →
      read part.name part.body = .ok executor → executor.kind = .command name cleanup →
      Line.afterFirst? heading? part.body = some (.command printed elevated, rest) →
      FencedBlock.first? rest = some block →
      Line.after? .cleanupHeading block.rest = some below →
      (∀ line ∈ ownLines LineKind.endsText below, ¬ line.kind.IsBlockStart) →
      cleanup = none := by
  intro always
  have found : Line.afterFirst? heading? checkedSection.body =
      some (.command "sh".toList false, checkedSection.body.drop 1) := by
    decide
  have first : FencedBlock.first? (checkedSection.body.drop 1) =
      some ⟨"id".toList, checkedSection.body.drop 4⟩ := by
    decide
  have named := always _ _ _ _ _ _ _ _ (checkedSection.body.drop 5) _ checkedSection_mem
    read_checkedSection rfl found first (by decide) (by decide)
  cases named

end ExecutorBlock

end TechniquePages.Page
