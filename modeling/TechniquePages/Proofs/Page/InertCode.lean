import TechniquePages.Proofs.Page.Recoding

/-!
# Fenced code is inert

The code of a closed block may be exchanged for any other code.  The page keeps
all its other lines, with their kinds, so it is cut into the same sections, and
each section is read as before: the page has the same technique but for texts that
are taken from fenced blocks and free text, or it has the same fault.

The two scans are alike line by line.  That relation is carried through the
division into sections; below a section it is the readers that keep it.
-/

namespace TechniquePages.Page

variable {change : Nat → Nat}

/-! ## Scans that are alike -/

/-- A block is one with other numbers, too. -/
theorem IsFencedBlock.renumber
    {lines : List Line}
    (block : IsFencedBlock lines) :
    IsFencedBlock (lines.map (Line.renumber change)) := by
  cases block with
  | @intro opening closing code fenced opens coded closes =>
    rw [List.map_cons, List.map_append, List.map_singleton]
    refine .intro fenced opens ?_ closes
    intro line member
    rcases List.mem_map.mp member with ⟨own, inside, rfl⟩
    exact coded own inside

/-- A scan is like itself with other numbers. -/
theorem Scanned.alike
    {number : Nat}
    {texts : List Text}
    {lines : List Line}
    (scanned : Scanned number texts lines)
    (change : Nat → Nat) :
    Alike change lines (lines.map (Line.renumber change)) := by
  induction scanned with
  | nil number => exact .nil
  | @line number text rest lines unfenced following hypothesis =>
    exact .line (isInside_classify text) (not_isBlockStart_classify text) hypothesis
  | unclosed fenced endless following hypothesis =>
    refine .line rfl ?_ hypothesis
    rintro ⟨language, opens⟩
    cases opens
  | @block number text language close code rest lines fenced plain ends following hypothesis =>
    have own := isFencedBlock_codeLines fenced number (number + 1 + code.length) code close
    simpa [List.map_append] using Alike.block own own.renumber hypothesis

theorem Alike.append
    {front recodedFront back recodedBack : List Line}
    (fronts : Alike change front recodedFront)
    (backs : Alike change back recodedBack) :
    Alike change (front ++ back) (recodedFront ++ recodedBack) := by
  induction fronts with
  | nil => exact backs
  | line outside unopened following hypothesis => exact .line outside unopened hypothesis
  | block own other following hypothesis =>
    rw [List.append_assoc, List.append_assoc]
    exact .block own other hypothesis

/-! ## Division into sections -/

/-- Sections with one name whose lines are alike. -/
def Section.Alike (change : Nat → Nat) (part other : Section) : Prop :=
  other.name = part.name ∧ Page.Alike change part.body other.body

/-- No block has a test heading in it. -/
theorem IsFencedBlock.testName?_eq_none
    {lines : List Line}
    (block : IsFencedBlock lines) :
    ∀ line ∈ lines, line.kind.testName? = none := by
  intro line member
  have ignores : IgnoresFences LineKind.testName? :=
    ignoresFences_of_none (fun _ _ => rfl) rfl rfl
  exact ignores _ (block.isFenced line member).1

/-- Pages that are alike are cut at the same headings, into sections that are alike. -/
theorem Alike.sections
    {lines others : List Line}
    (alike : Alike change lines others) :
    Alike change (preamble lines) (preamble others) ∧
      List.Forall₂ (Section.Alike change) (sections lines) (sections others) := by
  simp only [preamble, Page.sections]
  induction alike with
  | nil => exact ⟨.nil, .nil⟩
  | @line line lines others outside unopened following hypothesis =>
    rw [divide, divide, Line.kind_renumber]
    cases line.kind.testName? with
    | none => exact ⟨.line outside unopened hypothesis.1, hypothesis.2⟩
    | some name => exact ⟨.nil, .cons ⟨rfl, hypothesis.1⟩ hypothesis.2⟩
  | block own other following hypothesis =>
    rw [divide_append_of_free own.testName?_eq_none, divide_append_of_free other.testName?_eq_none]
    exact ⟨.block own other hypothesis.1, hypothesis.2⟩

/-- What follows the first test heading does not change the preamble. -/
theorem preamble_append
    {before : List Line}
    (headed : ∃ line ∈ before, line.kind.testName?.isSome)
    (after : List Line) :
    preamble (before ++ after) = preamble before := by
  unfold preamble
  induction before with
  | nil => simp at headed
  | cons line rest hypothesis =>
    rw [List.cons_append, divide, divide]
    cases name : line.kind.testName? with
    | some name => rfl
    | none =>
      have later : ∃ other ∈ rest, other.kind.testName?.isSome := by simpa [name] using headed
      simp only [hypothesis later]

/-- Sections that are alike make tests with the same outlines, or have the same first fault. -/
theorem readTests_of_alike
    {parts others : List Section}
    (alike : List.Forall₂ (Section.Alike change) parts others) :
    (readTests others).map (List.map AtomicTest.outline) =
      ((readTests parts).map (List.map AtomicTest.outline)).mapError (Fault.renumber change) := by
  induction alike with
  | nil => rfl
  | @cons part other parts others bodies following hypothesis =>
    rcases part with ⟨name, body⟩
    rcases other with ⟨otherName, otherBody⟩
    rcases bodies with ⟨rfl, bodies⟩
    rw [readTests, readTests]
    rcases outcome_cases (bodies.readSection otherName) with
      ⟨fault, own, other⟩ | ⟨test, recoded, own, other, first⟩
    · rw [own, other]
      rfl
    · rw [own, other]
      rcases outcome_cases hypothesis with
        ⟨fault, rest, otherRest⟩ | ⟨tests, recodedTests, rest, otherRest, later⟩
      · simp only [rest, otherRest]
        rfl
      · simp only [rest, otherRest]
        refine congrArg Except.ok ?_
        rw [List.map_cons, List.map_cons, first, later]

/-- Pages that are alike, with one preamble, have the same outline or the same fault. -/
theorem Alike.readLines
    {lines others : List Line}
    (alike : Alike change lines others)
    (same : preamble others = preamble lines) :
    (readLines others).map Technique.outline =
      ((readLines lines).map Technique.outline).mapError (Fault.renumber change) := by
  have title : Line.first? LineKind.title? others = Line.first? LineKind.title? lines :=
    alike.first? (ignoresFences_of_none (fun _ _ => rfl) rfl rfl)
  simp only [Page.readLines, title, same]
  cases Line.first? LineKind.title? lines with
  | none => rfl
  | some found =>
    rcases outcome_cases (readTests_of_alike alike.sections.2) with
      ⟨fault, own, other⟩ | ⟨tests, recoded, own, other, outlines⟩
    · simp only [own, other]
      rfl
    · simp only [own, other]
      refine congrArg Except.ok ?_
      simp only [Technique.outline, Technique.mapTests, outlines]

/-! ## A block of a page -/

/-- A closed fenced block in a test of a page, and where it stands among the scanned lines. -/
structure CodeBlock (page : Text) where
  before : List Line
  opening : Line
  code : List Line
  closing : Line
  after : List Line
  scanned : scan page = before ++ opening :: (code ++ closing :: after)
  opens : opening.kind.IsBlockStart
  within : ∀ line ∈ code, line.kind = .code
  closes : closing.kind = .fenceClose
  inTest : ∃ line ∈ before, line.kind.testName?.isSome

namespace CodeBlock

variable {page : Text}

/-- The lines of the page with other code in the block. -/
def exchange (block : CodeBlock page) (code : List Text) : List Text :=
  block.before.map Line.text ++
    block.opening.text :: (code ++ block.closing.text :: block.after.map Line.text)

/-- The number that a line has after the exchange; only lines below the code move. -/
def moved (block : CodeBlock page) (code : List Text) (line : Nat) : Nat :=
  if line ≤ block.opening.number then line else line + code.length - block.code.length

/-- The lines above the block have smaller numbers than its first line. -/
theorem number_lt_of_mem_before
    (block : CodeBlock page)
    {line : Line}
    (member : line ∈ block.before) :
    line.number < block.opening.number := by
  have ordered : ((scan page).map Line.number).Pairwise (· < ·) := by
    rw [scan, map_number_scanFrom]
    exact List.pairwise_lt_range'
  rw [block.scanned, List.map_append, List.map_cons, List.pairwise_append] at ordered
  exact ordered.2.2 _ (List.mem_map_of_mem member) _ (List.mem_cons_self ..)

/-- The lines above the block keep their numbers. -/
theorem map_renumber_before
    (block : CodeBlock page)
    (code : List Text) :
    block.before.map (Line.renumber (block.moved code)) = block.before := by
  refine (List.map_congr_left fun line member => ?_).trans (List.map_id _)
  have above := block.number_lt_of_mem_before member
  simp [Line.renumber, moved, above.le]

/-- With other code in the block, the page is scanned to lines that are alike. -/
theorem alike_exchange
    (block : CodeBlock page)
    {code : List Text}
    (plain : ∀ text ∈ code, IsCodeLine text)
    {other : Text}
    (lines : other.lines = block.exchange code) :
    Alike (block.moved code) (scan page) (scan other) ∧
      preamble (scan other) = preamble (scan page) := by
  rcases block.opens with ⟨language, opens⟩
  have split : scanFrom 1 none page.lines = _ := block.scanned
  rcases scanFrom_exchange split opens block.within block.closes plain with
    ⟨after, closing, exchanged⟩
  have scanned := scanned_scanFrom 1 page.lines
  rw [split] at scanned
  have outside : block.opening.kind.isInside = false := by
    rw [opens]
    rfl
  have fenced : (Marker.fenceLanguage? block.opening.text).isSome := by
    rcases scanned.suffix outside with ⟨rest, here⟩
    rcases here.exists_block opens with ⟨-, -, -, -, known, -⟩
    rw [known]
    rfl
  have above : Alike (block.moved code) block.before block.before := by
    have alike := (scanned.before outside).alike (block.moved code)
    rwa [block.map_renumber_before] at alike
  have own : IsFencedBlock (block.opening :: (block.code ++ [block.closing])) :=
    .intro fenced block.opens block.within block.closes
  have recoded : IsFencedBlock
      (block.opening :: (codeLines (block.opening.number + 1) code ++
        [⟨block.opening.number + 1 + code.length, block.closing.text, .fenceClose⟩])) :=
    .intro fenced block.opens (fun _ => kind_of_mem_codeLines) rfl
  have below : Alike (block.moved code) block.after
      (scanFrom (block.opening.number + 1 + code.length + 1) none
        (block.after.map Line.text)) := by
    have alike := (scanned_scanFrom (block.closing.number + 1) (block.after.map Line.text)).alike
      (block.moved code)
    rw [← scanFrom_eq_map_renumber _ (block.opening.number + 1 + code.length + 1),
      ← after] at alike
    · exact alike
    · intro index _
      rw [moved, if_neg (by omega)]
      omega
  have whole : scan other = _ := (congrArg (scanFrom 1 none) lines).trans exchanged
  constructor
  · have alike := above.append (.block own recoded below)
    rw [whole, block.scanned]
    simpa using alike
  · rw [whole, block.scanned, preamble_append block.inTest, preamble_append block.inTest]

end CodeBlock

/--
Fenced code is inert.  With other code in a closed block of one of its tests, a page
has the same fault, about the same line, or makes a technique with the same outline.
-/
theorem read_exchange_code
    {page : Text}
    (block : CodeBlock page)
    {code : List Text}
    (plain : ∀ text ∈ code, IsCodeLine text)
    {other : Text}
    (lines : other.lines = block.exchange code) :
    (read other).map Technique.outline =
      ((read page).map Technique.outline).mapError (Fault.renumber (block.moved code)) := by
  have exchanged := block.alike_exchange plain lines
  exact exchanged.1.readLines exchanged.2

/-- A page with code in its only test. -/
def shortPage : Text :=
  "# T1000 - Code\n## Atomic Test #1 - One\n".toList ++
    "#### Attack Commands: Run with `sh`!\n```sh\nid\n```\n".toList

/-- The block of `shortPage`. -/
def shortBlock : CodeBlock shortPage where
  before := (scan shortPage).take 3
  opening := ⟨4, "```sh".toList, .fenceOpen "sh".toList true⟩
  code := [⟨5, "id".toList, .code⟩]
  closing := ⟨6, "```".toList, .fenceClose⟩
  after := []
  scanned := by decide
  opens := ⟨"sh".toList, rfl⟩
  within := by simp
  closes := rfl
  inTest := ⟨⟨2, "## Atomic Test #1 - One".toList, .testHeading "One".toList⟩,
    by decide, rfl⟩

/-- Code that looks like a table of inputs. -/
def tableLines : List Text :=
  ["#### Inputs:".toList, "| a | b | c | d |".toList, "|---|".toList, "| x | | | |".toList]

/-- `shortPage` with other code. -/
def tablePage : Text :=
  Text.joinLines (shortBlock.exchange tableLines)

/-- A table in the code of `shortPage` gives its test no arguments. -/
theorem read_exchange_tableLines :
    (∀ text ∈ tableLines, IsCodeLine text) ∧
      tablePage.lines = shortBlock.exchange tableLines ∧
      (read tablePage).map Technique.outline =
        ((read shortPage).map Technique.outline).mapError
          (Fault.renumber (shortBlock.moved tableLines)) :=
  have plain : ∀ text ∈ tableLines, IsCodeLine text := by
    simpa using List.all_eq_true.mp
      (show tableLines.all (fun text => decide (IsCodeLine text)) = true by decide)
  have lines : tablePage.lines = shortBlock.exchange tableLines := by decide
  ⟨plain, lines, read_exchange_code shortBlock plain lines⟩

end TechniquePages.Page
