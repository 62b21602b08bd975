import TechniquePages.Proofs.Page.Renumbering
import TechniquePages.Proofs.Page.Sections

/-!
# Tests are read independently

A page is cut, as raw text, before each line that opens a test, also where that
line stands between fences.  Each slice makes a page of its own below a title.
Reading the whole page then comes to reading these pages one by one: it succeeds
when they all do, and the tests are theirs in order; and it fails with the first
of their faults, which counts lines from the start of the whole page.

So nothing that is written inside one test, an unclosed fence for one, reaches
another test.
-/

namespace TechniquePages.Page

/-! ## Slices -/

/-- The raw lines before the first one that opens a test, and from each such line on. -/
def cutSlices : List Text → Text × List Text
  | [] => ([], [])
  | raw :: rest =>
    let cut := cutSlices rest
    if raw.lines.any isTestHeading then ([], (raw ++ cut.1) :: cut.2)
    else (raw ++ cut.1, cut.2)

/-- What stands on a page before its first test. -/
def front (page : Text) : Text :=
  (cutSlices page.rawLines).1

/-- The tests of a page as raw text, each from its heading on. -/
def slices (page : Text) : List Text :=
  (cutSlices page.rawLines).2

/-- The title that a slice gets to be a page. -/
def plainTitle : Text := "# T0000 - H\n".toList

/-- A slice as a page of its own. -/
def alone (slice : Text) : Text :=
  plainTitle ++ slice

/-- How many lines of a page stand before a slice. -/
def linesBefore (page : Text) (index : Nat) : Nat :=
  (front page).lines.length + (((slices page).take index).flatMap Text.lines).length

/-- The front and the slices are the whole page. -/
theorem front_append_slices (page : Text) :
    front page ++ (slices page).flatten = page := by
  have kept : ∀ raws, (cutSlices raws).1 ++ (cutSlices raws).2.flatten = raws.flatten := by
    intro raws
    induction raws with
    | nil => rfl
    | cons raw rest hypothesis =>
      rw [cutSlices, List.flatten_cons, ← hypothesis]
      split <;> simp
  exact (kept page.rawLines).trans page.flatten_rawLines

/-- A front and slices make up the lines of a page, and every slice is a passage. -/
structure IsCut (lines : List Text) (cut : Text × List Text) : Prop where
  free : ∀ text ∈ cut.1.lines, isTestHeading text = false
  passages : ∃ passages : List Passage,
    (∀ passage ∈ passages, passage.IsProper) ∧
      cut.2.map Text.lines = passages.map Passage.texts ∧
        lines = cut.1.lines ++ passages.flatMap Passage.texts

/-- One more line goes to the front of a cut page, or opens a slice there. -/
theorem IsCut.cons
    {lines : List Text}
    {raws : List Text}
    {raw line : Text}
    (cut : IsCut lines (cutSlices raws))
    (single : raw.lines = [line])
    (joined : (raw ++ (cutSlices raws).1).lines = line :: (cutSlices raws).1.lines) :
    IsCut (line :: lines) (cutSlices (raw :: raws)) := by
  rcases cut with ⟨free, passages, proper, slices, whole⟩
  rw [cutSlices, single]
  cases opens : isTestHeading line with
  | true =>
    refine ⟨by simp [opens], ⟨line, (cutSlices raws).1.lines⟩ :: passages, ?_, ?_, ?_⟩
    · intro passage member
      rcases List.mem_cons.mp member with rfl | later
      · exact ⟨opens, free⟩
      · exact proper passage later
    · simp [opens, joined, slices, Passage.texts]
    · simp [opens, whole, Passage.texts]
  | false =>
    refine ⟨?_, passages, proper, by simpa [opens] using slices, by simp [opens, joined, whole]⟩
    intro text member
    have known : text ∈ line :: (cutSlices raws).1.lines := by
      simpa [opens, joined] using member
    rcases List.mem_cons.mp known with rfl | later
    · exact opens
    · exact free text later

theorem isCut_cutSlices
    {pieces : List Text}
    (whole : ∀ piece ∈ pieces, '\n' ∉ piece) :
    IsCut (Text.linesOfPieces pieces) (cutSlices (Text.rawLinesOfPieces pieces)) := by
  induction pieces with
  | nil => exact ⟨by simp [Text.rawLinesOfPieces, cutSlices], [], by simp, rfl, rfl⟩
  | cons piece rest hypothesis =>
    have onePiece : Text.cutAt '\n' piece = [piece] :=
      Text.cutAt_eq_singleton (whole piece (List.mem_cons_self ..))
    have following := hypothesis fun other member => whole other (List.mem_cons_of_mem _ member)
    cases rest with
    | nil =>
      cases piece with
      | nil => simpa [Text.linesOfPieces, Text.rawLinesOfPieces] using following
      | cons character tail =>
        have single : Text.lines (character :: tail) = [character :: tail] := by
          simp [Text.lines, onePiece, Text.linesOfPieces]
        exact following.cons single (by simpa [cutSlices, Text.rawLinesOfPieces] using single)
    | cons next more =>
      have ended : ∀ back, Text.lines ((piece ++ ['\n']) ++ back) =
          Text.dropFinalReturn piece :: Text.lines back := by
        intro back
        rw [List.append_assoc, List.singleton_append, Text.lines_append_lineFeed, onePiece]
        rfl
      exact following.cons (by simpa using ended []) (ended _)

/-- Every page is the lines of its front and the passages of its slices. -/
theorem isCut_front_slices (page : Text) :
    IsCut page.lines (front page, slices page) :=
  isCut_cutSlices fun _ member => Text.not_mem_of_mem_cutAt member

/-! ## A slice by itself -/

/-- The test of a passage, its body counted from line one. -/
def Passage.read (passage : Passage) : Except Fault AtomicTest :=
  Section.read ⟨passage.name, scanFrom 1 none passage.body⟩

/-- Wherever a passage stands, its section makes the same test or the same fault further down. -/
theorem Passage.read_section
    (passage : Passage)
    (offset : Nat) :
    Section.read ⟨passage.name, scanFrom (1 + offset) none passage.body⟩ =
      passage.read.mapError (Fault.renumber (· + offset)) := by
  rw [scanFrom_add, Section.read_renumber]
  rfl

/-- A slice below a title makes a technique of its one test. -/
theorem read_alone
    {slice : Text}
    {passage : Passage}
    (proper : passage.IsProper)
    (lines : slice.lines = passage.texts) :
    read (alone slice) =
      (passage.read.mapError (Fault.renumber (· + 2))).map fun test =>
        ⟨"T0000".toList, "H".toList, none, [test]⟩ := by
  have titled : (alone slice).lines =
      ["# T0000 - H".toList] ++ [passage].flatMap Passage.texts := by
    have split : alone slice = "# T0000 - H".toList ++ '\n' :: slice := rfl
    rw [split, Text.lines_append_lineFeed, lines]
    simp [Text.cutAt, Text.dropFinalReturn]
  have parts := @divide_scanFrom 1 ["# T0000 - H".toList] [passage] (by decide +kernel)
    (by simpa using proper)
  have first : scan (alone slice) =
      ⟨1, "# T0000 - H".toList, .title "T0000".toList "H".toList⟩ ::
        scanFrom 2 none ([passage].flatMap Passage.texts) := by
    rw [scan, titled]
    rfl
  rw [← titled] at parts
  change divide (scan (alone slice)) = _ at parts
  have title : Line.first? LineKind.title? (scan (alone slice)) =
      some ("T0000".toList, "H".toList) := by
    rw [first]
    rfl
  have body : Section.read ⟨passage.name, scanFrom 3 none passage.body⟩ =
      passage.read.mapError (Fault.renumber (· + 2)) := passage.read_section 2
  have undescribed : techniqueDescription? (scanFrom 1 none ["# T0000 - H".toList]) = none := rfl
  rw [read, readLines, title, sections, preamble, parts]
  simp only [sectionsFrom, readTests, List.length_singleton, Nat.reduceAdd, body, undescribed]
  cases passage.read with
  | error fault => rfl
  | ok test => rfl

/-! ## The whole page -/

/-- The sections of a page are those of its slices, each counted from the lines before it. -/
theorem exists_passages (page : Text) :
    ∃ passages : List Passage, (∀ passage ∈ passages, passage.IsProper) ∧
      (slices page).map Text.lines = passages.map Passage.texts ∧
        sections (scan page) = sectionsFrom (1 + (front page).lines.length) passages := by
  rcases isCut_front_slices page with ⟨free, passages, proper, same, whole⟩
  refine ⟨passages, proper, same, ?_⟩
  have parts := divide_scanFrom 1 free proper
  rw [← whole] at parts
  exact congrArg Prod.snd parts

theorem length_sections (page : Text) :
    (sections (scan page)).length = (slices page).length := by
  rcases exists_passages page with ⟨passages, -, same, parts⟩
  have lengths := congrArg List.length same
  rw [List.length_map, List.length_map] at lengths
  rw [parts, length_sectionsFrom, lengths]

/-- A slice and its section on the page make the same test, or the same fault. -/
theorem read_slice
    (page : Text)
    {index : Nat}
    {slice : Text}
    (found : (slices page)[index]? = some slice) :
    ∃ (part : Section) (own : Except Fault AtomicTest),
      (sections (scan page))[index]? = some part ∧
        part.read = own.mapError (Fault.renumber (· + (linesBefore page index + 1))) ∧
          read (alone slice) =
            (own.mapError (Fault.renumber (· + 2))).map fun test =>
              ⟨"T0000".toList, "H".toList, none, [test]⟩ := by
  rcases exists_passages page with ⟨passages, proper, same, parts⟩
  have at_index := congrArg (·[index]?) same
  simp only [List.getElem?_map, found, Option.map_some] at at_index
  rcases Option.map_eq_some_iff.mp at_index.symm with ⟨passage, known, lines⟩
  have before : ((slices page).take index).flatMap Text.lines =
      (passages.take index).flatMap Passage.texts := by
    rw [List.flatMap_def, List.flatMap_def, List.map_take, List.map_take, same]
  have isProper := proper passage (List.mem_of_getElem? known)
  refine ⟨⟨passage.name, scanFrom (1 + (linesBefore page index + 1)) none passage.body⟩,
    passage.read, ?_, passage.read_section _, read_alone isProper lines.symm⟩
  rw [parts, getElem?_sectionsFrom, known, linesBefore, before]
  simp only [Option.map_some, Nat.add_assoc]

theorem Line.isSome_first?_iff
    {α : Type}
    (answer? : LineKind → Option α)
    (lines : List Line) :
    (Line.first? answer? lines).isSome ↔ ∃ line ∈ lines, (answer? line.kind).isSome := by
  induction lines with
  | nil => simp [Line.first?, Line.afterFirst?]
  | cons line rest hypothesis =>
    rw [Line.first?, Line.afterFirst?]
    cases known : answer? line.kind with
    | some answer => simp [known]
    | none => simpa [known, Line.first?] using hypothesis

/-- A page with a title is read by reading its sections. -/
theorem exists_read_eq
    {page : Text}
    (titled : ∃ line ∈ scan page, line.kind.title?.isSome) :
    ∃ identifier name, read page = (readTests (sections (scan page))).map fun tests =>
      ⟨identifier, name, techniqueDescription? (preamble (scan page)), tests⟩ := by
  rcases Option.isSome_iff_exists.mp ((Line.isSome_first?_iff _ _).mpr titled) with
    ⟨⟨identifier, name⟩, title⟩
  exact ⟨identifier, name, by rw [read, readLines, title]⟩

/-- A section on the page can be read exactly when its slice can. -/
theorem exists_read_section_iff
    (page : Text)
    {index : Nat}
    {slice : Text}
    (found : (slices page)[index]? = some slice) :
    ∃ part : Section, (sections (scan page))[index]? = some part ∧
      ((∃ test, part.read = .ok test) ↔ ∃ technique, read (alone slice) = .ok technique) := by
  rcases read_slice page found with ⟨part, own, known, onPage, byItself⟩
  refine ⟨part, known, ?_⟩
  rw [onPage, byItself]
  cases own with
  | error fault =>
    constructor
    · rintro ⟨test, ⟨⟩⟩
    · rintro ⟨technique, ⟨⟩⟩
  | ok test => exact ⟨fun _ => ⟨_, rfl⟩, fun _ => ⟨test, rfl⟩⟩

/-- The tests of a page that can be read are those of its slices. -/
theorem tests_of_read
    {page : Text}
    (titled : ∃ line ∈ scan page, line.kind.title?.isSome)
    {technique : Technique}
    (readable : read page = .ok technique) :
    technique.tests.length = (slices page).length ∧
      ∀ (index : Nat) (slice : Text), (slices page)[index]? = some slice →
        ∃ own test, read (alone slice) = .ok own ∧ own.tests = [test] ∧
          technique.tests[index]? = some test := by
  rcases exists_read_eq titled with ⟨identifier, name, whole⟩
  rw [whole] at readable
  cases outcome : readTests (sections (scan page)) with
  | error fault => simp [outcome, Except.map] at readable
  | ok tests =>
    have result : technique.tests = tests := by
      rw [outcome] at readable
      cases readable
      rfl
    rcases readTests_eq_ok outcome with ⟨length, each⟩
    refine ⟨by rw [result, length, length_sections], ?_⟩
    intro index slice found
    rcases read_slice page found with ⟨part, own, known, onPage, byItself⟩
    rcases each index part known with ⟨test, atIndex, ofPart⟩
    cases own with
    | error fault =>
      rw [onPage] at ofPart
      cases ofPart
    | ok ownTest =>
      have same : ownTest = test := Except.ok.inj (onPage.symm.trans ofPart)
      exact ⟨_, test, byItself, by simp [same], by rw [result, atIndex]⟩

/-- Counting from the lines of the page instead of a slice moves a fault. -/
theorem renumber_add_sub
    (fault : Fault)
    (before : Nat) :
    fault.renumber (· + (before + 1)) =
      (fault.renumber (· + 2)).renumber fun line => line + before - 1 := by
  cases fault with
  | unclosedFence line =>
    simp only [Fault.renumber, Fault.unclosedFence.injEq]
    omega
  | _ => rfl

/-- The fault of a page that cannot be read is that of its first unreadable slice. -/
theorem fault_of_read
    {page : Text}
    (titled : ∃ line ∈ scan page, line.kind.title?.isSome)
    {fault : Fault}
    (unreadable : read page = .error fault) :
    ∃ (index : Nat) (slice : Text) (own : Fault), (slices page)[index]? = some slice ∧
      (∀ earlier < index, ∀ other : Text, (slices page)[earlier]? = some other →
        ∃ technique, read (alone other) = .ok technique) ∧
      read (alone slice) = .error own ∧
        fault = own.renumber fun line => line + linesBefore page index - 1 := by
  rcases exists_read_eq titled with ⟨identifier, name, whole⟩
  rw [whole] at unreadable
  cases outcome : readTests (sections (scan page)) with
  | ok tests => simp [outcome, Except.map] at unreadable
  | error known =>
    have same : known = fault := by
      rw [outcome] at unreadable
      cases unreadable
      rfl
    subst same
    rcases readTests_eq_error outcome with ⟨index, part, found, ofPart, before⟩
    have inside : index < (slices page).length := by
      rw [← length_sections]
      exact (List.getElem?_eq_some_iff.mp found).1
    have slice := List.getElem?_eq_getElem inside
    rcases read_slice page slice with ⟨samePart, own, present, onPage, byItself⟩
    have equal : samePart = part := by
      rw [found] at present
      exact (Option.some.inj present).symm
    subst equal
    cases own with
    | ok test =>
      rw [onPage] at ofPart
      cases ofPart
    | error base =>
      refine ⟨index, _, base.renumber (· + 2), slice, ?_, byItself, ?_⟩
      · intro earlier less other position
        rcases exists_read_section_iff page position with ⟨otherPart, here, readable⟩
        exact readable.mp (before earlier less otherPart here)
      · rw [← renumber_add_sub]
        rw [onPage] at ofPart
        exact (Except.error.inj ofPart).symm

/--
A page with a title is read slice by slice.  It can be read when every slice can,
its tests are those of the slices in order, and its fault is that of the first
slice with one, counted from the start of the page.
-/
theorem read_iff_read_slices
    (page : Text)
    (titled : ∃ line ∈ scan page, line.kind.title?.isSome) :
    ((∃ technique, read page = .ok technique) ↔
        ∀ slice ∈ slices page, ∃ technique, read (alone slice) = .ok technique) ∧
      (∀ technique, read page = .ok technique →
        technique.tests.length = (slices page).length ∧
          ∀ (index : Nat) (slice : Text), (slices page)[index]? = some slice →
            ∃ own test, read (alone slice) = .ok own ∧ own.tests = [test] ∧
              technique.tests[index]? = some test) ∧
      (∀ fault, read page = .error fault →
        ∃ (index : Nat) (slice : Text) (own : Fault), (slices page)[index]? = some slice ∧
          (∀ earlier < index, ∀ other : Text, (slices page)[earlier]? = some other →
            ∃ technique, read (alone other) = .ok technique) ∧
          read (alone slice) = .error own ∧
            fault = own.renumber fun line => line + linesBefore page index - 1) := by
  refine ⟨⟨?_, ?_⟩, fun _ => tests_of_read titled, fun _ => fault_of_read titled⟩
  · rintro ⟨technique, readable⟩ slice member
    rcases List.getElem?_of_mem member with ⟨index, found⟩
    rcases (tests_of_read titled readable).2 index slice found with ⟨own, test, byItself, -, -⟩
    exact ⟨own, byItself⟩
  · intro every
    cases outcome : read page with
    | ok technique => exact ⟨technique, rfl⟩
    | error fault =>
      rcases fault_of_read titled outcome with ⟨index, slice, own, found, -, unreadable, -⟩
      rcases every slice (List.mem_of_getElem? found) with ⟨technique, readable⟩
      simp [unreadable] at readable

/-- A page whose first test leaves a fence open before the second one. -/
def unclosedPage : Text :=
  "# T1 - no\n# T1000 - Fences\r\n".toList ++
    "## Atomic Test #1 - First\n```sh\n## Atomic Test #2 - Second\n".toList

/-- `unclosedPage` has a title, so its fault is that of its first slice. -/
theorem read_slices_unclosedPage :
    (∃ line ∈ scan unclosedPage, line.kind.title?.isSome) ∧
      ((∃ technique, read unclosedPage = .ok technique) ↔
        ∀ slice ∈ slices unclosedPage, ∃ technique, read (alone slice) = .ok technique) ∧
      read unclosedPage = .error (.unclosedFence 4) :=
  have titled : ∃ line ∈ scan unclosedPage, line.kind.title?.isSome := by decide +kernel
  ⟨titled, (read_iff_read_slices unclosedPage titled).1, by decide +kernel⟩

end TechniquePages.Page
