import TechniquePages.Proofs.Page.WrittenDependencies
import TechniquePages.Proofs.Page.WrittenExecutor
import TechniquePages.Proofs.Page.WrittenTable

/-!
# Sections, written and read

The lines of a test are blocks: description, platforms, guid, inputs, executor
and dependencies, with fillers between and after them.  In each block only its
own part begins, so every reader passes over the blocks before its own, and what
follows has nothing more for it.  The section therefore makes the written test
again, with its commands decoded and its arguments keyed.
-/

namespace TechniquePages.Page

open Text (IsTrimmed IsLine linesOf)
open Unicode (isBlank)

/-! ## Platforms -/

namespace Platform

theorem joinWith_comma (names : List Text) :
    Text.joinWith ", ".toList names =
      Text.joinWith [','] (names.head?.toList ++ names.tail.map (' ' :: ·)) := by
  induction names with
  | nil => rfl
  | cons name rest hypothesis =>
    cases rest with
    | nil => rfl
    | cons next more =>
      rw [Text.joinWith_cons_of_ne_nil _ _ (by simp), hypothesis]
      cases more <;> simp [Text.joinWith]

/-- The display names of platforms can stand in a list. -/
theorem forall_mem_map_display
    {tokens : List Text}
    (known : ∀ token ∈ tokens, IsPlatform token) :
    ∀ name ∈ tokens.map display, IsLine name ∧ name ≠ [] ∧ ',' ∉ name := by
  intro name member
  rcases List.mem_map.mp member with ⟨source, inTokens, rfl⟩
  have platform := known source inTokens
  exact ⟨platform.line, platform.nonempty, platform.undivided⟩

theorem isTrimmed_writeList
    {tokens : List Text}
    (known : ∀ token ∈ tokens, IsPlatform token) :
    IsTrimmed (writeList tokens) :=
  Text.isTrimmed_joinWith _
    (fun name member => (forall_mem_map_display known name member).1.trimmed)
    fun name member => (forall_mem_map_display known name member).2.1

/-- Platforms in a list with commas are read back. -/
theorem readList_writeList
    {tokens : List Text}
    (known : ∀ token ∈ tokens, IsPlatform token) :
    readList (Text.trim (writeList tokens)) = tokens := by
  cases tokens with
  | nil => rfl
  | cons token others =>
    have lines := forall_mem_map_display known
    have trimmed := isTrimmed_writeList known
    have pieces : Text.cutAt ',' (writeList (token :: others)) =
        display token :: (others.map display).map (' ' :: ·) := by
      rw [writeList, joinWith_comma]
      refine Text.cutAt_joinWith_of_not_mem (by simp) fun piece member => ?_
      rcases List.mem_cons.mp member with rfl | later
      · exact (lines _ (by simp)).2.2
      · rcases List.mem_map.mp later with ⟨name, inNames, rfl⟩
        simp [(lines name (List.mem_cons_of_mem _ inNames)).2.2]
    have names : (display token :: (others.map display).map (' ' :: ·)).map Text.trim =
        (token :: others).map display := by
      rw [List.map_cons, List.map_cons, List.map_map, (lines _ (by simp)).1.trimmed.trim_eq]
      congr 1
      refine (List.map_congr_left fun name member => ?_).trans (List.map_id _)
      rw [Function.comp_apply, Text.trim_cons_of_blank _ (by decide)]
      exact (lines name (List.mem_cons_of_mem _ member)).1.trimmed
    have kept : ((token :: others).map display).filter (fun name => !name.isEmpty) =
        (token :: others).map display := by
      rw [List.filter_eq_self]
      intro name member
      simp [(lines name member).2.1]
    rw [readList, trimmed.trim_eq, pieces, names, kept, List.map_map]
    refine (List.map_congr_left fun name member => ?_).trans (List.map_id _)
    exact (known name member).known

end Platform

/-! ## Fillers -/

/-- Lines that say nothing: empty ones and line breaks. -/
def IsFill (texts : List Text) : Prop :=
  ∀ text ∈ texts, text = [] ∨ text = "<br/>".toList

theorem IsFill.hasKind
    {texts : List Text}
    (fill : IsFill texts) :
    ∀ text ∈ texts, HasKind text .prose ∧ ExecutorBlock.isFillerText text = true ∧
      text.getLast? ≠ some '\r' := by
  intro text member
  rcases fill text member with rfl | rfl
  · exact ⟨hasKind_nil, by decide, by simp⟩
  · exact ⟨hasKind_break, by decide, by decide⟩

theorem IsFill.scanned
    {texts : List Text}
    (fill : IsFill texts)
    (number : Nat) :
    ∀ line ∈ scanFrom number none texts,
      line.kind = .prose ∧ ExecutorBlock.isFillerText line.text = true := by
  induction texts generalizing number with
  | nil => simp
  | cons text rest hypothesis =>
    have own := fill.hasKind text (List.mem_cons_self ..)
    have later := hypothesis (fun other member => fill other (List.mem_cons_of_mem _ member))
      (number + 1)
    rw [own.1.scanFrom_cons]
    intro line member
    rcases List.mem_cons.mp member with rfl | inRest
    · exact ⟨rfl, own.2.1⟩
    · exact later line inRest

theorem IsFill.isBlock
    {texts : List Text}
    (fill : IsFill texts)
    {parts : List Part} :
    IsBlock parts texts := by
  induction texts with
  | nil => exact IsBlock.nil
  | cons text rest hypothesis =>
    have own := fill.hasKind text (List.mem_cons_self ..)
    exact (hypothesis fun other member => fill other (List.mem_cons_of_mem _ member)).cons_prose
      own.1 own.2.2

/-! ## The blocks of a test -/

variable {test : AtomicTest} {fill : List Text}

/-- The line that lists the platforms of a test. -/
def platformsLine (test : AtomicTest) : Text :=
  "**Supported Platforms:** ".toList ++ Platform.writeList test.platforms

/-- The lines up to the list of platforms. -/
def openingLines (test : AtomicTest) : List Text :=
  linesOf (writeTestDescription test.description) ++ [[], platformsLine test, []]

/-- The lines below the executor. -/
def closingLines (test : AtomicTest) : List Text :=
  [] :: (linesOf (writeDependencies test) ++ ["<br/>".toList])

/-- The lines of a test below its heading. -/
def bodyLines (test : AtomicTest) : List Text :=
  openingLines test ++ (linesOf (writeGuid test.guid) ++ (linesOf (writeInputs test.arguments) ++
    (linesOf (ExecutorBlock.write test.executor) ++ closingLines test)))

theorem isLine_writeList
    {tokens : List Text}
    (known : ∀ token ∈ tokens, IsPlatform token) :
    '\n' ∉ Platform.writeList tokens ∧ (Platform.writeList tokens).getLast? ≠ some '\r' := by
  have lines : ∀ name ∈ tokens.map Platform.display, IsLine name ∧ name ≠ [] := by
    intro name member
    rcases List.mem_map.mp member with ⟨source, inTokens, rfl⟩
    exact ⟨(known source inTokens).line, (known source inTokens).nonempty⟩
  have trimmed : IsTrimmed (Platform.writeList tokens) :=
    Text.isTrimmed_joinWith _ (fun name member => (lines name member).1.trimmed)
      fun name member => (lines name member).2
  refine ⟨?_, ?_⟩
  · intro member
    rcases Text.mem_joinWith member with separator | ⟨name, inNames, inside⟩
    · exact absurd separator (by decide)
    · exact (lines name inNames).1.single inside
  · exact trimmed.unreturned

theorem hasKind_platformsLine (test : AtomicTest) :
    HasKind (platformsLine test) (.platforms (Text.trim (Platform.writeList test.platforms))) := by
  unfold platformsLine
  exact hasKind_platforms _

theorem linesOf_writeTestDescription
    {description : Text}
    (trimmed : IsTrimmed description) :
    linesOf (writeTestDescription description) =
      if description = [] then [] else Text.cutAt '\n' description := by
  rw [writeTestDescription, trimmed.trim_eq]
  by_cases empty : description = []
  · simp [empty]
  · simp [empty, linesOf]

theorem isBlock_writeTestDescription
    {description : Text}
    (written : IsDescription description) :
    IsBlock [] (linesOf (writeTestDescription description)) := by
  rw [linesOf_writeTestDescription written.trimmed]
  split
  · exact IsBlock.nil
  · exact written.isBlock

theorem isBlock_openingLines (printable : test.IsPrintable) :
    IsBlock [.platforms] (openingLines test) := by
  have listed := isLine_writeList printable.platforms
  refine ((isBlock_writeTestDescription printable.description).mono (by simp)).append ?_
  refine IsBlock.cons_prose hasKind_nil (by simp) ?_
  refine IsBlock.cons (hasKind_platformsLine test) (by simp [LineKind.part?]) rfl ?_ ?_
  · exact Text.getLast?_append_ne (by decide) listed.2
  · exact IsBlock.nil.cons_prose hasKind_nil (by simp)

theorem visible_of_isGuid
    {guid : Text}
    (known : IsGuid guid) :
    guid ≠ [] ∧ ∀ character ∈ guid, 0x20 < character.toNat ∧ character.toNat < 0x80 := by
  rcases known with ⟨groups, lengths, digits, rfl⟩
  constructor
  · rcases groups with - | ⟨group, rest⟩
    · simp at lengths
    · have written : group ≠ [] := by
        rintro rfl
        simp at lengths
      cases rest <;> simp [Text.joinWith, written]
  · intro character member
    rcases Text.mem_joinWith member with hyphen | ⟨group, inGroups, inside⟩
    · rw [List.mem_singleton.mp hyphen]
      decide
    · exact visible_of_isHexDigit (digits group inGroups character inside)

theorem linesOf_writeGuid
    {guid : Text}
    (known : IsGuid guid) :
    linesOf (writeGuid (some guid)) = ["**auto_generated_guid:** ".toList ++ guid, []] := by
  have visible := visible_of_isGuid known
  have single : '\n' ∉ "**auto_generated_guid:** ".toList ++ guid := by
    rw [List.mem_append, not_or]
    refine ⟨by decide, fun member => ?_⟩
    exact absurd (visible.2 _ member).1 (by decide)
  rw [writeGuid, if_neg (by simpa using visible.1), Text.linesOf_cons_of_single single]
  rfl

theorem isBlock_writeGuid
    {guid : Option Text}
    (known : ∀ text ∈ guid, IsGuid text) :
    IsBlock [.guid] (linesOf (writeGuid guid)) := by
  cases guid with
  | none => exact IsBlock.nil
  | some text =>
    have visible := visible_of_isGuid (known text rfl)
    rw [linesOf_writeGuid (known text rfl)]
    refine IsBlock.cons (hasKind_guid (known text rfl)) (by simp [LineKind.part?]) rfl ?_
      (IsBlock.nil.cons_prose hasKind_nil (by simp))
    refine Text.getLast?_append_ne (by decide) fun returned => ?_
    exact absurd (visible.2 _ (List.mem_of_getLast? returned)).1 (by decide)

theorem isBlock_closingLines
    (printable : test.IsPrintable)
    (isFill : IsFill fill) :
    IsBlock [.dependencies] (closingLines test ++ fill) := by
  have tail : IsFill ("<br/>".toList :: fill) := by
    intro text member
    rcases List.mem_cons.mp member with rfl | later
    · exact Or.inr rfl
    · exact isFill text later
  have whole := (DependencyBlock.isBlock_writeDependencies printable).append tail.isBlock
  rw [closingLines, List.cons_append, List.append_assoc]
  exact whole.cons_prose hasKind_nil (by simp)

/-- The lines of a test are one block, in which any part of a test may begin. -/
theorem isBlock_bodyLines
    (printable : test.IsPrintable)
    (isFill : IsFill fill) :
    IsBlock [.platforms, .guid, .inputs, .executor, .cleanup, .dependencies]
      (bodyLines test ++ fill) := by
  rw [bodyLines]
  simp only [List.append_assoc]
  refine ((isBlock_openingLines printable).mono (by simp)).append ?_
  refine ((isBlock_writeGuid printable.guid).mono (by simp)).append ?_
  refine ((isBlock_writeInputs printable.arguments).mono (by simp)).append ?_
  refine ((ExecutorBlock.isBlock_write printable.executor).mono (by simp)).append ?_
  exact (isBlock_closingLines printable isFill).mono (by simp)

/-- The scan of a test's lines is the scans of its blocks. -/
theorem exists_scanFrom_bodyLines
    (printable : test.IsPrintable)
    (number : Nat)
    (fill : List Text) :
    ∃ second third fourth fifth, scanFrom number none (bodyLines test ++ fill) =
      scanFrom number none (openingLines test) ++
        (scanFrom second none (linesOf (writeGuid test.guid)) ++
          (scanFrom third none (linesOf (writeInputs test.arguments)) ++
            (scanFrom fourth none (linesOf (ExecutorBlock.write test.executor)) ++
              scanFrom fifth none (closingLines test ++ fill)))) := by
  rw [bodyLines]
  simp only [List.append_assoc]
  rw [scanFrom_append (isBlock_openingLines printable).closed,
    scanFrom_append (isBlock_writeGuid printable.guid).closed,
    scanFrom_append (isBlock_writeInputs printable.arguments).closed,
    scanFrom_append (ExecutorBlock.isBlock_write printable.executor).closed]
  exact ⟨_, _, _, _, rfl⟩

/-! ## Reading the blocks -/

/-- A text between line feeds is its pieces and an empty one after them. -/
theorem joinLines_cutAt_append (text : Text) :
    Text.joinLines (Text.cutAt '\n' text ++ [[]]) = text ++ ['\n'] := by
  have pieces : Text.cutAt '\n' (text ++ ['\n']) = Text.cutAt '\n' text ++ [[]] :=
    Text.cutAt_append_separator '\n' text []
  rw [← pieces]
  exact Text.joinWith_cutAt '\n' _

theorem exists_scanFrom_openingLines
    (printable : test.IsPrintable)
    (number : Nat) :
    ∃ next, scanFrom number none (openingLines test) =
      scanFrom number none (linesOf (writeTestDescription test.description)) ++
        [⟨next, [], .prose⟩,
          ⟨next + 1, platformsLine test,
            .platforms (Text.trim (Platform.writeList test.platforms))⟩,
          ⟨next + 1 + 1, [], .prose⟩] := by
  rw [openingLines, scanFrom_append (isBlock_writeTestDescription printable.description).closed,
    hasKind_nil.scanFrom_cons, (hasKind_platformsLine test).scanFrom_cons,
    hasKind_nil.scanFrom_cons, scanFrom_nil]
  exact ⟨_, rfl⟩

namespace Section

/-- The description is read up to the list of platforms. -/
theorem description_openingLines
    (printable : test.IsPrintable)
    (number : Nat)
    (rest : List Line) :
    description (scanFrom number none (openingLines test) ++ rest) = test.description := by
  have written := printable.description
  have block := isBlock_writeTestDescription written
  rcases exists_scanFrom_openingLines printable number with ⟨next, scanned⟩
  have unending : ∀ line ∈ scanFrom number none (linesOf (writeTestDescription test.description)),
      line.kind.endsText = false := by
    rw [linesOf_writeTestDescription written.trimmed]
    split
    · simp
    · exact written.toIsFreeText.unending_pieces number
  have upTo := @takeWhile_append_of_head? _
    (fun line : Line => !(line.kind.platforms?.isSome || line.kind.endsText))
    (scanFrom number none (linesOf (writeTestDescription test.description)) ++
      [⟨next, [], .prose⟩])
    (⟨next + 1, platformsLine test, .platforms (Text.trim (Platform.writeList test.platforms))⟩ ::
      ⟨next + 1 + 1, [], .prose⟩ :: rest)
    (by
      intro line member
      rcases List.mem_append.mp member with inText | blank
      · have unlisted := block.silent asksFor_platforms (by simp) number line inText
        simp [unlisted, unending line inText]
      · rw [List.mem_singleton.mp blank]
        rfl)
    (by simp [LineKind.platforms?])
  rw [scanned, List.append_assoc, description, ← List.singleton_append, List.append_assoc,
    ← List.append_assoc]
  simp only [List.cons_append, List.nil_append]
  rw [upTo, Line.join, List.map_append, map_text_scanFrom,
    linesOf_writeTestDescription written.trimmed]
  split
  · rename_i empty
    rw [empty]
    rfl
  · rw [List.map_singleton, joinLines_cutAt_append, Text.trim_append_of_blank _ (by decide)]
    exact written.trimmed

theorem platforms_openingLines
    (printable : test.IsPrintable)
    (number : Nat)
    (rest : List Line) :
    platforms (scanFrom number none (openingLines test) ++ rest) = test.platforms := by
  have block := isBlock_writeTestDescription printable.description
  rcases exists_scanFrom_openingLines printable number with ⟨next, scanned⟩
  rw [scanned, List.append_assoc, platforms, Line.first?,
    block.afterFirst?_append asksFor_platforms (by simp)]
  simp [Line.afterFirst?, LineKind.platforms?, Platform.readList_writeList printable.platforms]

/-- A guid is read from its line, and none where no line has one. -/
theorem guid?_writeGuid
    {guid : Option Text}
    (known : ∀ text ∈ guid, IsGuid text)
    (number : Nat)
    {rest : List Line}
    (unidentified : ∀ line ∈ rest, line.kind.guid? = none) :
    guid? (scanFrom number none (linesOf (writeGuid guid)) ++ rest) = guid := by
  cases guid with
  | none =>
    rw [writeGuid, Text.linesOf_nil, scanFrom_nil, List.nil_append, guid?, Line.first?,
      Line.afterFirst?_eq_none unidentified]
    rfl
  | some text =>
    rw [linesOf_writeGuid (known text rfl), (hasKind_guid (known text rfl)).scanFrom_cons]
    rfl

theorem arguments_append
    {parts : List Part}
    {front : List Text}
    (block : IsBlock parts front)
    (absent : Part.inputs ∉ parts)
    (number : Nat)
    (rest : List Line) :
    arguments (scanFrom number none front ++ rest) = arguments rest := by
  rw [arguments, inputTexts?, Line.after?,
    block.afterFirst?_append (asksFor_kind (by rfl)) absent]
  rfl

end Section

theorem ExecutorBlock.read_append
    {parts : List Part}
    {front : List Text}
    (block : IsBlock parts front)
    (absent : Part.executor ∉ parts)
    (name : Text)
    (number : Nat)
    (rest : List Line) :
    ExecutorBlock.read name (scanFrom number none front ++ rest) =
      ExecutorBlock.read name rest := by
  rw [ExecutorBlock.read, block.afterFirst?_append asksFor_executor absent]
  rfl

theorem DependencyBlock.read_append
    {parts : List Part}
    {front : List Text}
    (block : IsBlock parts front)
    (absent : Part.dependencies ∉ parts)
    (executor : Text)
    (number : Nat)
    (rest : List Line) :
    DependencyBlock.read executor (scanFrom number none front ++ rest) =
      DependencyBlock.read executor rest := by
  rw [DependencyBlock.read, block.afterFirst?_append asksFor_dependencies absent]
  rfl

/-- What stands below an executor may follow it. -/
theorem mayFollow_closingLines
    (printable : test.IsPrintable)
    (isFill : IsFill fill)
    (number : Nat) :
    ExecutorBlock.MayFollow (scanFrom number none (closingLines test ++ fill)) := by
  have uncleaned : ∀ line ∈ scanFrom number none (closingLines test ++ fill),
      line.kind ≠ .cleanupHeading :=
    (isBlock_closingLines printable isFill).kind_ne_of_mem (by rfl) (by simp) number
  by_cases empty : test.dependencies = []
  · have whole : IsFill (closingLines test ++ fill) := by
      rw [closingLines, writeDependencies, if_pos (by simp [empty])]
      intro text member
      rcases List.mem_append.mp member with own | later
      · simpa using own
      · exact isFill text later
    refine ⟨⟨scanFrom number none (closingLines test ++ fill), [], by simp, ?_, by simp⟩,
      uncleaned⟩
    intro line member
    rcases whole.scanned number line member with ⟨kind, filler⟩
    exact ⟨filler, by rw [kind]; rfl⟩
  · have interpreter := DependencyBlock.isInterpreter_dependencyInterpreter printable
    rw [closingLines, DependencyBlock.linesOf_writeDependencies printable empty] at uncleaned ⊢
    simp only [List.cons_append] at uncleaned ⊢
    rw [hasKind_nil.scanFrom_cons, (hasKind_dependencies interpreter.isQuotable).scanFrom_cons]
      at uncleaned ⊢
    exact ExecutorBlock.mayFollow_cons number rfl uncleaned

/-- The dependencies are read from below the executor. -/
theorem DependencyBlock.read_closingLines
    (printable : test.IsPrintable)
    (isFill : IsFill fill)
    (number : Nat) :
    DependencyBlock.read test.executor.name (scanFrom number none (closingLines test ++ fill)) =
      (test.dependencyExecutor, test.dependencies.map Dependency.reread) := by
  have tail : IsFill ("<br/>".toList :: fill) := by
    intro text member
    rcases List.mem_cons.mp member with rfl | later
    · exact Or.inr rfl
    · exact isFill text later
  have blank : IsBlock [] [[]] := IsBlock.nil.cons_prose hasKind_nil (by simp)
  have closed := (isBlock_writeDependencies printable).closed
  have shape : closingLines test ++ fill =
      [[]] ++ (linesOf (writeDependencies test) ++ "<br/>".toList :: fill) := by
    simp [closingLines]
  rw [shape, scanFrom_append blank.closed, read_append blank (by simp), scanFrom_append closed]
  exact read_write printable _ fun line member => (tail.scanned _ line member).1

@[simp]
theorem Executor.name_reread (executor : Executor) :
    executor.reread.name = executor.name := by
  unfold Executor.reread Executor.name
  cases executor.kind <;> rfl

/-- The lines of a test make the test again, in the shape that a page has. -/
theorem Section.read_bodyLines
    (printable : test.IsPrintable)
    (isFill : IsFill fill)
    (number : Nat) :
    Section.read ⟨test.name, scanFrom number none (bodyLines test ++ fill)⟩ = .ok test.reread := by
  have closed : unclosedFence? (scanFrom number none (bodyLines test ++ fill)) = none := by
    have whole := forall_kind_scanFrom (·.isUnclosed = false)
      (isBlock_bodyLines printable isFill).closed number
    rw [unclosedFence?, List.find?_eq_none.mpr fun line member => by simp [whole line member]]
    rfl
  have opening := isBlock_openingLines printable
  have guid := isBlock_writeGuid printable.guid
  have inputs := isBlock_writeInputs printable.arguments
  have executor := ExecutorBlock.isBlock_write printable.executor
  have closing := isBlock_closingLines printable isFill
  rcases exists_scanFrom_bodyLines printable number fill with
    ⟨second, third, fourth, fifth, scanned⟩
  have readExecutor : ExecutorBlock.read test.name
      (scanFrom number none (bodyLines test ++ fill)) = .ok test.executor.reread := by
    rw [scanned, ExecutorBlock.read_append opening (by simp),
      ExecutorBlock.read_append guid (by simp), ExecutorBlock.read_append inputs (by simp)]
    exact ExecutorBlock.read_write printable.executor _ _
      (mayFollow_closingLines printable isFill fifth)
  have readDependencies : DependencyBlock.read test.executor.name
      (scanFrom number none (bodyLines test ++ fill)) =
        (test.dependencyExecutor, test.dependencies.map Dependency.reread) := by
    rw [scanned, DependencyBlock.read_append opening (by simp),
      DependencyBlock.read_append guid (by simp), DependencyBlock.read_append inputs (by simp),
      DependencyBlock.read_append executor (by simp)]
    exact DependencyBlock.read_closingLines printable isFill fifth
  have readGuid : guid? (scanFrom number none (bodyLines test ++ fill)) = test.guid := by
    have unidentified : ∀ line ∈ scanFrom third none (linesOf (writeInputs test.arguments)) ++
        (scanFrom fourth none (linesOf (ExecutorBlock.write test.executor)) ++
          scanFrom fifth none (closingLines test ++ fill)), line.kind.guid? = none := by
      intro line member
      rcases List.mem_append.mp member with inInputs | later
      · exact inputs.silent asksFor_guid (by simp) _ line inInputs
      · rcases List.mem_append.mp later with inExecutor | inClosing
        · exact executor.silent asksFor_guid (by simp) _ line inExecutor
        · exact closing.silent asksFor_guid (by simp) _ line inClosing
    have found := guid?_writeGuid printable.guid second unidentified
    rw [guid?] at found ⊢
    rw [scanned, Line.first?, opening.afterFirst?_append asksFor_guid (by simp)]
    exact found
  have readArguments : arguments (scanFrom number none (bodyLines test ++ fill)) =
      test.arguments.toKeyed := by
    rw [scanned, arguments_append opening (by simp), arguments_append guid (by simp)]
    refine arguments_write printable.arguments printable.distinct third ?_
    intro line member
    rcases List.mem_append.mp member with inExecutor | inClosing
    · exact executor.kind_ne_of_mem (by rfl) (by simp) _ line inExecutor
    · exact closing.kind_ne_of_mem (by rfl) (by simp) _ line inClosing
  have readDescription : description (scanFrom number none (bodyLines test ++ fill)) =
      test.description := by
    rw [scanned]
    exact description_openingLines printable number _
  have readPlatforms : platforms (scanFrom number none (bodyLines test ++ fill)) =
      test.platforms := by
    rw [scanned]
    exact platforms_openingLines printable number _
  rw [Section.read, closed]
  simp only [readExecutor, Executor.name_reread, readDependencies, readGuid, readArguments,
    readDescription, readPlatforms]
  rfl

end TechniquePages.Page
