import TechniquePages.Proofs.Page.RoundTrip

/-!
# Commands on a page

A command is written as it is, and read with its references replaced.  So a
command that stands between fences without trouble is not always read back: it
is exactly when it holds nothing that reads as a reference.  This is shown for
each of the four places that a command has in a test.
-/

namespace TechniquePages.Page

/-- A command in a shell: trimmed, not empty, and no line of it closes a fence or opens a test. -/
structure IsShellText (text : Text) : Prop extends IsCode text where
  nonempty : text ≠ []

/-- The places of commands in a test. -/
inductive CommandPlace where
  | command
  | cleanup
  | check
  | get
  deriving DecidableEq

/-- A test for a shell that has nothing but its executor and dependencies. -/
def plainTest
    (executor : Executor)
    (dependencies : List Dependency) : AtomicTest :=
  { AtomicTest.bare "Shell".toList executor with dependencies := dependencies }

/-- A plain command for a shell. -/
def plainCommand : Text := "true".toList

/-- An executor that gives a command to a shell. -/
def shell (command : Text) : Executor := .command "sh".toList command

/-- A plain test with a command in one place. -/
def shellTest (text : Text) : CommandPlace → AtomicTest
  | .command => plainTest (shell text) []
  | .cleanup => plainTest ((shell plainCommand).withCleanup text) []
  | .check => plainTest (shell plainCommand) [⟨"A tool".toList, text, none⟩]
  | .get => plainTest (shell plainCommand) [⟨"A tool".toList, plainCommand, some text⟩]

/-- The command in a place of a test. -/
def commandAt? (test : AtomicTest) : CommandPlace → Option Text
  | .command => some test.executor.procedure
  | .cleanup => test.executor.cleanup?
  | .check => test.dependencies.head?.map Dependency.check
  | .get => test.dependencies.head?.bind Dependency.get

/-- A technique of one plain test. -/
def shellTechnique
    (text : Text)
    (place : CommandPlace) : Technique :=
  { Technique.bare "T1059".toList "Shell".toList with tests := [shellTest text place] }

theorem commandAt?_shellTest
    (text : Text)
    (place : CommandPlace) :
    commandAt? (shellTest text place) place = some text := by
  cases place <;> rfl

theorem isPrintable_plainTest
    {executor : Executor}
    {dependencies : List Dependency}
    (printable : executor.IsPrintable)
    (each : ∀ dependency ∈ dependencies, dependency.IsPrintable) :
    (plainTest executor dependencies).IsPrintable where
  name :=
    ⟨show Text.IsTrimmed "Shell".toList by decide, show '\n' ∉ "Shell".toList by decide⟩
  named := show "Shell".toList ≠ [] by decide
  description :=
    ⟨⟨rfl, show Text.IsReturnFree [] by decide, by simp [plainTest, AtomicTest.bare, scan],
      by simp [plainTest, AtomicTest.bare, scan], by simp [plainTest, AtomicTest.bare, scan]⟩,
      by simp [plainTest, AtomicTest.bare, scan]⟩
  platforms := by simp [plainTest, AtomicTest.bare]
  executor := printable
  arguments := by simp [plainTest, AtomicTest.bare, Arguments.empty]
  distinct := by simp [plainTest, AtomicTest.bare, Arguments.empty]
  dependencies := each
  dependencyExecutor := by simp [plainTest, AtomicTest.bare]
  guid := by simp [plainTest, AtomicTest.bare]

theorem isCode_plainCommand : IsCode plainCommand :=
  ⟨by decide, by decide, by decide +kernel⟩

theorem isPrintable_shell
    {command : Text}
    (code : IsCode command)
    {cleanup : Option Text}
    (cleans : ∀ text ∈ cleanup, IsCode text ∧ text ≠ []) :
    Executor.IsPrintable ⟨.command "sh".toList cleanup, false, command, .separate⟩ :=
  ⟨⟨⟨by decide, List.all_eq_true.mp (by decide)⟩, by decide⟩, code, cleans⟩

theorem isPrintable_tool
    {check : Text}
    (code : IsCode check)
    {get : Option Text}
    (gets : ∀ text ∈ get, IsCode text ∧ text ≠ []) :
    ∀ dependency ∈ [⟨"A tool".toList, check, get⟩], Dependency.IsPrintable dependency := by
  intro dependency member
  have line : Text.IsLine "A tool".toList := ⟨by decide, by decide⟩
  have decoded : Html.decode "A tool".toList = "A tool".toList :=
    Html.decode_eq_self _ (by decide)
  rw [List.mem_singleton.mp member]
  exact ⟨line, decoded, code, gets⟩

theorem isPrintable_shellTest
    {text : Text}
    (written : IsShellText text)
    (place : CommandPlace) :
    (shellTest text place).IsPrintable := by
  have plain := @isPrintable_shell plainCommand isCode_plainCommand none (by simp)
  have present : ∀ other ∈ some text, IsCode other ∧ other ≠ [] := by
    intro other known
    rw [← Option.some.inj known]
    exact ⟨written.toIsCode, written.nonempty⟩
  cases place with
  | command => exact isPrintable_plainTest (isPrintable_shell written.toIsCode (by simp)) (by simp)
  | cleanup => exact isPrintable_plainTest (isPrintable_shell isCode_plainCommand present) (by simp)
  | check => exact isPrintable_plainTest plain (isPrintable_tool written.toIsCode (by simp))
  | get => exact isPrintable_plainTest plain (isPrintable_tool isCode_plainCommand present)

theorem isPrintable_shellTechnique
    {text : Text}
    (written : IsShellText text)
    (place : CommandPlace) :
    (shellTechnique text place).IsPrintable where
  identifier := @IsIdentifier.plain "1059".toList ⟨rfl, List.all_eq_true.mp (by decide)⟩
  name :=
    ⟨show Text.IsTrimmed "Shell".toList by decide, show '\n' ∉ "Shell".toList by decide⟩
  named := show "Shell".toList ≠ [] by decide
  description := by simp [shellTechnique, Technique.bare]
  tests := by
    intro test member
    rw [List.mem_singleton.mp member]
    exact isPrintable_shellTest written place

/-- A command in its place is read back decoded, and nothing else changes. -/
theorem read_write_shellTechnique
    {text : Text}
    (written : IsShellText text)
    (place : CommandPlace) :
    read (write (shellTechnique text place)) =
      .ok (shellTechnique (Html.decode text) place) := by
  have plain : Html.decode plainCommand = plainCommand := Html.decode_eq_self _ (by decide)
  have test : (shellTest text place).reread = shellTest (Html.decode text) place := by
    cases place <;>
      simp [shellTest, plainTest, AtomicTest.bare, AtomicTest.reread, shell, Executor.command,
        Executor.withCleanup, Executor.reread, Dependency.reread, Arguments.toKeyed,
        Arguments.empty, plain]
  rw [read_write_reread (isPrintable_shellTechnique written place), Technique.reread,
    Technique.mapTests, shellTechnique, List.map_singleton, test]
  rfl

/--
A command in any place of a test is read back exactly when decoding leaves it
alone.  Otherwise the page is read all the same, and the place holds the decoded
command.
-/
theorem command_survives_iff_decoded
    (text : Text)
    (written : IsShellText text)
    (place : CommandPlace) :
    ∃ technique test, read (write (shellTechnique text place)) = .ok technique ∧
      technique.tests = [test] ∧
        commandAt? test place = some (Html.decode text) ∧
          (commandAt? test place = some text ↔ Html.decode text = text) := by
  have held := commandAt?_shellTest (Html.decode text) place
  refine ⟨_, _, read_write_shellTechnique written place, rfl, held, ?_⟩
  rw [held, Option.some.injEq]

/-- A command that writes a number reference to a less-than sign. -/
def echoReference : Text := "echo &#60;".toList

theorem isShellText_echoReference : IsShellText echoReference :=
  ⟨⟨by decide +kernel, by decide +kernel, by decide +kernel⟩, by decide⟩

theorem command_survives_echoReference :
    IsShellText echoReference ∧
      ∃ technique test, read (write (shellTechnique echoReference .command)) = .ok technique ∧
        technique.tests = [test] ∧
          commandAt? test .command = some (Html.decode echoReference) ∧
            (commandAt? test .command = some echoReference ↔
              Html.decode echoReference = echoReference) :=
  ⟨isShellText_echoReference,
    command_survives_iff_decoded echoReference isShellText_echoReference .command⟩

/-- Not every command is read back: a reference in it comes back as its character. -/
theorem not_forall_command_survives :
    ¬ ∀ (text : Text) (place : CommandPlace), IsShellText text →
      ∃ technique test, read (write (shellTechnique text place)) = .ok technique ∧
        technique.tests = [test] ∧ commandAt? test place = some text := by
  intro survives
  rcases survives echoReference .command isShellText_echoReference with
    ⟨technique, test, readable, tests, held⟩
  rw [read_write_shellTechnique isShellText_echoReference] at readable
  rw [← Except.ok.inj readable] at tests
  have same : shellTest (Html.decode echoReference) .command = test :=
    (List.cons.inj tests).1
  rw [← same, commandAt?_shellTest] at held
  have decoded : Html.decode echoReference = "echo <".toList := by decide +kernel
  rw [decoded] at held
  exact absurd (Option.some.inj held) (by decide)

end TechniquePages.Page
