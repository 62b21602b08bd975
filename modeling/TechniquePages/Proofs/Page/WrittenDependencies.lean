import TechniquePages.Proofs.Html.Decoding
import TechniquePages.Proofs.Page.FencedCode

/-!
# Dependencies, written and read

A dependency reaches up to the next description, and what stands in it between
its description and that point are its own commands.  So the dependencies of a
test are read one after the other, by induction on them, and each is the written
one with its commands decoded.
-/

namespace TechniquePages.Page.DependencyBlock

open Text (IsLine linesOf)

variable {language : Text} {dependency : Dependency}

/-! ## One dependency -/

/-- The lines of a dependency below its description. -/
def commandLines
    (language : Text)
    (dependency : Dependency) : List Text :=
  "##### Check Prereq Commands:".toList ::
    (linesOf (FencedBlock.write language dependency.check) ++
      linesOf (writeGet language dependency.get))

theorem linesOf_writeOne (printable : dependency.IsPrintable) :
    linesOf (writeOne language dependency) =
      ("##### Description: ".toList ++ dependency.description) ::
        commandLines language dependency := by
  have line := printable.description
  have single : '\n' ∉ "##### Description: ".toList ++ dependency.description := by
    rw [List.mem_append, not_or]
    exact ⟨by decide, line.single⟩
  rw [writeOne, line.trimmed.trim_eq, Text.linesOf_cons_of_single single,
    Text.linesOf_cons_of_single (by decide), Text.linesOf_append, commandLines]

theorem linesOf_writeGet
    {get : Text}
    (code : IsCode get)
    (nonempty : get ≠ []) :
    linesOf (writeGet language (some get)) =
      "##### Get Prereq Commands:".toList :: linesOf (FencedBlock.write language get) := by
  rw [writeGet, if_neg (by simpa [code.trimmed.trim_eq] using nonempty),
    Text.linesOf_cons_of_single (by decide)]

/-- No line below the description begins another dependency. -/
theorem dependency?_of_mem_commandLines
    (word : ∀ character ∈ language, Marker.isLanguageCharacter character = true)
    (printable : dependency.IsPrintable)
    {number : Nat}
    {line : Line}
    (member : line ∈ scanFrom number none (commandLines language dependency)) :
    line.kind.dependency? = none := by
  have ofBlock : ∀ {content : Text} {start : Nat} {other : Line}, IsCode content →
      other ∈ scanFrom start none (linesOf (FencedBlock.write language content)) →
        other.kind.dependency? = none := by
    intro content start other code inside
    rcases FencedBlock.kind_of_mem_write word code inside with kind | kind | kind <;>
      rw [kind] <;> rfl
  have closed := (FencedBlock.isBlock_write [] word printable.check).closed
  rw [commandLines, hasKind_check.scanFrom_cons, scanFrom_append closed, List.mem_cons,
    List.mem_append] at member
  rcases member with rfl | inCheck | inGet
  · rfl
  · exact ofBlock printable.check inCheck
  · cases get : dependency.get with
    | none => simp [get, writeGet] at inGet
    | some text =>
      rcases printable.get text get with ⟨code, nonempty⟩
      rw [get, linesOf_writeGet code nonempty, hasKind_get.scanFrom_cons, List.mem_cons] at inGet
      rcases inGet with rfl | inside
      · rfl
      · exact ofBlock code inside

theorem isBlock_commandLines
    (parts : List Part)
    (word : ∀ character ∈ language, Marker.isLanguageCharacter character = true)
    (printable : dependency.IsPrintable) :
    IsBlock parts (commandLines language dependency) := by
  have check := FencedBlock.isBlock_write parts word printable.check
  refine IsBlock.cons hasKind_check (by simp [LineKind.part?]) rfl (by decide) (check.append ?_)
  cases get : dependency.get with
  | none => exact IsBlock.nil
  | some text =>
    rcases printable.get text get with ⟨code, nonempty⟩
    rw [linesOf_writeGet code nonempty]
    exact (FencedBlock.isBlock_write _ word code).cons hasKind_get (by simp [LineKind.part?]) rfl
      (by decide)

/-- A get command is read below its heading, and none without a heading. -/
theorem get?_write
    (word : ∀ character ∈ language, Marker.isLanguageCharacter character = true)
    {get : Option Text}
    (gets : ∀ text ∈ get, IsCode text ∧ text ≠ [])
    (number : Nat)
    {rest : List Line}
    (ungotten : ∀ line ∈ rest, line.kind ≠ .getHeading) :
    get? (scanFrom number none (linesOf (writeGet language get)) ++ rest) =
      get.map Html.decode := by
  cases get with
  | none =>
    have absent : Line.after? .getHeading rest = none := Line.after?_eq_none ungotten
    simp [writeGet, get?, absent]
  | some text =>
    rcases gets text rfl with ⟨code, nonempty⟩
    have found := FencedBlock.first?_write word code (number + 1) rest
    have decoded := Html.decode_ne_nil nonempty
    rw [linesOf_writeGet code nonempty, hasKind_get.scanFrom_cons, List.cons_append, get?]
    simp [found, ExecutorBlock.nonEmpty?, decoded]

/-- The commands below a description make its dependency. -/
theorem dependency?_write
    (word : ∀ character ∈ language, Marker.isLanguageCharacter character = true)
    (printable : dependency.IsPrintable)
    (number : Nat)
    {rest : List Line}
    (ungotten : ∀ line ∈ rest, line.kind ≠ .getHeading) :
    dependency? dependency.description
        (scanFrom number none (commandLines language dependency) ++ rest) =
      some dependency.reread := by
  have closed := (FencedBlock.isBlock_write [] word printable.check).closed
  rw [commandLines, hasKind_check.scanFrom_cons, scanFrom_append closed, List.cons_append,
    dependency?, Line.after?_cons]
  simp only [List.append_assoc, FencedBlock.first?_write word printable.check,
    get?_write word printable.get _ ungotten, printable.decoded]
  rfl

/-! ## All dependencies -/

/-- Lines that describe no dependency are passed over. -/
theorem readFrom_append
    {front : List Line}
    (silent : ∀ line ∈ front, line.kind.dependency? = none)
    (back : List Line) :
    readFrom (front ++ back) = readFrom back := by
  induction front with
  | nil => rfl
  | cons line rest hypothesis =>
    rw [List.cons_append, readFrom, silent line (List.mem_cons_self ..)]
    exact hypothesis fun other member => silent other (List.mem_cons_of_mem _ member)

theorem readFrom_of_silent
    {lines : List Line}
    (silent : ∀ line ∈ lines, line.kind.dependency? = none) :
    readFrom lines = [] := by
  have passed := readFrom_append silent []
  rwa [List.append_nil] at passed

theorem isBlock_flatMap
    (parts : List Part)
    (word : ∀ character ∈ language, Marker.isLanguageCharacter character = true)
    {dependencies : List Dependency}
    (printable : ∀ dependency ∈ dependencies, dependency.IsPrintable) :
    IsBlock parts (linesOf (dependencies.flatMap (writeOne language))) := by
  induction dependencies with
  | nil => exact IsBlock.nil
  | cons dependency rest hypothesis =>
    have own := printable dependency (List.mem_cons_self ..)
    have others := hypothesis fun other member => printable other (List.mem_cons_of_mem _ member)
    rw [List.flatMap_cons, Text.linesOf_append, linesOf_writeOne own]
    refine IsBlock.append ?_ others
    refine (isBlock_commandLines _ word own).cons (hasKind_dependency own.description)
      (by simp [LineKind.part?]) rfl ?_
    exact Text.getLast?_append_ne (by decide) own.description.trimmed.unreturned

/-- Written lines that make one dependency if no get heading follows them. -/
structure Makes (texts : List Text) (dependency : Dependency) : Prop where
  closed : FencesClosed texts
  /-- A description comes first, no other one stands below it, and the lines are read from it. -/
  reads : ∀ number, ∃ line below description,
    scanFrom number none texts = line :: below ∧ line.kind = .dependency description ∧
      (∀ other ∈ below, other.kind.dependency? = none) ∧
      ∀ rest, (∀ other ∈ rest, other.kind ≠ .getHeading) →
        dependency? description (below ++ rest) = some dependency

/-- Dependencies are made one after the other. -/
theorem readFrom_of_makes
    {dependencies : List Dependency}
    {texts : Dependency → List Text}
    {made : Dependency → Dependency}
    (makes : ∀ dependency ∈ dependencies, Makes (texts dependency) (made dependency))
    (number : Nat)
    {rest : List Line}
    (prose : ∀ line ∈ rest, line.kind = .prose) :
    readFrom (scanFrom number none (dependencies.flatMap texts) ++ rest) =
      dependencies.map made := by
  induction dependencies generalizing number with
  | nil =>
    have silent : ∀ line ∈ rest, line.kind.dependency? = none := by
      intro line member
      rw [prose line member]
      rfl
    simpa using readFrom_of_silent silent
  | cons dependency others hypothesis =>
    rcases List.forall_mem_cons.mp makes with ⟨own, later⟩
    have tail := fun start => hypothesis later start
    rcases own.reads number with ⟨line, below, description, scanned, kind, silent, reads⟩
    rw [List.flatMap_cons, scanFrom_append own.closed, scanned, List.cons_append,
      List.cons_append, List.append_assoc, readFrom, kind]
    generalize number + (texts dependency).length = following
    -- The next dependency ends this one; after the last one there is only prose.
    have ends : ∀ line ∈ extent (scanFrom following none (others.flatMap texts) ++ rest),
        line.kind ≠ .getHeading := by
      intro line member
      cases others with
      | nil =>
        have inRest : line ∈ rest := by
          have taken : line ∈ extent rest := by simpa using member
          exact List.takeWhile_subset _ taken
        simp [prose line inRest]
      | cons next more =>
        have known := later next (List.mem_cons_self ..)
        rcases known.reads following with ⟨first, under, other, scannedNext, describes, -, -⟩
        rw [List.flatMap_cons, scanFrom_append known.closed, scannedNext, List.cons_append,
          List.cons_append, extent, List.takeWhile_cons_of_neg (by simp [describes,
            LineKind.dependency?])] at member
        cases member
    have reach : extent (below ++ (scanFrom following none (others.flatMap texts) ++ rest)) =
        below ++ extent (scanFrom following none (others.flatMap texts) ++ rest) := by
      refine List.takeWhile_append_of_pos fun line member => ?_
      rw [silent line member]
      rfl
    simp only [LineKind.dependency?, reach, reads _ ends]
    rw [readFrom_append silent, tail following]
    rfl

/-- The lines of a printable dependency make it, its commands decoded. -/
theorem makes_writeOne
    (word : ∀ character ∈ language, Marker.isLanguageCharacter character = true)
    (printable : dependency.IsPrintable) :
    Makes (linesOf (writeOne language dependency)) dependency.reread := by
  have described := hasKind_dependency printable.description
  rw [linesOf_writeOne printable]
  refine ⟨((isBlock_commandLines [] word printable).cons described (by simp [LineKind.part?]) rfl
    (Text.getLast?_append_ne (by decide) printable.description.trimmed.unreturned)).closed, ?_⟩
  intro number
  refine ⟨_, _, _, described.scanFrom_cons number _, rfl, ?_, ?_⟩
  · exact fun other => dependency?_of_mem_commandLines word printable
  · exact fun rest => dependency?_write word printable (number + 1)

/-- Written dependencies are read back in order, their commands decoded. -/
theorem readFrom_write
    (word : ∀ character ∈ language, Marker.isLanguageCharacter character = true)
    {dependencies : List Dependency}
    (printable : ∀ dependency ∈ dependencies, dependency.IsPrintable)
    (number : Nat)
    {rest : List Line}
    (prose : ∀ line ∈ rest, line.kind = .prose) :
    readFrom (scanFrom number none (linesOf (dependencies.flatMap (writeOne language))) ++ rest) =
      dependencies.map Dependency.reread := by
  rw [Text.linesOf_flatMap]
  have makes := fun dependency member => makes_writeOne word (printable dependency member)
  exact readFrom_of_makes makes number prose

/-! ## The dependencies of a test -/

/-- The interpreter in the heading can be printed. -/
theorem isInterpreter_dependencyInterpreter
    {test : AtomicTest}
    (printable : test.IsPrintable) :
    IsInterpreter test.dependencyInterpreter := by
  rw [AtomicTest.dependencyInterpreter]
  cases own : test.dependencyExecutor with
  | some name => exact (printable.dependencyExecutor name own).1
  | none =>
    have executor := printable.executor
    unfold Executor.IsPrintable at executor
    rw [Option.getD_none, Executor.name]
    cases kind : test.executor.kind with
    | manual => exact ⟨List.cons_ne_nil _ _, List.all_eq_true.mp (by decide)⟩
    | command name cleanup =>
      rw [kind] at executor
      exact executor.1.1

theorem newline_not_mem_heading
    {name : Text}
    (line : IsLine name) :
    '\n' ∉ "#### Dependencies:  Run with `".toList ++ name ++ "`!".toList := by
  simp only [List.mem_append, not_or]
  exact ⟨⟨by decide, line.single⟩, by decide⟩

theorem unreturned_heading
    {name : Text}
    (line : IsLine name) :
    ("#### Dependencies:  Run with `".toList ++ name ++ "`!".toList).getLast? ≠ some '\r' :=
  Text.getLast?_append_ne
    (Text.getLast?_append_ne (by decide) line.trimmed.unreturned) (by decide)

theorem linesOf_writeDependencies
    {test : AtomicTest}
    (printable : test.IsPrintable)
    (nonempty : test.dependencies ≠ []) :
    linesOf (writeDependencies test) =
      ("#### Dependencies:  Run with `".toList ++ test.dependencyInterpreter ++ "`!".toList) ::
        (linesOf (test.dependencies.flatMap
          (writeOne (ExecutorBlock.language test.dependencyInterpreter))) ++ [[]]) := by
  have interpreter := isInterpreter_dependencyInterpreter printable
  rw [writeDependencies, if_neg (by simpa using nonempty), write, List.cons_append,
    Text.linesOf_cons_of_single (newline_not_mem_heading interpreter.isLine), Text.linesOf_append]
  rfl

theorem isBlock_writeDependencies
    {test : AtomicTest}
    (printable : test.IsPrintable) :
    IsBlock [.dependencies] (linesOf (writeDependencies test)) := by
  by_cases empty : test.dependencies = []
  · rw [writeDependencies, if_pos (by simp [empty])]
    exact IsBlock.nil
  · have interpreter := isInterpreter_dependencyInterpreter printable
    rw [linesOf_writeDependencies printable empty]
    refine IsBlock.cons (hasKind_dependencies interpreter.isQuotable) (by simp [LineKind.part?]) rfl
      (unreturned_heading interpreter.isLine) ?_
    exact (isBlock_flatMap _ (language_word interpreter) printable.dependencies).append
      (IsBlock.nil.cons_prose hasKind_nil (by simp))

/-- The interpreter and the dependencies of a test are read back. -/
theorem read_write
    {test : AtomicTest}
    (printable : test.IsPrintable)
    (number : Nat)
    {rest : List Line}
    (prose : ∀ line ∈ rest, line.kind = .prose) :
    read test.executor.name (scanFrom number none (linesOf (writeDependencies test)) ++ rest) =
      (test.dependencyExecutor, test.dependencies.map Dependency.reread) := by
  by_cases empty : test.dependencies = []
  · have silent : ∀ line ∈ rest, heading? line.kind = none := by
      intro line member
      rw [prose line member]
      rfl
    have inherited : test.dependencyExecutor = none := by
      cases own : test.dependencyExecutor with
      | none => rfl
      | some name => exact absurd empty (printable.dependencyExecutor name own).2.2
    rw [writeDependencies, if_pos (by simp [empty]), Text.linesOf_nil, scanFrom_nil,
      List.nil_append, read, Line.afterFirst?_eq_none silent, inherited, empty]
    rfl
  · have interpreter := isInterpreter_dependencyInterpreter printable
    have word := language_word interpreter
    have closed := (isBlock_flatMap [] word printable.dependencies).closed
    have tail : ∀ start, ∀ line ∈ scanFrom start none [[]] ++ rest, line.kind = .prose := by
      intro start line member
      rw [hasKind_nil.scanFrom_cons, scanFrom_nil] at member
      rcases List.mem_append.mp member with blank | after
      · rw [List.mem_singleton.mp blank]
      · exact prose line after
    have named : (if test.dependencyInterpreter = test.executor.name then none
        else some test.dependencyInterpreter) = test.dependencyExecutor := by
      cases own : test.dependencyExecutor with
      | none => simp [AtomicTest.dependencyInterpreter, own]
      | some name =>
        have different := (printable.dependencyExecutor name own).2.1
        simp [AtomicTest.dependencyInterpreter, own, different]
    rw [linesOf_writeDependencies printable empty,
      (hasKind_dependencies interpreter.isQuotable).scanFrom_cons, scanFrom_append closed,
      List.cons_append, read]
    simp only [Line.afterFirst?, heading?, interpreter.isLine.trimmed.trim_eq, named]
    rw [List.append_assoc, readFrom_write word printable.dependencies _ (tail _)]

end TechniquePages.Page.DependencyBlock
