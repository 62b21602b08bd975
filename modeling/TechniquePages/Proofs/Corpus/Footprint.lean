import TechniquePages.Proofs.Corpus.Runs

/-!
# What a conversion leaves behind

Everything that can be wrong with a request, an input or a technique is found before
the file tree is touched.  A conversion that fails so leaves the tree as it was, and so
does one whose text is kept in memory.

A conversion that writes a file changes that file and nothing else, but for the
directories above it.  This holds of every tree and every path, also of one whose parts
lead up.  Only a conversion that fails while it writes can leave directories without
the file.
-/

namespace TechniquePages

namespace FileTree

/-- A text has been written to a file.  The file holds it, the paths above are directories,
and the rest is as before: what appears elsewhere is a directory that a path above needs. -/
structure IsWritten (path : FilePath) (text : Text) (before after : FileTree) : Prop where
  holds : after.readText path = .ok text
  above : ∀ higher, FilePath.IsAbove higher path → higher ≠ [] → after.isDirectory higher = true
  home : after.home = before.home
  entry : ∀ place, after.locate path ≠ .ok place → after.entry? place = before.entry? place ∨
    (before.entry? place = none ∧ after.entry? place = some .directory ∧
      after.IsPlaceAbove path place)

theorem isWritten_of_writeText
    {tree left after : FileTree}
    {path : FilePath}
    {text : Text}
    (grown : Grown (left.IsPlaceAbove path) (fun _ => False) tree left)
    (done : left.writeText path text = .ok after) :
    IsWritten path text tree after := by
  rcases writeText_eq_ok done with ⟨place, located, free, unasked, rfl⟩
  have last := grown_set_file free text
  have found := last.locate located
  have file := entry?_set left (ne_nil_of_entry?_ne free) place (.file text)
  rw [if_pos rfl] at file
  constructor
  case holds =>
    rw [readText, found]
    simp [file, unasked]
  case above =>
    intro higher above nonempty
    exact isDirectory_of_isAbove found above nonempty
  case home => exact last.home.trans grown.home
  case entry =>
    intro other elsewhere
    rw [found, ne_eq, Except.ok.injEq] at elsewhere
    rw [entry?_set left (ne_nil_of_entry?_ne free), if_neg (Ne.symm elsewhere)]
    rcases grown.entry other with same | ⟨absent, directory, above⟩ | ⟨-, -, here⟩
    · exact Or.inl same
    · exact Or.inr ⟨absent, directory, last.isPlaceAbove above⟩
    · exact absurd here id

end FileTree

namespace ConversionRequest

/-- The text that a conversion writes: that of the input's technique, reshaped. -/
structure IsText
    (request : ConversionRequest)
    (tree : FileTree)
    (source : Text)
    (technique : Technique)
    (written : Text) : Prop where
  format : request.sourceFormat = .ok source
  read : ∃ document original, tree.readText request.input = .ok document ∧
    request.registry.read source document = .ok original ∧
    technique = request.reshape.apply original
  write : request.registry.write (request.targetFormat source) technique = .ok written

theorem technique_eq_ok
    {request : ConversionRequest}
    {source document : Text}
    {technique : Technique}
    (made : request.technique source document = .ok technique) :
    ∃ original, request.registry.read source document = .ok original ∧
      technique = request.reshape.apply original := by
  rw [ConversionRequest.technique] at made
  cases read : request.registry.read source document with
  | error fault => simp [read] at made
  | ok original =>
    refine ⟨original, rfl, ?_⟩
    simp only [read] at made
    split at made
    · exact (Except.ok.inj made).symm
    · split at made
      · cases made
      · exact (Except.ok.inj made).symm

theorem isText_of_composed
    {request : ConversionRequest}
    {tree : FileTree}
    {source : Text}
    {technique : Technique}
    {written : Text}
    (done : request.composed tree = .ok (source, technique, written)) :
    request.IsText tree source technique written := by
  rw [composed] at done
  cases format : request.sourceFormat with
  | error fault => simp [format] at done
  | ok known =>
    simp only [format] at done
    cases read : tree.readText request.input with
    | error fault => simp [read] at done
    | ok document =>
      simp only [read, compose] at done
      cases made : request.technique known document with
      | error fault => simp [made] at done
      | ok reshaped =>
        simp only [made] at done
        cases text : request.registry.write (request.targetFormat known) reshaped with
        | error fault => simp [text] at done
        | ok own =>
          simp only [text, Except.ok.injEq, Prod.mk.injEq] at done
          rcases done with ⟨rfl, rfl, rfl⟩
          rcases technique_eq_ok made with ⟨original, parsed, same⟩
          exact ⟨format, ⟨document, original, read, parsed, same⟩, text⟩

end ConversionRequest

/-- The ways that a conversion ends, each with what it leaves. -/
inductive ConversionRun
    (request : ConversionRequest)
    (tree : FileTree) : Except ConversionFault Converted × FileTree → Prop where
  | uncomposed
      (fault : ConversionFault)
      (failed : request.composed tree = .error fault) :
      ConversionRun request tree (.error fault, tree)
  | kept
      (source : Text)
      (technique : Technique)
      (written : Text)
      (text : request.IsText tree source technique written)
      (nowhere : request.destination = .memory) :
      ConversionRun request tree (.ok ⟨technique.identifier, .text written⟩, tree)
  | unwritten
      (document : Text)
      (read : tree.readText request.input = .ok document)
      (path : FilePath)
      (reason : FileFault)
      (after : FileTree)
      (directories : FileTree.Grown (after.IsPlaceAbove path) (fun _ => False) tree after) :
      ConversionRun request tree (.error (.file path reason), after)
  | written
      (source : Text)
      (technique : Technique)
      (written : Text)
      (text : request.IsText tree source technique written)
      (path : FilePath)
      (named : request.outputPath? source technique = some path)
      (after : FileTree)
      (output : FileTree.IsWritten path written tree after) :
      ConversionRun request tree (.ok ⟨technique.identifier, .file path⟩, after)

theorem conversionRun
    (request : ConversionRequest)
    (tree : FileTree) :
    ConversionRun request tree ((convert request).run tree).result := by
  rw [result_run_convert]
  cases composed : request.composed tree with
  | error fault => exact .uncomposed fault composed
  | ok parts =>
    rcases parts with ⟨source, technique, written⟩
    have text := ConversionRequest.isText_of_composed composed
    simp only
    cases named : request.outputPath? source technique with
    | none =>
      have nowhere : request.destination = .memory := by
        rw [ConversionRequest.outputPath?] at named
        split at named
        · assumption
        · cases named
        · cases named
      rw [deliver, named]
      exact .kept source technique written text nowhere
    | some path =>
      rw [result_run_deliver tree named]
      rcases result : ((writeFile path written).run tree).result with ⟨fault | output, after⟩
      · rcases exists_of_writeFile_error result with ⟨reason, rfl, directories⟩
        rcases text.read with ⟨document, -, read, -⟩
        exact .unwritten document read path reason after directories
      · rcases exists_of_writeFile_ok result with ⟨left, grown, done, rfl⟩
        exact .written source technique written text output named after
          (FileTree.isWritten_of_writeText grown done)

/--
A conversion touches its output only.  If it fails for another reason than a file, or
because its input cannot be read, the file tree is as it was.  If it succeeds, it has made
the text of the input's technique; kept in memory, it leaves the tree as it was, and
written to a file, it leaves the file with that text, the directories above it, and
everything else as it was.
-/
theorem convert_touches_output_only
    (request : ConversionRequest)
    (tree : FileTree) :
    (∀ fault, ((convert request).run tree).value = .error fault →
      ((∀ path reason, fault ≠ .file path reason) ∨
        ∃ reason, tree.readText request.input = .error reason) →
      ((convert request).run tree).tree = tree) ∧
    ∀ converted, ((convert request).run tree).value = .ok converted →
      ∃ source technique written, request.IsText tree source technique written ∧
        converted.identifier = technique.identifier ∧
        ((request.destination = .memory ∧ converted.artifact = .text written ∧
            ((convert request).run tree).tree = tree) ∨
          ∃ path, request.outputPath? source technique = some path ∧
            converted.artifact = .file path ∧
            FileTree.IsWritten path written tree ((convert request).run tree).tree) := by
  have run := conversionRun request tree
  rw [Action.Outcome.result] at run
  generalize ((convert request).run tree).value = value at run ⊢
  generalize ((convert request).run tree).tree = after at run ⊢
  constructor
  · intro fault failed early
    subst failed
    cases run with
    | uncomposed fault failed => rfl
    | unwritten document read path reason after directories =>
      rcases early with other | ⟨reason, unread⟩
      · exact absurd rfl (other path _)
      · rw [read] at unread
        cases unread
  · intro converted done
    subst done
    cases run with
    | kept source technique written text nowhere =>
      exact ⟨source, technique, written, text, rfl, Or.inl ⟨nowhere, rfl, rfl⟩⟩
    | written source technique written text path named after output =>
      exact ⟨source, technique, written, text, rfl, Or.inr ⟨path, named, rfl, output⟩⟩

/-- The page of a technique without tests. -/
def blankTree : FileTree where
  home := ["work".toList]
  entries := [
    (["work".toList], .directory),
    (["work".toList, "T1000.md".toList], .file "# T1000 - Blank\n".toList)]

/-- Convert the page of `blankTree` to a record below directories that are missing. -/
def recordBelow : ConversionRequest :=
  { ConversionRequest.ofInput "T1000.md".toList with
    destination := .file "out/deep/T1000.json".toList }

theorem convert_touches_output_only_blankTree :
    ((convert recordBelow).run blankTree).value =
        .ok ⟨"T1000".toList, .file "out/deep/T1000.json".toList⟩ ∧
      ∃ written, FileTree.IsWritten "out/deep/T1000.json".toList written blankTree
        ((convert recordBelow).run blankTree).tree := by
  have done : ((convert recordBelow).run blankTree).value =
      .ok ⟨"T1000".toList, .file "out/deep/T1000.json".toList⟩ := by
    rfl
  refine ⟨done, ?_⟩
  rcases (convert_touches_output_only recordBelow blankTree).2 _ done with
    ⟨source, technique, written, -, -, ⟨nowhere, -⟩ | ⟨path, -, same, output⟩⟩
  · cases nowhere
  · cases same
    exact ⟨written, output⟩

end TechniquePages
