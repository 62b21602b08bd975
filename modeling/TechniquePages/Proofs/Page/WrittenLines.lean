import TechniquePages.Proofs.Page.Marking
import TechniquePages.Proofs.Page.Printable

/-!
# Lines that a writer marks

Every line that a writer puts outside fenced blocks has one kind, whatever text
stands in it.  Most kinds follow from the first characters by computation.  The
others have text before the end of their mark: titles, test headings, headings
with an interpreter, and guids.
-/

namespace TechniquePages.Page

open Unicode (isBlank isDecimalDigit)
open Text (IsTrimmed IsLine)

/-- Outside fenced blocks the text is a line of this kind. -/
structure HasKind (text : Text) (kind : LineKind) : Prop where
  unfenced : Marker.fenceLanguage? text = none
  classified : classify text = kind

theorem HasKind.scanFrom_cons
    {text : Text}
    {kind : LineKind}
    (known : HasKind text kind)
    (number : Nat)
    (rest : List Text) :
    scanFrom number none (text :: rest) =
      ⟨number, text, kind⟩ :: scanFrom (number + 1) none rest := by
  rw [scanFrom_line _ _ known.unfenced, known.classified]

/-- A line of another kind opens no test. -/
theorem HasKind.free
    {text : Text}
    {kind : LineKind}
    (known : HasKind text kind)
    (unnamed : kind.testName? = none) :
    isTestHeading text = false := by
  rw [← testName?_classify, known.classified, unnamed]
  rfl

/-! ## Lines without a text of their own -/

theorem hasKind_nil : HasKind [] .prose := ⟨rfl, rfl⟩

theorem hasKind_break : HasKind "<br/>".toList .prose := ⟨rfl, rfl⟩

theorem hasKind_inputs : HasKind "#### Inputs:".toList .inputsHeading := ⟨rfl, rfl⟩

theorem hasKind_cleanup : HasKind "#### Cleanup Commands:".toList .cleanupHeading := ⟨rfl, rfl⟩

theorem hasKind_check : HasKind "##### Check Prereq Commands:".toList .checkHeading := ⟨rfl, rfl⟩

theorem hasKind_get : HasKind "##### Get Prereq Commands:".toList .getHeading := ⟨rfl, rfl⟩

theorem hasKind_index : HasKind "## Atomic Tests".toList (.heading 2) := ⟨rfl, rfl⟩

theorem hasKind_manual (elevated : Bool) :
    HasKind ("#### Run it with these steps!".toList ++ ExecutorBlock.elevationMark elevated)
      (.manualHeading elevated) := by
  cases elevated <;> exact ⟨rfl, rfl⟩

/-! ## Lines with a text behind their mark -/

theorem hasKind_row (rest : Text) : HasKind ('|' :: rest) .prose := ⟨rfl, rfl⟩

theorem hasKind_entry (rest : Text) : HasKind ("- [".toList ++ rest) .prose := ⟨rfl, rfl⟩

theorem hasKind_descriptionHeading (rest : Text) :
    HasKind
      ("## [Description from ATT&CK](https://attack.mitre.org/techniques/".toList ++ rest)
      .descriptionHeading := ⟨rfl, rfl⟩

theorem hasKind_platforms (names : Text) :
    HasKind ("**Supported Platforms:** ".toList ++ names) (.platforms (Text.trim names)) :=
  ⟨rfl, rfl⟩

/-- A text behind the mark of a dependency describes it, trimmed, if it does not start blank. -/
theorem hasKind_dependency_of_solid
    {text : Text}
    (solid : ∀ character ∈ text.head?, isBlank character = false) :
    HasKind ("##### Description: ".toList ++ text) (.dependency text.trim) := by
  have start : text.dropWhile (fun character => character == ' ' || character == '\t') = text ∧
      Text.trimStart text = text := by
    cases text with
    | nil => exact ⟨rfl, rfl⟩
    | cons first rest =>
      have unblank := solid first (by simp)
      have notBlank : (first == ' ' || first == '\t') = false := by
        rw [Bool.or_eq_false_iff, beq_eq_false_iff_ne, beq_eq_false_iff_ne]
        constructor
        · rintro rfl
          exact absurd unblank (by decide)
        · rintro rfl
          exact absurd unblank (by decide)
      exact ⟨by simp [notBlank], Text.trimStart_cons_of_not_blank rest unblank⟩
  have kind : classify ("##### Description: ".toList ++ text) =
      .dependency (Text.trimEnd (text.dropWhile fun character =>
        character == ' ' || character == '\t')) := rfl
  rw [start.1] at kind
  refine ⟨rfl, ?_⟩
  rw [kind, Text.trim, start.2]

theorem hasKind_dependency
    {description : Text}
    (line : IsLine description) :
    HasKind ("##### Description: ".toList ++ description) (.dependency description) := by
  have known := hasKind_dependency_of_solid ((Text.isTrimmed_iff _).mp line.trimmed).1
  rwa [line.trimmed.trim_eq] at known

/-! ## Titles -/

theorem digits?_append
    {length : Nat}
    {digits : Text}
    (number : IsNumber length digits)
    (rest : Text) :
    Marker.digits? length (digits ++ rest) = some (digits, rest) := by
  rcases number with ⟨rfl, decimal⟩
  induction digits with
  | nil => rfl
  | cons digit others hypothesis =>
    have tail := hypothesis fun character member =>
      decimal character (List.mem_cons_of_mem _ member)
    rw [List.length_cons, List.cons_append, Marker.digits?, tail,
      decimal digit (List.mem_cons_self ..)]
    rfl

theorem identifier?_append
    {identifier : Text}
    (known : IsIdentifier identifier)
    {rest : Text}
    (ends : rest.head? ≠ some '.') :
    Marker.identifier? (identifier ++ rest) = some (identifier, rest) := by
  cases known with
  | @plain main number =>
    have digits : Marker.techniqueDigits? (main ++ rest) = some (main, rest) := by
      rw [Marker.techniqueDigits?, digits?_append number]
      cases rest with
      | nil => rfl
      | cons first more =>
        have different : first ≠ '.' := by simpa using ends
        simp only [Option.bind_eq_bind, Option.bind_some]
        split
        · rename_i same
          exact absurd (List.cons.inj same).1 different
        · rfl
    simp [Marker.identifier?, digits]
  | @divided main part number more =>
    have digits : Marker.techniqueDigits? ((main ++ '.' :: part) ++ rest) =
        some (main ++ '.' :: part, rest) := by
      rw [Marker.techniqueDigits?, List.append_assoc, digits?_append number, List.cons_append]
      simp [digits?_append more]
    rw [List.cons_append, Marker.identifier?, digits]
    rfl

theorem hasKind_title
    {identifier name : Text}
    (known : IsIdentifier identifier)
    (line : IsLine name)
    (named : name ≠ []) :
    HasKind ("# ".toList ++ identifier ++ " - ".toList ++ name) (.title identifier name) := by
  have unblank : Text.trimStart (identifier ++ (' ' :: '-' :: ' ' :: name)) =
      identifier ++ (' ' :: '-' :: ' ' :: name) := by
    cases known <;> rfl
  have heading : Marker.headingText? 1 ("# ".toList ++ identifier ++ " - ".toList ++ name) =
      some (identifier ++ (' ' :: '-' :: ' ' :: name)) := by
    have shape : "# ".toList ++ identifier ++ " - ".toList ++ name =
        '#' :: ' ' :: (identifier ++ (' ' :: '-' :: ' ' :: name)) := by
      simp
    rw [shape]
    exact congrArg some unblank
  have blank : isBlank ' ' = true := by decide
  have number := @identifier?_append _ known (' ' :: '-' :: ' ' :: name) (by simp)
  have afterDash : Text.trimStart (' ' :: '-' :: ' ' :: name) = '-' :: ' ' :: name := rfl
  have trimmed : Text.trim (' ' :: name) = name :=
    (Text.trim_cons_of_blank name blank).trans line.trimmed
  have title : Marker.title? ("# ".toList ++ identifier ++ " - ".toList ++ name) =
      some (.title identifier name) := by
    rw [Marker.title?, heading]
    simp [number, afterDash, Text.after?, trimmed, named]
  refine ⟨?_, ?_⟩
  · simp [Marker.fenceLanguage?, Text.after?, Marker.fence]
  · exact @classify_eq_of_form [] _ _ _ _ rfl (by simp) title

/-! ## Test headings -/

theorem exists_digits_ofNat
    (number : Nat)
    {rest : Text}
    (ends : ∀ character ∈ rest.head?, isDecimalDigit character = false) :
    ∃ first others, Text.ofNat number = first :: others ∧
      isDecimalDigit first = true ∧
        (others ++ rest).dropWhile isDecimalDigit = rest := by
  have decimal : ∀ character ∈ Text.ofNat number, isDecimalDigit character = true := by
    intro character member
    have digit : character.isDigit = true :=
      Nat.isDigit_of_mem_toDigits (by decide) (by decide) member
    exact isDecimalDigit_of_isDigit digit
  cases digits : Text.ofNat number with
  | nil => exact absurd digits (Nat.toDigits_ne_nil)
  | cons first others =>
    rw [digits] at decimal
    refine ⟨first, others, rfl, decimal first (List.mem_cons_self ..), ?_⟩
    rw [List.dropWhile_append_of_pos fun character member =>
      decimal character (List.mem_cons_of_mem _ member)]
    cases rest with
    | nil => rfl
    | cons next more => simp [ends next (by simp)]

theorem testTitle_eq
    (number : Nat)
    (name : Text) :
    testTitle number name =
      "Atomic Test #".toList ++ (Text.ofNat number ++ " - ".toList ++ name) := by
  unfold testTitle
  simp only [List.append_assoc]

/-- The heading of a test is one exactly when the test has a name. -/
theorem testHeading?_testTitle
    (number : Nat)
    {name : Text}
    (line : IsLine name) :
    Marker.testHeading? ("## ".toList ++ testTitle number name) =
      if name = [] then none else some (.testHeading name) := by
  rcases @exists_digits_ofNat number (' ' :: '-' :: ' ' :: name) (by
    simp only [List.head?_cons, Option.mem_some_iff, forall_eq']
    decide) with ⟨first, others, digits, decimal, dropped⟩
  have mark : ∀ rest, Marker.afterHeading? 2 "Atomic Test" ("## Atomic Test".toList ++ rest) =
      some rest := fun _ => rfl
  have shape : "## ".toList ++ testTitle number name = "## Atomic Test".toList ++
      (' ' :: '#' :: first :: (others ++ ' ' :: '-' :: ' ' :: name)) := by
    rw [testTitle_eq, digits]
    simp
  rw [shape, Marker.testHeading?, mark]
  have blank : isBlank ' ' = true := by decide
  have hash : Marker.afterBlanks? (' ' :: '#' :: first :: (others ++ ' ' :: '-' :: ' ' :: name)) =
      some ('#' :: first :: (others ++ ' ' :: '-' :: ' ' :: name)) := rfl
  have dash : Marker.afterBlanks? (' ' :: '-' :: ' ' :: name) = some ('-' :: ' ' :: name) := rfl
  simp only [Option.bind_eq_bind, Option.bind_some, hash, Text.after?, Marker.digits?, decimal,
    dropped, dash, blank, if_true, Option.map_some, Bool.true_and, line.trimmed.trim_eq]
  by_cases empty : name = [] <;> simp [empty]

theorem isTestHeading_testTitle_iff
    (number : Nat)
    {name : Text}
    (line : IsLine name) :
    isTestHeading ("## ".toList ++ testTitle number name) = true ↔ name ≠ [] := by
  rw [isTestHeading, testHeading?_testTitle number line]
  by_cases empty : name = [] <;> simp [empty]

theorem isTestHeading_testTitle
    (number : Nat)
    {name : Text}
    (line : IsLine name)
    (named : name ≠ []) :
    isTestHeading ("## ".toList ++ testTitle number name) = true :=
  (isTestHeading_testTitle_iff number line).mpr named

theorem hasKind_testTitle
    (number : Nat)
    {name : Text}
    (line : IsLine name)
    (named : name ≠ []) :
    HasKind ("## ".toList ++ testTitle number name) (.testHeading name) := by
  have untitled : Marker.title? ("## ".toList ++ testTitle number name) = none := by
    simp [Marker.title?, Marker.headingText?, Text.after?, Marker.afterBlanks?,
      show isBlank '#' = false by decide]
  refine ⟨fenceLanguage?_of_isTestHeading (isTestHeading_testTitle number line named), ?_⟩
  exact @classify_eq_of_form [Marker.title?] _ _ _ _ rfl (by simpa using untitled)
    ((testHeading?_testTitle number line).trans (if_neg named))

/-! ## Headings with an interpreter -/

/-- A word has no blanks and stands on one line. -/
theorem isLine_of_word
    {word : Text}
    (spelled : ∀ character ∈ word, Marker.isLanguageCharacter character = true) :
    IsLine word := by
  have solid : ∀ character ∈ word, isBlank character = false := by
    intro character member
    have visible := Marker.visible_of_isLanguageCharacter (spelled character member)
    exact isBlank_eq_false_of_visible visible.1 visible.2
  refine ⟨(Text.isTrimmed_iff word).mpr ⟨?_, ?_⟩, ?_⟩
  · exact fun character first => solid character (List.mem_of_head? first)
  · exact fun character last => solid character (List.mem_of_getLast? last)
  · intro member
    exact absurd (solid _ member) (by decide)

theorem IsInterpreter.isLine
    {name : Text}
    (interpreter : IsInterpreter name) :
    IsLine name :=
  isLine_of_word interpreter.word

/-- A name that can stand between quote marks. -/
structure IsQuotable (name : Text) : Prop where
  line : IsLine name
  nonempty : name ≠ []
  unquoted : Marker.quoteMark ∉ name

theorem IsInterpreter.isQuotable
    {name : Text}
    (interpreter : IsInterpreter name) :
    IsQuotable name :=
  ⟨interpreter.isLine, interpreter.nonempty, fun member =>
    absurd (interpreter.word _ member) (by decide)⟩

/-- A name between quote marks is read back with what follows it. -/
theorem runWith?_append
    {name : Text}
    (quotable : IsQuotable name)
    (rest : Text) :
    Marker.runWith? (" Run with `".toList ++ name ++ "`!".toList ++ rest) = some (name, rest) := by
  have unquoted : ∀ character ∈ name, (character != Marker.quoteMark) = true := by
    intro character member
    rw [bne_iff_ne]
    rintro rfl
    exact quotable.unquoted member
  have quoted : Marker.quotedName? (Marker.quoteMark :: (name ++ Marker.quoteMark :: '!' :: rest)) =
      some (name, '!' :: rest) := by
    have inside : (name ++ Marker.quoteMark :: '!' :: rest).takeWhile (· != Marker.quoteMark) =
        name := by
      rw [List.takeWhile_append_of_pos unquoted]
      simp
    have outside : (name ++ Marker.quoteMark :: '!' :: rest).dropWhile (· != Marker.quoteMark) =
        Marker.quoteMark :: '!' :: rest := by
      rw [List.dropWhile_append_of_pos unquoted]
      simp
    simp [Marker.quotedName?, inside, outside, quotable.nonempty]
  have shape : " Run with `".toList ++ name ++ "`!".toList ++ rest =
      " Run with `".toList ++ (name ++ "`!".toList ++ rest) := by
    simp
  have mark : Marker.afterBlanks? (" Run with `".toList ++ (name ++ "`!".toList ++ rest)) =
      some ("Run with `".toList ++ (name ++ "`!".toList ++ rest)) := rfl
  have words : Text.after? "Run with".toList
        ("Run with `".toList ++ (name ++ "`!".toList ++ rest)) =
      some (' ' :: Marker.quoteMark :: (name ++ "`!".toList ++ rest)) := rfl
  have blank : Marker.afterBlanks? (' ' :: Marker.quoteMark :: (name ++ "`!".toList ++ rest)) =
      some (Marker.quoteMark :: (name ++ Marker.quoteMark :: '!' :: rest)) := by
    rw [List.append_assoc]
    rfl
  rw [shape, Marker.runWith?, mark]
  simp only [Option.bind_eq_bind, Option.bind_some, words, blank, quoted]
  simp [Text.after?, quotable.line.trimmed.trim_eq]

theorem hasKind_command
    {name : Text}
    (quotable : IsQuotable name)
    (elevated : Bool) :
    HasKind
      ("#### Attack Commands: Run with `".toList ++ name ++ "`!".toList ++
        ExecutorBlock.elevationMark elevated)
      (.commandHeading name elevated) := by
  have shape : "#### Attack Commands: Run with `".toList ++ name ++ "`!".toList ++
        ExecutorBlock.elevationMark elevated =
      "#### Attack Commands:".toList ++ (" Run with `".toList ++ name ++ "`!".toList ++
        ExecutorBlock.elevationMark elevated) := by
    have mark : "#### Attack Commands: Run with `".toList =
        "#### Attack Commands:".toList ++ " Run with `".toList := rfl
    rw [mark]
    simp only [List.append_assoc]
  have mark : ∀ rest, Marker.afterHeading? 4 "Attack Commands:"
      ("#### Attack Commands:".toList ++ rest) = some rest := fun _ => rfl
  have known : Marker.commandHeading? ("#### Attack Commands:".toList ++
        (" Run with `".toList ++ name ++ "`!".toList ++ ExecutorBlock.elevationMark elevated)) =
      some (.commandHeading name elevated) := by
    have marked : Marker.elevation? (ExecutorBlock.elevationMark elevated) = some elevated := by
      cases elevated <;> rfl
    rw [Marker.commandHeading?, mark]
    simp only [Option.bind_eq_bind, Option.bind_some, runWith?_append quotable, marked]
  rw [shape]
  refine ⟨rfl, ?_⟩
  refine @classify_eq_of_form [Marker.title?, Marker.testHeading?, Marker.descriptionHeading?,
    Marker.platforms?, Marker.guid?, Marker.inputsHeading?, Marker.manualHeading?] _ _ _ _ rfl ?_
    known
  intro earlier member
  simp only [List.mem_cons, List.not_mem_nil, or_false] at member
  rcases member with rfl | rfl | rfl | rfl | rfl | rfl | rfl <;> rfl

theorem hasKind_dependencies
    {name : Text}
    (quotable : IsQuotable name) :
    HasKind ("#### Dependencies:  Run with `".toList ++ name ++ "`!".toList)
      (.dependenciesHeading name) := by
  have shape : "#### Dependencies:  Run with `".toList ++ name ++ "`!".toList =
      "#### Dependencies: ".toList ++ (" Run with `".toList ++ name ++ "`!".toList ++ []) := by
    have mark : "#### Dependencies:  Run with `".toList =
        "#### Dependencies: ".toList ++ " Run with `".toList := rfl
    rw [mark]
    simp only [List.append_assoc, List.append_nil]
  have mark : ∀ rest, Marker.afterHeading? 4 "Dependencies:"
      ("#### Dependencies: ".toList ++ rest) = some (' ' :: rest) := fun _ => rfl
  have spaced : Marker.runWith? (' ' :: (" Run with `".toList ++ name ++ "`!".toList ++ [])) =
      some (name, []) := runWith?_append quotable []
  have known : Marker.dependenciesHeading? ("#### Dependencies: ".toList ++
        (" Run with `".toList ++ name ++ "`!".toList ++ [])) =
      some (.dependenciesHeading name) := by
    rw [Marker.dependenciesHeading?, mark]
    simp only [Option.bind_eq_bind, Option.bind_some, spaced]
  rw [shape]
  refine ⟨rfl, ?_⟩
  refine @classify_eq_of_form [Marker.title?, Marker.testHeading?, Marker.descriptionHeading?,
    Marker.platforms?, Marker.guid?, Marker.inputsHeading?, Marker.manualHeading?,
    Marker.commandHeading?, Marker.cleanupHeading?] _ _ _ _ rfl ?_ known
  intro earlier member
  simp only [List.mem_cons, List.not_mem_nil, or_false] at member
  rcases member with rfl | rfl | rfl | rfl | rfl | rfl | rfl | rfl | rfl <;> rfl

/-- The language of a fence is read up to the end of the line. -/
theorem fenceLanguage?_append
    {language : Text}
    (word : ∀ character ∈ language, Marker.isLanguageCharacter character = true) :
    Marker.fenceLanguage? ("```".toList ++ language) = some language := by
  have inside : language.takeWhile Marker.isLanguageCharacter = language := by
    simpa using word
  have outside : language.dropWhile Marker.isLanguageCharacter = [] := by
    simpa using word
  have mark : Text.after? Marker.fence ("```".toList ++ language) = some language := rfl
  have ended : Marker.isEmptyTail [] = true := rfl
  rw [Marker.fenceLanguage?, mark]
  simp only [Option.bind_eq_bind, Option.bind_some, inside, outside, ended, if_true]

/-! ## Guids -/

theorem visible_of_isHexDigit
    {character : Char}
    (digit : Marker.isHexDigit character = true) :
    0x20 < character.toNat ∧ character.toNat < 0x80 := by
  simp only [Marker.isHexDigit, Text.hexValue?] at digit
  split at digit
  · rename_i decimal
    simp only [Char.isDigit, Bool.and_eq_true, decide_eq_true_eq, UInt32.le_iff_toNat_le,
      ge_iff_le, Char.toNat_val, Char.reduceToNat] at decimal
    omega
  · split at digit
    · rename_i lower
      simp only [Bool.and_eq_true, decide_eq_true_eq, Char.le_def, UInt32.le_iff_toNat_le,
        Char.toNat_val, Char.reduceToNat] at lower
      omega
    · split at digit
      · rename_i upper
        simp only [Bool.and_eq_true, decide_eq_true_eq, Char.le_def, UInt32.le_iff_toNat_le,
          Char.toNat_val, Char.reduceToNat] at upper
        omega
      · simp at digit

/-- Groups of digits with hyphens between them are read as they stand. -/
theorem hexGroups?_joinWith
    {groups : List Text}
    (nonempty : groups ≠ [])
    (digits : ∀ group ∈ groups, ∀ character ∈ group, Marker.isHexDigit character = true) :
    Marker.hexGroups? (groups.map List.length) (Text.joinWith ['-'] groups) =
      some (Text.joinWith ['-'] groups, []) := by
  induction groups with
  | nil => exact absurd rfl nonempty
  | cons group rest hypothesis =>
    have own := digits group (List.mem_cons_self ..)
    cases rest with
    | nil =>
      simpa [Marker.hexGroups?] using own
    | cons next more =>
      have tail := hypothesis (by simp) fun other member =>
        digits other (List.mem_cons_of_mem _ member)
      rw [Text.joinWith_cons_of_ne_nil _ _ (by simp), List.append_assoc, List.singleton_append]
      simp only [List.map_cons] at tail ⊢
      rw [Marker.hexGroups?]
      simpa [tail] using own

theorem hasKind_guid
    {guid : Text}
    (known : IsGuid guid) :
    HasKind ("**auto_generated_guid:** ".toList ++ guid) (.guid guid) := by
  rcases known with ⟨groups, lengths, digits, rfl⟩
  have nonempty : groups ≠ [] := by
    rintro rfl
    simp at lengths
  have read := hexGroups?_joinWith nonempty digits
  rw [lengths] at read
  have solid : Text.trimStart (' ' :: Text.joinWith ['-'] groups) = Text.joinWith ['-'] groups := by
    cases groups with
    | nil => exact absurd rfl nonempty
    | cons group rest =>
      cases group with
      | nil => simp at lengths
      | cons first others =>
        have hexadecimal := digits _ (List.mem_cons_self ..) first (List.mem_cons_self ..)
        have visible := visible_of_isHexDigit hexadecimal
        have shown : isBlank first = false := isBlank_eq_false_of_visible visible.1 visible.2
        have joined : ∃ tail, Text.joinWith ['-'] ((first :: others) :: rest) = first :: tail := by
          cases rest with
          | nil => exact ⟨others, rfl⟩
          | cons next more => exact ⟨_, rfl⟩
        rcases joined with ⟨tail, shape⟩
        rw [shape, Text.trimStart_cons_of_blank _ (by decide),
          Text.trimStart_cons_of_not_blank _ shown]
  have guid : Marker.guid? ("**auto_generated_guid:** ".toList ++ Text.joinWith ['-'] groups) =
      some (.guid (Text.joinWith ['-'] groups)) := by
    have mark : Text.after? "**auto_generated_guid:**".toList
        ("**auto_generated_guid:** ".toList ++ Text.joinWith ['-'] groups) =
        some (' ' :: Text.joinWith ['-'] groups) := rfl
    rw [Marker.guid?, mark]
    simp only [Option.bind_eq_bind, Option.bind_some, solid, read]
    rfl
  refine ⟨rfl, ?_⟩
  refine @classify_eq_of_form [Marker.title?, Marker.testHeading?, Marker.descriptionHeading?,
    Marker.platforms?] _ _ _ _ rfl ?_ guid
  intro earlier member
  simp only [List.mem_cons, List.not_mem_nil, or_false] at member
  rcases member with rfl | rfl | rfl | rfl <;> rfl

end TechniquePages.Page
