import TechniquePages.Proofs.Page.WrittenSection
import TechniquePages.Proofs.Unicode.Lower

/-!
# The front of a page

Before its first test a page has the title, the quoted description, if there is
one, and the index.  The quotation may hold fences and marks of any kind, even
unclosed ones, but no line that opens a test.  It is found by its own marks: the
heading above it and the lines of its blockquote.
-/

namespace TechniquePages.Page

open Text (IsTrimmed IsLine linesBack linesOf)

/-- The line breaks between tests, which stand before each of them. -/
def leadingLines : List AtomicTest → List Text
  | [] => []
  | _ :: _ => ["<br/>".toList, []]

theorem isFill_leadingLines (tests : List AtomicTest) : IsFill (leadingLines tests) := by
  cases tests with
  | nil => simp [leadingLines, IsFill]
  | cons test rest => simp [leadingLines, IsFill]

theorem newline_not_mem_testTitle
    (number : Nat)
    {name : Text}
    (line : IsLine name) :
    '\n' ∉ testTitle number name := by
  have digits : '\n' ∉ Text.ofNat number := by
    intro member
    have digit : ('\n').isDigit = true :=
      Nat.isDigit_of_mem_toDigits (by decide) (by decide) member
    exact absurd digit (by decide)
  rw [testTitle_eq]
  simp only [List.mem_append, not_or]
  exact ⟨by decide, ⟨digits, by decide⟩, line.single⟩

variable {technique : Technique}

/-- The title line. -/
def titleLine (technique : Technique) : Text :=
  "# ".toList ++ technique.identifier ++ " - ".toList ++ technique.name

/-- The heading above the description. -/
def descriptionLine (technique : Technique) : Text :=
  "## [Description from ATT&CK](https://attack.mitre.org/techniques/".toList ++
    (technique.identifier.map (fun character => if character = '.' then '/' else character) ++
      ")".toList)

/-- The index and the lines around it, which say nothing to a reader. -/
def indexLines (technique : Technique) : List Text :=
  [] :: "## Atomic Tests".toList ::
    match technique.tests with
    | [] => []
    | tests => [] :: (writeIndex 1 tests ++ [] :: leadingLines tests)

/-- The lines before the first test. -/
def frontLines (technique : Technique) : List Text :=
  titleLine technique :: (linesOf (writeDescription technique) ++ indexLines technique)

theorem hasKind_titleLine (printable : technique.IsPrintable) :
    HasKind (titleLine technique) (.title technique.identifier technique.name) := by
  unfold titleLine
  exact hasKind_title printable.identifier printable.name printable.named

theorem hasKind_descriptionLine (technique : Technique) :
    HasKind (descriptionLine technique) .descriptionHeading := by
  unfold descriptionLine
  exact hasKind_descriptionHeading _

theorem newline_not_mem_anchor
    {title : Text}
    (single : '\n' ∉ title) :
    '\n' ∉ anchor title := by
  intro member
  rcases List.mem_map.mp (List.mem_filter.mp member).1 with ⟨source, inLower, same⟩
  have lineFeed : source = '\n' := by
    split at same
    · exact absurd same (by decide)
    · exact same
  subst lineFeed
  rcases Unicode.mem_lower inLower with inTitle | above
  · exact single inTitle
  · exact absurd above (by decide)

/-- The index has a line for each test. -/
theorem linesOf_writeIndex
    {tests : List AtomicTest}
    (lines : ∀ test ∈ tests, IsLine test.name)
    (number : Nat) :
    linesOf (writeIndex number tests) = writeIndex number tests := by
  induction tests generalizing number with
  | nil => rfl
  | cons test rest hypothesis =>
    rcases List.forall_mem_cons.mp lines with ⟨own, others⟩
    have title := newline_not_mem_testTitle number own
    rw [writeIndex, Text.linesOf_cons_of_single, hypothesis others]
    simp only [List.mem_append, not_or]
    exact ⟨⟨⟨⟨by decide, title⟩, by decide⟩, newline_not_mem_anchor title⟩, by decide⟩

/-- An entry of the index is prose on one line. -/
theorem isBlock_writeIndex
    {parts : List Part}
    (number : Nat)
    (tests : List AtomicTest) :
    IsBlock parts (writeIndex number tests) := by
  induction tests generalizing number with
  | nil => exact IsBlock.nil
  | cons test rest hypothesis =>
    rw [writeIndex]
    refine (hypothesis (number + 1)).cons_prose ?_ ?_
    · simp only [List.append_assoc]
      exact hasKind_entry _
    · rw [List.getLast?_append]
      simp

theorem isBlock_indexLines
    (parts : List Part)
    (technique : Technique) :
    IsBlock parts (indexLines technique) := by
  unfold indexLines
  refine IsBlock.cons_prose hasKind_nil (by simp) ?_
  refine IsBlock.cons hasKind_index (by simp [LineKind.part?]) rfl (by decide) ?_
  split
  · exact IsBlock.nil
  · refine IsBlock.cons_prose hasKind_nil (by simp) ((isBlock_writeIndex 1 _).append ?_)
    exact (isFill_leadingLines _).isBlock.cons_prose hasKind_nil (by simp)

theorem newline_not_mem_identifier
    {identifier : Text}
    (known : IsIdentifier identifier) :
    '\n' ∉ identifier := by
  have ofNumber : ∀ {length : Nat} {digits : Text}, IsNumber length digits → '\n' ∉ digits := by
    intro length digits number member
    exact absurd (number.digits _ member) (by decide)
  cases known with
  | plain number => simp [ofNumber number]
  | divided number more => simp [ofNumber number, ofNumber more]

/-- The heading of the description stands on one line. -/
theorem isLine_descriptionLine (identifier : IsIdentifier technique.identifier) :
    IsLine (descriptionLine technique) := by
  have single : '\n' ∉ technique.identifier.map
      (fun character => if character = '.' then '/' else character) := by
    intro member
    rcases List.mem_map.mp member with ⟨source, inIdentifier, same⟩
    split at same
    · exact absurd same (by decide)
    · exact newline_not_mem_identifier identifier (same ▸ inIdentifier)
  unfold descriptionLine
  refine ⟨(Text.isTrimmed_iff _).mpr ⟨?_, ?_⟩, ?_⟩
  · intro character first
    have hash : '#' = character := by simpa using first
    exact hash ▸ (by decide)
  · intro character last
    rw [← List.append_assoc, List.getLast?_append] at last
    have bracket : ')' = character := by simpa using last
    exact bracket ▸ (by decide)
  · simp only [List.mem_append, not_or]
    exact ⟨by decide, single, by decide⟩

/-- A description that says something is quoted below its heading. -/
theorem writeDescription_eq
    {description : Text}
    (described : technique.description = some description)
    (nonempty : description.trim ≠ []) :
    writeDescription technique =
      [descriptionLine technique, "<blockquote>".toList, [], description.trim, [],
        "</blockquote>".toList] := by
  unfold writeDescription descriptionLine
  rw [described]
  simp only [List.append_assoc]
  exact if_neg (by simpa using nonempty)

theorem linesBack_writeDescription
    (identifier : IsIdentifier technique.identifier)
    {description : Text}
    (described : technique.description = some description)
    (nonempty : description.trim ≠ []) :
    linesBack (writeDescription technique) =
      descriptionLine technique :: "<blockquote>".toList :: [] ::
        (description.trim.lines ++ [[], "</blockquote>".toList]) := by
  have line := isLine_descriptionLine identifier
  rw [writeDescription_eq described nonempty,
    Text.linesBack_cons_of_single line.single line.trimmed.unreturned,
    Text.linesBack_cons_of_single (by decide) (by decide),
    Text.linesBack_cons_of_single (by simp) (by simp),
    Text.linesBack_cons_of_trimmed (Text.isTrimmed_trim description) nonempty,
    Text.linesBack_cons_of_single (by simp) (by simp),
    Text.linesBack_cons_of_single (by decide) (by decide), Text.linesBack_nil]

theorem linesOf_writeDescription_none
    (undescribed : technique.description = none) :
    linesOf (writeDescription technique) = [] := by
  rw [writeDescription, undescribed]
  rfl

theorem linesOf_writeDescription_some
    (printable : technique.IsPrintable)
    {description : Text}
    (described : technique.description = some description) :
    linesOf (writeDescription technique) =
      descriptionLine technique :: "<blockquote>".toList :: [] ::
        (Text.cutAt '\n' description ++ [[], "</blockquote>".toList]) := by
  have quotation := printable.description description described
  have written := writeDescription_eq described
    (by rw [quotation.trimmed.trim_eq]; exact quotation.nonempty)
  rw [quotation.trimmed.trim_eq] at written
  rw [written, Text.linesOf_cons_of_single (isLine_descriptionLine printable.identifier).single,
    Text.linesOf_cons_of_single (by decide), Text.linesOf_cons_of_single (by simp),
    Text.linesOf_cons, Text.linesOf_cons_of_single (by simp),
    Text.linesOf_cons_of_single (by decide), Text.linesOf_nil]

/-- The lines before a text that closes a quotation, found by the texts alone. -/
theorem beforeText?_eq_some
    {close : String}
    {lines : List Line}
    {front back : List Text}
    {last : Text}
    (texts : lines.map Line.text = front ++ last :: back)
    (others : ∀ text ∈ front, text.trim ≠ close.toList)
    (closes : last.trim = close.toList) :
    ∃ inside, beforeText? close lines = some inside ∧ inside.map Line.text = front := by
  induction front generalizing lines with
  | nil =>
    rcases List.map_eq_cons_iff.mp texts with ⟨line, rest, rfl, rfl, -⟩
    exact ⟨[], by rw [beforeText?, if_pos closes], rfl⟩
  | cons text more hypothesis =>
    rcases List.map_eq_cons_iff.mp texts with ⟨line, rest, rfl, rfl, tail⟩
    rcases hypothesis tail (fun other member => others other (List.mem_cons_of_mem _ member)) with
      ⟨inside, found, same⟩
    refine ⟨line :: inside, ?_, by simp [same]⟩
    rw [beforeText?, if_neg (others _ (List.mem_cons_self ..)), found]
    rfl

/-- Between the marks of its quotation a description stands as it is. -/
theorem exists_beforeText?_quotation
    {description : Text}
    (quotation : IsQuotation description)
    (number : Nat)
    (back : List Text) :
    ∃ inside,
      beforeText? "</blockquote>" (scanFrom number none
        ([] :: (Text.cutAt '\n' description ++ [[], "</blockquote>".toList] ++ back))) =
          some inside ∧
        (Line.join inside).trim = description := by
  have pieces := Text.lines_eq_cutAt quotation.trimmed quotation.returnFree quotation.nonempty
  have others : ∀ text ∈ [] :: (Text.cutAt '\n' description ++ [[]]),
      Text.trim text ≠ "</blockquote>".toList := by
    intro text member
    rw [List.mem_cons, List.mem_append, List.mem_singleton] at member
    rcases member with rfl | inside | rfl
    · decide
    · exact quotation.unclosed text (pieces ▸ inside)
    · decide
  rcases @beforeText?_eq_some "</blockquote>"
      (scanFrom number none
        ([] :: (Text.cutAt '\n' description ++ [[], "</blockquote>".toList] ++ back)))
      ([] :: (Text.cutAt '\n' description ++ [[]])) back "</blockquote>".toList
      (by rw [map_text_scanFrom]; simp) others (by decide) with
    ⟨inside, found, texts⟩
  have whole : Text.joinLines ([] :: (Text.cutAt '\n' description ++ [[]])) =
      '\n' :: (description ++ ['\n']) := by
    rw [← joinLines_cutAt_append]
    exact Text.joinWith_cons_of_ne_nil _ _ (by simp)
  refine ⟨inside, found, ?_⟩
  rw [Line.join, texts, whole]
  exact quotation.trimmed.trim_between (by decide) (by decide)

/-- The description is read from the quotation in the front. -/
theorem techniqueDescription?_frontLines (printable : technique.IsPrintable) :
    techniqueDescription? (scanFrom 1 none (frontLines technique)) = technique.description := by
  have title := hasKind_titleLine printable
  have index := isBlock_indexLines [] technique
  cases described : technique.description with
  | none =>
    have front : frontLines technique = titleLine technique :: indexLines technique := by
      rw [frontLines, linesOf_writeDescription_none described, List.nil_append]
    have absent : ∀ line ∈ scanFrom 2 none (indexLines technique),
        line.kind ≠ .descriptionHeading :=
      index.kind_ne_of_mem rfl (by simp) 2
    have undescribed : Line.after? .descriptionHeading
        (scanFrom 1 none (frontLines technique)) = none := by
      apply Line.after?_eq_none
      rw [front, title.scanFrom_cons]
      intro line member
      rcases List.mem_cons.mp member with rfl | later
      · simp
      · exact absent line later
    rw [techniqueDescription?, undescribed]
    rfl
  | some description =>
    have quotation := printable.description description described
    rcases exists_beforeText?_quotation quotation 4 (indexLines technique) with
      ⟨inside, found, joined⟩
    have front : frontLines technique =
        titleLine technique :: descriptionLine technique :: "<blockquote>".toList :: [] ::
          (Text.cutAt '\n' description ++ [[], "</blockquote>".toList] ++
            indexLines technique) := by
      rw [frontLines, linesOf_writeDescription_some printable described]
      rfl
    have opens : HasKind "<blockquote>".toList .prose := ⟨rfl, rfl⟩
    have blockquote : afterText? "<blockquote>" (scanFrom 3 none ("<blockquote>".toList :: [] ::
          (Text.cutAt '\n' description ++ [[], "</blockquote>".toList] ++ indexLines technique))) =
        some (scanFrom 4 none ([] :: (Text.cutAt '\n' description ++
          [[], "</blockquote>".toList] ++ indexLines technique))) := by
      rw [opens.scanFrom_cons, afterText?]
      exact if_pos (by decide)
    have below : Line.after? .descriptionHeading (scanFrom 1 none (frontLines technique)) =
        some (scanFrom 3 none ("<blockquote>".toList :: [] ::
          (Text.cutAt '\n' description ++ [[], "</blockquote>".toList] ++
            indexLines technique))) := by
      rw [front, title.scanFrom_cons, (hasKind_descriptionLine technique).scanFrom_cons]
      simp [Line.after?, Line.afterFirst?]
    rw [techniqueDescription?, below]
    simp only [Option.bind_eq_bind, Option.bind_some, blockquote, found, joined]
    simp [ExecutorBlock.nonEmpty?, quotation.nonempty]

/-- What holds of the quotation's marks and of the quoted lines holds of its lines. -/
theorem forall_mem_linesOf_writeDescription
    (printable : technique.IsPrintable)
    {property : Text → Prop}
    (heading : property (descriptionLine technique))
    (marks : ∀ mark ∈ ["<blockquote>".toList, [], "</blockquote>".toList], property mark)
    (quoted : ∀ description, technique.description = some description →
      ∀ line ∈ Text.cutAt '\n' description, property line) :
    ∀ line ∈ linesOf (writeDescription technique), property line := by
  simp only [List.forall_mem_cons] at marks
  rcases marks with ⟨opening, blank, closing, -⟩
  cases described : technique.description with
  | none => simp [linesOf_writeDescription_none described]
  | some description =>
    intro line member
    rw [linesOf_writeDescription_some printable described] at member
    simp only [List.mem_cons, List.mem_append, List.not_mem_nil, or_false] at member
    rcases member with rfl | rfl | rfl | inText | rfl | rfl
    · exact heading
    · exact opening
    · exact blank
    · exact quoted description described line inText
    · exact blank
    · exact closing

/-- The front opens no test, although its quotation may leave fences open. -/
theorem free_frontLines (printable : technique.IsPrintable) :
    ∀ text ∈ frontLines technique, isTestHeading text = false := by
  have index := (isBlock_indexLines [] technique).free (by simp)
  have description : ∀ text ∈ linesOf (writeDescription technique),
      isTestHeading text = false := by
    refine forall_mem_linesOf_writeDescription printable
      ((hasKind_descriptionLine technique).free rfl) (by decide) ?_
    intro description described line inText
    have quotation := printable.description description described
    have pieces := Text.lines_eq_cutAt quotation.trimmed quotation.returnFree quotation.nonempty
    exact quotation.free line (pieces ▸ inText)
  intro text member
  rw [frontLines, List.mem_cons, List.mem_append] at member
  rcases member with rfl | inDescription | inIndex
  · exact (hasKind_titleLine printable).free rfl
  · exact description text inDescription
  · exact index text inIndex

theorem unreturned_frontLines (printable : technique.IsPrintable) :
    ∀ line ∈ frontLines technique, line.getLast? ≠ some '\r' := by
  have title : (titleLine technique).getLast? ≠ some '\r' := by
    unfold titleLine
    rw [List.getLast?_append_of_ne_nil _ printable.named]
    exact printable.name.trimmed.unreturned
  have heading : (descriptionLine technique).getLast? ≠ some '\r' := by
    unfold descriptionLine
    rw [← List.append_assoc, List.getLast?_append]
    simp
  have description : ∀ line ∈ linesOf (writeDescription technique),
      line.getLast? ≠ some '\r' := by
    refine forall_mem_linesOf_writeDescription printable heading (by decide) ?_
    intro description described line inText
    have quotation := printable.description description described
    exact Text.getLast?_ne_return_of_mem_cutAt quotation.trimmed quotation.returnFree inText
  intro line member
  rw [frontLines, List.mem_cons, List.mem_append] at member
  rcases member with rfl | inDescription | inIndex
  · exact title
  · exact description line inDescription
  · exact (isBlock_indexLines [] technique).unreturned line inIndex

end TechniquePages.Page
