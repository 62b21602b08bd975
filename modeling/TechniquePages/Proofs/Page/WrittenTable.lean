import TechniquePages.Proofs.Html.Decoding
import TechniquePages.Proofs.Page.Blocks
import TechniquePages.Proofs.Page.RowBorders
import TechniquePages.Proofs.Technique.Arguments

/-!
# The table of inputs, written and read

A cell is written with its backslashes as references, and decoding a cell undoes
that.  No cell of a written row is bare, so only its two borders are taken off, and
the row holds the four texts that were written; another row that spells them without
a bare cell is read alike.  The table ends at the empty line below it.
-/

namespace TechniquePages.Page

open Text (IsTrimmed IsLine linesOf)
open Unicode (isBlank)

namespace InputsTable

/-! ## Cells -/

theorem mem_cell
    {text : Text}
    {character : Char}
    (member : character ∈ cell text) :
    character ∈ "&#92;".toList ∨ character ∈ text := by
  rcases List.mem_flatMap.mp member with ⟨source, inText, inside⟩
  split at inside
  · exact Or.inl inside
  · have same : character = source := by simpa using inside
    exact Or.inr (same ▸ inText)

theorem cell_append (front back : Text) : cell (front ++ back) = cell front ++ cell back :=
  List.flatMap_append

theorem cell_cons_of_ne
    {character : Char}
    (other : character ≠ '\\')
    (rest : Text) :
    cell (character :: rest) = character :: cell rest := by
  simp [cell, Html.escapeBackslashes, other]

theorem cell_backslash (rest : Text) :
    cell ('\\' :: rest) = '&' :: ("#92;".toList ++ cell rest) := rfl

/-- A backslash is kept at the start of a cell if it is kept at the start of the text. -/
theorem dropWhile_cell
    (drop : Char → Bool)
    (backslash : drop '\\' = false)
    (ampersand : drop '&' = false)
    (text : Text) :
    (cell text).dropWhile drop = cell (text.dropWhile drop) := by
  induction text with
  | nil => rfl
  | cons character rest hypothesis =>
    by_cases same : character = '\\'
    · subst same
      rw [cell_backslash, List.dropWhile_cons_of_neg (by simp [ampersand]),
        List.dropWhile_cons_of_neg (by simp [backslash]), cell_backslash]
    · rw [cell_cons_of_ne same, List.dropWhile_cons, List.dropWhile_cons]
      cases drop character with
      | true => exact hypothesis
      | false => exact (cell_cons_of_ne same rest).symm

theorem rdropWhile_cell
    (drop : Char → Bool)
    (backslash : drop '\\' = false)
    (semicolon : drop ';' = false)
    (text : Text) :
    (cell text).rdropWhile drop = cell (text.rdropWhile drop) := by
  induction text using List.reverseRecOn with
  | nil => rfl
  | append_singleton others character hypothesis =>
    rw [cell_append]
    by_cases same : character = '\\'
    · subst same
      have split : cell others ++ cell ['\\'] = (cell others ++ "&#92".toList) ++ [';'] := by
        rw [List.append_assoc]
        rfl
      rw [split, List.rdropWhile_concat_neg _ _ _ (by simp [semicolon]),
        List.rdropWhile_concat_neg _ _ _ (by simp [backslash]), cell_append, split]
    · have single : cell [character] = [character] := cell_cons_of_ne same []
      rw [single]
      cases dropped : drop character with
      | true =>
        rw [List.rdropWhile_concat_pos _ _ _ dropped, List.rdropWhile_concat_pos _ _ _ dropped]
        exact hypothesis
      | false =>
        rw [List.rdropWhile_concat_neg _ _ _ (by simp [dropped]),
          List.rdropWhile_concat_neg _ _ _ (by simp [dropped]), cell_append, single]

/-- Writing a cell and trimming it may be done in either order. -/
theorem trim_cell (text : Text) : (cell text).trim = cell text.trim := by
  have start := dropWhile_cell isBlank rfl rfl text
  have ending := rdropWhile_cell isBlank rfl rfl (text.dropWhile isBlank)
  exact (congrArg (List.rdropWhile isBlank) start).trans ending

theorem isTrimmed_cell
    {text : Text}
    (trimmed : IsTrimmed text) :
    IsTrimmed (cell text) :=
  (trim_cell text).trans (congrArg cell trimmed)

theorem decode_cell
    {text : Text}
    (known : IsCell text) :
    Html.decode (cell text) = text :=
  (Html.decode_escapeBackslashes text).trans known.decoded

/-- A written cell is one line without a bar. -/
theorem not_mem_cell
    {text : Text}
    (known : IsCell text) :
    '|' ∉ cell text ∧ '\n' ∉ cell text := by
  constructor
  · intro member
    rcases mem_cell member with reference | inText
    · exact absurd reference (by decide)
    · exact known.unbarred inText
  · intro member
    rcases mem_cell member with reference | inText
    · exact absurd reference (by decide)
    · exact known.line.single inText

/-! ## Rows -/

/-- The cells of a row with the blanks around them. -/
def padded (argument : Argument) : List Text := [
  ' ' :: (cell argument.name ++ [' ']),
  ' ' :: (cell (argument.description.getD []) ++ [' ']),
  ' ' :: (cell (argument.type.getD []) ++ [' ']),
  ' ' :: cell (argument.value.getD [])]

theorem row_eq (argument : Argument) :
    row argument = '|' :: (Text.joinWith ['|'] (padded argument) ++ ['|']) := by
  unfold row padded
  simp only [Text.joinWith, List.append_assoc, List.cons_append, List.nil_append]
  rfl

theorem isCell_nil : IsCell [] :=
  ⟨⟨rfl, by simp⟩, by simp, rfl⟩

theorem isCell_getD
    {field : Option Text}
    (present : ∀ text ∈ field, IsCell text ∧ text ≠ []) :
    IsCell (field.getD []) := by
  cases field with
  | none => exact isCell_nil
  | some text => exact (present text rfl).1

/-- A field that is present is not empty, so an empty cell says that it is absent. -/
theorem present?_getD
    {field : Option Text}
    (filled : field ≠ some []) :
    present? (field.getD []) = field := by
  cases field with
  | none => rfl
  | some text => cases text <;> simp_all [present?]

/--
A row whose four cells hold the texts of an argument.  No cell is bare: where a field
is absent, there is a blank between the bars.
-/
structure IsRowOf (argument : Argument) (row : Text) : Prop where
  spelled : ∃ pieces : List Text,
    row.trim = '|' :: (Text.joinWith ['|'] pieces ++ ['|']) ∧
      (∀ piece ∈ pieces, piece ≠ [] ∧ '|' ∉ piece) ∧
        pieces.map (fun piece => Html.decode piece.trim) =
          [argument.name, argument.description.getD [], argument.type.getD [],
            argument.value.getD []]
  filled : some [] ∉ [argument.description, argument.type, argument.value]

/-- A row of an argument is read as the argument. -/
theorem IsRowOf.argument?_eq
    {argument : Argument}
    {row : Text}
    (written : IsRowOf argument row) :
    isRow row = true ∧ argument? row = some argument := by
  rcases written.spelled with ⟨pieces, shape, unbarred, texts⟩
  have nonempty : pieces ≠ [] := by
    rintro rfl
    simp at texts
  have fields : ∀ field ∈ [argument.description, argument.type, argument.value],
      present? (field.getD []) = field :=
    fun field member => present?_getD fun empty => written.filled (empty ▸ member)
  refine ⟨isRow_of_trim shape, ?_⟩
  rw [argument?_eq_ofCells?, cells_of_trim shape nonempty unbarred, texts, ofCells?,
    fields _ (by simp), fields _ (by simp), fields _ (by simp)]

variable {argument : Argument}

theorem unbarred_padded
    (printable : argument.IsPrintable) :
    ∀ text ∈ padded argument, '|' ∉ text ∧ '\n' ∉ text := by
  have name := not_mem_cell printable.name
  have description := not_mem_cell (isCell_getD printable.description)
  have type := not_mem_cell (isCell_getD printable.type)
  have value := not_mem_cell (isCell_getD printable.value)
  intro text member
  simp only [padded, List.mem_cons, List.not_mem_nil, or_false] at member
  rcases member with rfl | rfl | rfl | rfl <;> simp [name, description, type, value]

theorem newline_not_mem_row (printable : argument.IsPrintable) : '\n' ∉ row argument := by
  have name := not_mem_cell printable.name
  have description := not_mem_cell (isCell_getD printable.description)
  have type := not_mem_cell (isCell_getD printable.type)
  have value := not_mem_cell (isCell_getD printable.value)
  rw [row_eq]
  simp [padded, Text.joinWith, name, description, type, value]

theorem isTrimmed_row (argument : Argument) : IsTrimmed (row argument) := by
  rw [Text.isTrimmed_iff, row_eq]
  constructor
  · intro character found
    have same : character = '|' := by simpa [eq_comm] using found
    subst same
    decide
  · intro character found
    rw [← List.cons_append, List.getLast?_concat] at found
    have same : '|' = character := by simpa using found
    exact same ▸ by decide

/-- A written row is a row of its argument. -/
theorem isRowOf_row (printable : argument.IsPrintable) : IsRowOf argument (row argument) where
  spelled := by
    have between : ∀ text, IsCell text → Text.trim (' ' :: (cell text ++ [' '])) = cell text :=
      fun text known => (isTrimmed_cell known.line.trimmed).trim_between (by decide) (by decide)
    have behind : ∀ text, IsCell text → Text.trim (' ' :: cell text) = cell text := by
      intro text known
      rw [Text.trim_cons_of_blank _ (by decide)]
      exact isTrimmed_cell known.line.trimmed
    refine ⟨padded argument, (isTrimmed_row argument).trim_eq.trans (row_eq argument), ?_, ?_⟩
    · intro piece member
      refine ⟨?_, (unbarred_padded printable piece member).1⟩
      simp only [padded, List.mem_cons, List.not_mem_nil, or_false] at member
      rcases member with rfl | rfl | rfl | rfl <;> exact List.cons_ne_nil _ _
    · simp only [padded, List.map_cons, List.map_nil]
      rw [between _ printable.name, between _ (isCell_getD printable.description),
        between _ (isCell_getD printable.type), behind _ (isCell_getD printable.value),
        decode_cell printable.name, decode_cell (isCell_getD printable.description),
        decode_cell (isCell_getD printable.type), decode_cell (isCell_getD printable.value)]
  filled := by
    intro member
    simp only [List.mem_cons, List.not_mem_nil, or_false] at member
    rcases member with empty | empty | empty
    · exact (printable.description [] empty.symm).2 rfl
    · exact (printable.type [] empty.symm).2 rfl
    · exact (printable.value [] empty.symm).2 rfl

end InputsTable

/-! ## Tables -/

namespace InputsTable

/-- A table is read row by row, up to the first line that is no row. -/
theorem arguments_of_isRowOf
    {entries : List Argument}
    {rows : List Text}
    (written : List.Forall₂ IsRowOf entries rows)
    {titles rule : Text}
    (titled : isRow titles = true)
    (ruled : isRule rule = true)
    {below : List Text}
    (ends : ∀ text ∈ below.head?, isRow text = false) :
    arguments (titles :: rule :: (rows ++ below)) = entries.foldl Arguments.insert .empty := by
  have all : (rows ++ below).takeWhile isRow = rows ∧ rows.filterMap argument? = entries := by
    induction written with
    | nil =>
      refine ⟨?_, rfl⟩
      cases below with
      | nil => rfl
      | cons text rest => simp [ends text rfl]
    | cons first later hypothesis =>
      have read := first.argument?_eq
      rw [List.cons_append, List.takeWhile_cons_of_pos read.1, List.filterMap_cons_some read.2,
        hypothesis.1, hypothesis.2]
      exact ⟨rfl, rfl⟩
  rw [arguments, rows?, titled, ruled]
  simp only [Bool.and_self, if_true, Option.getD_some, all.1, all.2]

/-- A written table is read back, keyed, up to the line that ends it. -/
theorem arguments_write
    {written : Arguments}
    (printable : ∀ argument ∈ written.entries, argument.IsPrintable)
    (distinct : (written.entries.map Argument.name).Nodup)
    (rest : List Text) :
    arguments (write written ++ [] :: rest) = written.toKeyed := by
  have rows : List.Forall₂ IsRowOf written.entries (written.entries.map row) :=
    List.forall₂_map_right_iff.mpr
      (List.forall₂_same.mpr fun argument member => isRowOf_row (printable argument member))
  have titles : isRow "| Name | Description | Type | Default Value |".toList = true := by decide
  have rule : isRule "|------|-------------|------|---------------|".toList = true := by decide
  have ends : ∀ text ∈ (([] : Text) :: rest).head?, isRow text = false := by
    intro text found
    rw [← Option.some.inj found]
    decide
  have keyed := @Arguments.foldl_insert [] written.entries (by simpa using distinct)
  rw [write, List.cons_append, List.cons_append, arguments_of_isRowOf rows titles rule ends]
  exact keyed

end InputsTable

/-! ## Inputs -/

theorem linesOf_of_single
    {texts : List Text}
    (single : ∀ text ∈ texts, '\n' ∉ text) :
    linesOf texts = texts := by
  have pieces : ∀ text ∈ texts, Text.cutAt '\n' text = [text] :=
    fun text member => Text.cutAt_eq_singleton (single text member)
  rw [linesOf, List.flatMap_congr pieces, List.flatMap_singleton']

theorem linesOf_writeInputs
    {written : Arguments}
    (printable : ∀ argument ∈ written.entries, argument.IsPrintable)
    (nonempty : written.entries ≠ []) :
    linesOf (writeInputs written) =
      "#### Inputs:".toList :: (InputsTable.write written ++ [[]]) := by
  have rows : ∀ text ∈ written.entries.map InputsTable.row, '\n' ∉ text := by
    intro text member
    rcases List.mem_map.mp member with ⟨argument, inEntries, rfl⟩
    exact InputsTable.newline_not_mem_row (printable argument inEntries)
  have table : linesOf (InputsTable.write written) = InputsTable.write written := by
    rw [InputsTable.write, Text.linesOf_cons_of_single (by decide),
      Text.linesOf_cons_of_single (by decide), linesOf_of_single rows]
  rw [writeInputs, if_neg (by simpa using nonempty), Text.linesOf_cons_of_single (by decide),
    Text.linesOf_append, table]
  rfl

theorem isBlock_writeInputs
    {written : Arguments}
    (printable : ∀ argument ∈ written.entries, argument.IsPrintable) :
    IsBlock [.inputs] (linesOf (writeInputs written)) := by
  by_cases empty : written.entries = []
  · rw [writeInputs, if_pos (by simp [empty])]
    exact IsBlock.nil
  · have rows : ∀ entries : List Argument,
        IsBlock [.inputs] (entries.map InputsTable.row ++ [[]]) := by
      intro entries
      induction entries with
      | nil => exact IsBlock.nil.cons_prose hasKind_nil (by simp)
      | cons argument rest hypothesis =>
        refine IsBlock.cons_prose (hasKind_row _) ?_ hypothesis
        rw [InputsTable.row_eq, ← List.cons_append, List.getLast?_concat]
        simp
    rw [linesOf_writeInputs printable empty, InputsTable.write]
    refine IsBlock.cons hasKind_inputs (by simp [LineKind.part?]) rfl (by decide) ?_
    refine IsBlock.cons_prose (hasKind_row _) (by decide) ?_
    exact IsBlock.cons_prose (hasKind_row _) (by decide) (rows written.entries)

/-- The arguments of a section are those of its table, and there are none without one. -/
theorem Section.arguments_write
    {written : Arguments}
    (printable : ∀ argument ∈ written.entries, argument.IsPrintable)
    (distinct : (written.entries.map Argument.name).Nodup)
    (number : Nat)
    {rest : List Line}
    (absent : ∀ line ∈ rest, line.kind ≠ .inputsHeading) :
    Section.arguments (scanFrom number none (linesOf (writeInputs written)) ++ rest) =
      written.toKeyed := by
  by_cases empty : written.entries = []
  · have none : Line.after? .inputsHeading rest = none := Line.after?_eq_none absent
    rw [writeInputs, if_pos (by simp [empty]), Text.linesOf_nil, scanFrom_nil, List.nil_append,
      Section.arguments, Section.inputTexts?, none]
    simp [Arguments.empty, Arguments.toKeyed, empty]
  · have read := InputsTable.arguments_write printable distinct (rest.map Line.text)
    rw [linesOf_writeInputs printable empty, hasKind_inputs.scanFrom_cons, List.cons_append,
      Section.arguments, Section.inputTexts?, Line.after?_cons]
    simp only [Option.map_some, Option.getD_some, List.map_append, map_text_scanFrom,
      List.append_assoc, List.singleton_append]
    exact read

end TechniquePages.Page
