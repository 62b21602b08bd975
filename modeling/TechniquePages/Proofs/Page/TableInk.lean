import TechniquePages.Proofs.Html.Ink
import TechniquePages.Proofs.Page.WrittenTable
import Mathlib.Algebra.Order.BigOperators.Group.List
import Mathlib.Algebra.Order.Group.Nat

/-!
# The ink of a table

The texts of a table may hold bars, line feeds and references, and then the table
is cut in other places than it was put together.  However it is cut, an argument is
read from one line, and it has no more ink than that line; it has as much only if
its cells were trimmed and decoded without loss.

The lines of a table have as much ink as the arguments that were written.  So a
table that gives all of them back was cut where it was put together, and every
text in it is one cell.
-/

namespace TechniquePages

open Text (ink IsTrimmed linesOf)

/-- Where a bound is reached by the sum, it is reached by every part. -/
theorem forall_eq_of_sum_le
    {α : Type}
    {less more : α → Nat}
    {values : List α}
    (bound : ∀ value ∈ values, less value ≤ more value)
    (reached : (values.map more).sum ≤ (values.map less).sum) :
    ∀ value ∈ values, less value = more value := by
  induction values with
  | nil => simp
  | cons first rest hypothesis =>
    have own := bound first (List.mem_cons_self ..)
    have later : ∀ value ∈ rest, less value ≤ more value :=
      fun value member => bound value (List.mem_cons_of_mem _ member)
    have sums := List.sum_le_sum later
    simp only [List.map_cons, List.sum_cons] at reached
    rw [List.forall_mem_cons]
    exact ⟨by omega, hypothesis later (by omega)⟩

/-! ## Arguments -/

/-- The fields of an argument that are present. -/
def Argument.details (argument : Argument) : List Text :=
  [argument.description, argument.type, argument.value].flatMap Option.toList

/-- The texts of an argument. -/
def Argument.texts (argument : Argument) : List Text :=
  argument.name :: argument.details

/-- A trimmed name, and fields that are trimmed and not empty where they are present. -/
structure Argument.IsFilled (argument : Argument) : Prop where
  name : IsTrimmed argument.name
  details : ∀ text ∈ argument.details, IsTrimmed text ∧ text ≠ []

theorem Argument.isPrintable_of_isCell
    {argument : Argument}
    (filled : argument.IsFilled)
    (cells : ∀ text ∈ argument.texts, Page.IsCell text) :
    argument.IsPrintable := by
  have details : ∀ text ∈ argument.details, Page.IsCell text ∧ text ≠ [] :=
    fun text member => ⟨cells text (List.mem_cons_of_mem _ member), (filled.details text member).2⟩
  have listed : ∀ field ∈ [argument.description, argument.type, argument.value],
      ∀ text ∈ field, Page.IsCell text ∧ text ≠ [] := by
    intro field member text present
    exact details text (List.mem_flatMap.mpr ⟨field, member, Option.mem_toList.mpr present⟩)
  exact ⟨cells _ (List.mem_cons_self ..), listed _ (by simp), listed _ (by simp),
    listed _ (by simp)⟩

/-- How much ink the texts of an argument have. -/
def Argument.ink (argument : Argument) : Nat :=
  (argument.texts.map Text.ink).sum

/-- How much ink all arguments have. -/
def totalInk (entries : List Argument) : Nat :=
  (entries.map Argument.ink).sum

@[simp]
theorem totalInk_nil : totalInk [] = 0 := rfl

@[simp]
theorem totalInk_cons (argument : Argument) (entries : List Argument) :
    totalInk (argument :: entries) = argument.ink + totalInk entries :=
  List.sum_cons

theorem ink_getD (field : Option Text) :
    ink (field.getD []) = (field.toList.map ink).sum := by
  cases field <;> simp

theorem totalInk_place_le
    (argument : Argument)
    (entries : List Argument) :
    totalInk (Arguments.place argument entries) ≤ argument.ink + totalInk entries := by
  induction entries with
  | nil => simp [Arguments.place]
  | cons first rest hypothesis =>
    rw [Arguments.place]
    split
    · simp only [totalInk_cons]
      omega
    · simp only [totalInk_cons]
      omega

theorem mem_place
    {argument other : Argument}
    {entries : List Argument}
    (member : other ∈ Arguments.place argument entries) :
    other = argument ∨ other ∈ entries := by
  induction entries with
  | nil => simpa [Arguments.place] using member
  | cons first rest hypothesis =>
    rw [Arguments.place] at member
    split at member
    · rcases List.mem_cons.mp member with same | later
      · exact Or.inl same
      · exact Or.inr (List.mem_cons_of_mem _ later)
    · rcases List.mem_cons.mp member with same | later
      · exact Or.inr (same ▸ List.mem_cons_self ..)
      · exact (hypothesis later).imp id (List.mem_cons_of_mem _)

/-- Keying arguments by name adds none, and no ink. -/
theorem foldl_insert_keyed (entries present : List Argument) :
    ∃ result, entries.foldl Arguments.insert ⟨.keyed, present⟩ = ⟨.keyed, result⟩ ∧
      (∀ argument ∈ result, argument ∈ entries ∨ argument ∈ present) ∧
        totalInk result ≤ totalInk entries + totalInk present := by
  induction entries generalizing present with
  | nil => exact ⟨present, rfl, fun _ => Or.inr, by simp⟩
  | cons argument rest hypothesis =>
    rcases hypothesis (Arguments.place argument present) with ⟨result, fold, members, bound⟩
    have placed := totalInk_place_le argument present
    refine ⟨result, fold, fun other member => ?_, ?_⟩
    · rcases members other member with later | kept
      · exact Or.inl (List.mem_cons_of_mem _ later)
      · rcases mem_place kept with rfl | old
        · exact Or.inl (List.mem_cons_self ..)
        · exact Or.inr old
    · rw [totalInk_cons]
      omega

namespace Page.InputsTable

/-! ## Rows of any text -/

theorem trimBars_cell (text : Text) : trimBars (cell text) = cell (trimBars text) := by
  have start := dropWhile_cell (· == '|') rfl rfl text
  have ending := rdropWhile_cell (· == '|') rfl rfl (text.dropWhile (· == '|'))
  exact (congrArg (List.rdropWhile (· == '|')) start).trans ending

theorem cell_joinWith (separator : Text) (texts : List Text) :
    cell (Text.joinWith separator texts) = Text.joinWith (cell separator) (texts.map cell) := by
  induction texts with
  | nil => rfl
  | cons text rest hypothesis =>
    cases rest with
    | nil => rfl
    | cons next more =>
      rw [Text.joinWith, cell_append, cell_append, hypothesis]
      rfl

/-- Escaped texts are cut where the texts themselves are. -/
theorem cutAt_cell
    {separator : Char}
    (other : separator ≠ '\\')
    (foreign : separator ∉ "&#92;".toList)
    (text : Text) :
    Text.cutAt separator (cell text) = (Text.cutAt separator text).map cell := by
  have single : cell [separator] = [separator] := cell_cons_of_ne other []
  have uncut : ∀ piece ∈ (Text.cutAt separator text).map cell, separator ∉ piece := by
    intro piece member inside
    rcases List.mem_map.mp member with ⟨source, inText, rfl⟩
    rcases mem_cell inside with reference | inSource
    · exact foreign reference
    · exact Text.not_mem_of_mem_cutAt inText inSource
  calc Text.cutAt separator (cell text)
      = Text.cutAt separator (Text.joinWith [separator] ((Text.cutAt separator text).map cell)) := by
        have joined := cell_joinWith [separator] (Text.cutAt separator text)
        rw [Text.joinWith_cutAt, single] at joined
        rw [joined]
    _ = (Text.cutAt separator text).map cell :=
        Text.cutAt_joinWith_of_not_mem (by simpa using Text.cutAt_ne_nil separator text) uncut

/-- A row is read the same with its backslashes escaped. -/
theorem argument?_cell (text : Text) : argument? (cell text) = argument? text := by
  have same : cells (cell text) = cells text := by
    rw [cells, cells, trim_cell, trimBars_cell, cutAt_cell (by decide) (by decide), List.map_map]
    refine List.map_congr_left fun piece _ => ?_
    rw [Function.comp_apply, trim_cell]
    exact Html.decode_escapeBackslashes piece.trim
  rw [argument?, argument?, same]

/-- A row is read the same without the carriage return at its end. -/
theorem argument?_dropFinalReturn (text : Text) :
    argument? (Text.dropFinalReturn text) = argument? text := by
  rw [argument?, argument?, cells, cells, Text.trim_dropFinalReturn]

/-- The texts of an argument are cells of its row. -/
theorem texts_sublist_cells
    {line : Text}
    {argument : Argument}
    (known : argument? line = some argument) :
    argument.texts.Sublist (cells line) := by
  have present : ∀ text, (present? text).toList.Sublist [text] := by
    intro text
    rw [present?]
    split
    · exact List.nil_sublist _
    · exact List.Sublist.refl _
  rw [argument?] at known
  split at known
  · rename_i name description type value others shape
    rw [← Option.some.inj known, shape]
    refine .cons_cons name ?_
    have details := (present description).append ((present type).append (present value))
    have whole := details.append (List.nil_sublist others)
    simpa [Argument.details] using whole
  · cases known

/-- A row has the ink of its argument, and no more only if the texts were its cells. -/
theorem ink_argument?
    {line : Text}
    {argument : Argument}
    (known : argument? line = some argument) :
    argument.ink ≤ ink line ∧
      ('\n' ∉ line → ink line ≤ argument.ink → ∀ text ∈ argument.texts, IsCell text) := by
  have kept : (trimBars line.trim).Sublist line :=
    ((List.rdropWhile_prefix (· == '|') _).sublist.trans
      (List.dropWhile_suffix (· == '|')).sublist).trans (Text.trim_sublist line)
  have pieces := Text.sum_ink_cutAt '|' rfl (trimBars line.trim)
  have remaining := Text.ink_le_of_sublist kept
  have within := texts_sublist_cells known
  have fields : argument.ink ≤ ((cells line).map ink).sum :=
    (within.map ink).sum_le_sum fun _ _ => Nat.zero_le _
  have inks : (cells line).map ink =
      (Text.cutAt '|' (trimBars line.trim)).map fun piece => ink (Html.decode piece.trim) := by
    rw [cells, List.map_map]
    rfl
  have lighter : ∀ piece ∈ Text.cutAt '|' (trimBars line.trim),
      ink (Html.decode piece.trim) ≤ ink piece :=
    fun piece _ => (Html.ink_decode piece.trim).1.trans (Text.ink_trim_le piece)
  have sums := List.sum_le_sum lighter
  rw [← inks] at sums
  refine ⟨by omega, fun single reached text member => ?_⟩
  have exact := forall_eq_of_sum_le lighter (by rw [← inks]; omega)
  rcases List.mem_map.mp (within.subset member) with ⟨piece, inRow, rfl⟩
  have decoded : Html.decode piece.trim = piece.trim := by
    have bound := (Html.ink_decode piece.trim).1
    have shorter := Text.ink_trim_le piece
    have same := exact piece inRow
    exact (Html.ink_decode piece.trim).2 (by omega)
  have inPiece := (Text.trim_sublist piece).subset
  rw [decoded]
  refine ⟨⟨Text.isTrimmed_trim piece, fun inside => single ?_⟩, fun inside => ?_, decoded⟩
  · exact kept.subset (Text.subset_of_mem_cutAt inRow (inPiece inside))
  · exact Text.not_mem_of_mem_cutAt inRow (inPiece inside)

/-! ## Tables of any text -/

/-- A row before its backslashes are escaped. -/
def plainRow (argument : Argument) : Text :=
  "| ".toList ++ argument.name ++
    " | ".toList ++ argument.description.getD [] ++
    " | ".toList ++ argument.type.getD [] ++
    " | ".toList ++ argument.value.getD [] ++ "|".toList

theorem row_eq_cell (argument : Argument) : row argument = cell (plainRow argument) := by
  unfold plainRow
  repeat rw [cell_append]
  rfl

theorem ink_plainRow (argument : Argument) : ink (plainRow argument) = argument.ink := by
  have whole : ink (plainRow argument) =
      0 + ink argument.name + 0 + ink (argument.description.getD []) + 0 +
        ink (argument.type.getD []) + 0 + ink (argument.value.getD []) + 0 := by
    unfold plainRow
    repeat rw [Text.ink_append]
    rfl
  rw [whole, ink_getD, ink_getD, ink_getD]
  simp [Argument.ink, Argument.texts, Argument.details, Nat.add_assoc]

/-- The lines of rows before their backslashes are escaped. -/
def plainLines (entries : List Argument) : List Text :=
  linesOf (entries.map plainRow)

theorem linesOf_map_row (entries : List Argument) :
    linesOf (entries.map row) = (plainLines entries).map cell := by
  rw [plainLines, linesOf, linesOf, List.flatMap_map, List.flatMap_map, List.map_flatMap]
  refine List.flatMap_congr fun argument _ => ?_
  rw [row_eq_cell, cutAt_cell (by decide) (by decide)]

/-- The lines of a table have the ink of its arguments. -/
theorem sum_ink_plainLines (entries : List Argument) :
    ((plainLines entries).map ink).sum = totalInk entries := by
  induction entries with
  | nil => rfl
  | cons argument rest hypothesis =>
    have first := Text.sum_ink_cutAt '\n' rfl (plainRow argument)
    rw [ink_plainRow] at first
    unfold plainLines at hypothesis ⊢
    rw [List.map_cons, Text.linesOf_cons, List.map_append, List.sum_append, first, hypothesis,
      totalInk_cons]

theorem newline_not_mem_plainLines
    {entries : List Argument}
    {line : Text}
    (member : line ∈ plainLines entries) :
    '\n' ∉ line := by
  rcases List.mem_flatMap.mp member with ⟨row, -, inRow⟩
  exact Text.not_mem_of_mem_cutAt inRow

/-- How much ink is read from a line. -/
def inkRead (line : Text) : Nat :=
  ((argument? line).map Argument.ink).getD 0

theorem totalInk_filterMap (lines : List Text) :
    totalInk (lines.filterMap argument?) = (lines.map inkRead).sum := by
  induction lines with
  | nil => rfl
  | cons line rest hypothesis =>
    rw [List.filterMap_cons, List.map_cons, List.sum_cons, inkRead, ← hypothesis]
    cases argument? line with
    | none => simp
    | some argument => simp

/-- If all arguments of a table are read from lines of it, then every text in it is a cell. -/
theorem isCell_of_read_back
    {entries : List Argument}
    {rows : List Text}
    (within : rows.Sublist ((linesOf (entries.map row)).map Text.dropFinalReturn))
    (back : (rows.filterMap argument?).foldl Arguments.insert .empty = ⟨.keyed, entries⟩) :
    ∀ argument ∈ entries, ∀ text ∈ argument.texts, IsCell text := by
  have found : (rows.filterMap argument?).Sublist ((plainLines entries).filterMap argument?) := by
    have same : argument? ∘ Text.dropFinalReturn ∘ cell = argument? := by
      funext text
      rw [Function.comp_apply, Function.comp_apply, argument?_dropFinalReturn, argument?_cell]
    have lines := within.filterMap argument?
    rwa [linesOf_map_row, List.map_map, List.filterMap_map, same] at lines
  rcases foldl_insert_keyed (rows.filterMap argument?) [] with ⟨result, fold, members, bound⟩
  have all : result = entries := congrArg Arguments.entries (fold.symm.trans back)
  subst all
  have fewer : totalInk (rows.filterMap argument?) ≤
      totalInk ((plainLines result).filterMap argument?) :=
    (found.map Argument.ink).sum_le_sum fun _ _ => Nat.zero_le _
  have lighter : ∀ line ∈ plainLines result, inkRead line ≤ ink line := by
    intro line _
    cases known : argument? line with
    | none => simp [inkRead, known]
    | some argument => simpa [inkRead, known] using (ink_argument? known).1
  have exact := forall_eq_of_sum_le lighter (by
    rw [sum_ink_plainLines, ← totalInk_filterMap]
    rw [totalInk_nil] at bound
    omega)
  intro argument member
  have read := (members argument member).resolve_right List.not_mem_nil
  rcases List.mem_filterMap.mp (found.subset read) with ⟨line, inTable, known⟩
  have same := exact line inTable
  rw [inkRead, known, Option.map_some, Option.getD_some] at same
  exact (ink_argument? known).2 (newline_not_mem_plainLines inTable) same.ge

end Page.InputsTable

end TechniquePages
