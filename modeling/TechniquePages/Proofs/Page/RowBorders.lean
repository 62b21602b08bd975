import TechniquePages.Page.InputsTable
import TechniquePages.Proofs.Text.Lines

/-!
# Borders of rows

A row stands between two bars, and between these it is cut at every bar.  Reading
takes off every bar at the two ends, so where empty cells without a blank stand at
an end, they are taken for borders.  Cells that are lost behind the last one may
leave a row with fewer than four, and cells that are lost before the first one move
the others to the left.

A blank keeps an empty cell.  So a row is read as it stands whenever it has blanks
beside its borders, as every written row does.
-/

namespace TechniquePages.Page.InputsTable

/-! ## Rows between two bars -/

/-- What stands between the first and the last character of a row. -/
def withinBorders (row : Text) : Text :=
  row.trim.tail.dropLast

/-- The cells between the two border bars. -/
def borderedCells (row : Text) : List Text :=
  (Text.cutAt '|' (withinBorders row)).map fun cell => Html.decode cell.trim

/-- The argument in the first four cells. -/
def ofCells? : List Text → Option Argument
  | name :: description :: type :: value :: _ =>
    some ⟨name, present? description, present? type, present? value⟩
  | _ => none

/-- The argument of a row from which one bar is taken off at each end. -/
def borderedArgument? (row : Text) : Option Argument :=
  ofCells? (borderedCells row)

/-- How many bars follow the first border at once. -/
def barsAfterStart (row : Text) : Nat :=
  ((withinBorders row).takeWhile (· == '|')).length

/-- How many bars stand directly before the last border, those after the first one apart. -/
def barsBeforeEnd (row : Text) : Nat :=
  (((withinBorders row).dropWhile (· == '|')).rtakeWhile (· == '|')).length

/-! ## Cells at the borders -/

theorem eq_bordered_of_isRow
    {row : Text}
    (known : isRow row = true) :
    row.trim = '|' :: (withinBorders row ++ ['|']) := by
  rw [isRow] at known
  split at known
  · rename_i first second rest shape
    simp only [Bool.and_eq_true, beq_iff_eq] at known
    rcases List.getLast?_eq_some_iff.mp known.2 with ⟨before, split⟩
    rw [withinBorders, shape, List.tail_cons, split, List.dropLast_concat, known.1]
  · cases known

theorem isRow_of_trim
    {row inside : Text}
    (shape : row.trim = '|' :: (inside ++ ['|'])) :
    isRow row = true := by
  rw [isRow, shape]
  cases inside with
  | nil => rfl
  | cons first rest =>
    have last : (first :: rest ++ ['|']).getLast? = some '|' := List.getLast?_concat
    simpa using last

theorem cutAt_replicate_append
    (count : Nat)
    (separator : Char)
    (text : Text) :
    Text.cutAt separator (List.replicate count separator ++ text) =
      List.replicate count [] ++ Text.cutAt separator text := by
  induction count with
  | zero => rfl
  | succ count hypothesis =>
    rw [List.replicate_succ, List.cons_append, Text.cutAt, if_pos rfl, hypothesis,
      List.replicate_succ, List.cons_append]

theorem cutAt_append_replicate
    (count : Nat)
    (separator : Char)
    (text : Text) :
    Text.cutAt separator (text ++ List.replicate count separator) =
      Text.cutAt separator text ++ List.replicate count [] := by
  induction count with
  | zero => simp
  | succ count hypothesis =>
    rw [List.replicate_succ', ← List.append_assoc, Text.cutAt_append_separator, hypothesis,
      List.append_assoc, Text.cutAt_nil, List.replicate_succ']

theorem trimBars_eq (text : Text) :
    trimBars text = (text.dropWhile (· == '|')).rdropWhile (· == '|') := rfl

/-- The bars that are taken off are the borders and the bars beside them. -/
theorem trimBars_trim
    {row : Text}
    (known : isRow row = true) :
    trimBars row.trim = trimBars (withinBorders row) := by
  rw [eq_bordered_of_isRow known, trimBars_eq, trimBars_eq, List.dropWhile_cons_of_pos (by rfl),
    List.dropWhile_append]
  split
  · rename_i empty
    rw [List.isEmpty_iff.mp empty]
    rfl
  · exact List.rdropWhile_concat_pos _ _ _ rfl

/-- What is left of a text after trimming, and the bars that were there. -/
theorem withinBorders_eq (row : Text) :
    withinBorders row =
      List.replicate (barsAfterStart row) '|' ++
        (trimBars (withinBorders row) ++ List.replicate (barsBeforeEnd row) '|') := by
  have first : (withinBorders row).takeWhile (· == '|') =
      List.replicate (barsAfterStart row) '|' :=
    List.eq_replicate_iff.mpr ⟨rfl, fun _ member => by simpa using List.mem_takeWhile_imp member⟩
  have last : ((withinBorders row).dropWhile (· == '|')).rtakeWhile (· == '|') =
      List.replicate (barsBeforeEnd row) '|' :=
    List.eq_replicate_iff.mpr ⟨rfl, fun _ member => by simpa using List.mem_rtakeWhile_imp member⟩
  rw [← first, ← last, trimBars_eq, List.rdropWhile_append_rtakeWhile,
    List.takeWhile_append_dropWhile]

/-- Between its borders a row holds the cells that are read, and empty ones at both ends. -/
theorem borderedCells_eq
    {row : Text}
    (known : isRow row = true) :
    borderedCells row =
      List.replicate (barsAfterStart row) [] ++
        (cells row ++ List.replicate (barsBeforeEnd row) []) := by
  have empty : ∀ count : Nat,
      (List.replicate count []).map (fun cell : Text => Html.decode cell.trim) =
        List.replicate count [] := by
    intro count
    rw [List.map_replicate]
    rfl
  calc borderedCells row
      = (List.replicate (barsAfterStart row) [] ++
          (Text.cutAt '|' (trimBars (withinBorders row)) ++
            List.replicate (barsBeforeEnd row) [])).map
              fun cell : Text => Html.decode cell.trim := by
        rw [borderedCells, ← cutAt_append_replicate, ← cutAt_replicate_append,
          ← withinBorders_eq row]
    _ = List.replicate (barsAfterStart row) [] ++
          (cells row ++ List.replicate (barsBeforeEnd row) []) := by
        rw [List.map_append, List.map_append, empty, empty, cells, trimBars_trim known]

/-- Where no bar stands beside a border, the cells are those between the borders. -/
theorem cells_eq_borderedCells
    {row : Text}
    (known : isRow row = true)
    (first : (withinBorders row).head? ≠ some '|')
    (last : (withinBorders row).getLast? ≠ some '|') :
    cells row = borderedCells row := by
  have start : barsAfterStart row = 0 := by
    rw [barsAfterStart, List.length_eq_zero_iff, List.takeWhile_eq_nil_iff]
    intro nonempty bar
    exact first (by simpa [List.head?_eq_getElem?, List.getElem?_eq_getElem nonempty] using bar)
  have ending : barsBeforeEnd row = 0 := by
    have whole := List.takeWhile_append_dropWhile (p := (· == '|')) (l := withinBorders row)
    rw [barsAfterStart, List.length_eq_zero_iff] at start
    rw [start, List.nil_append] at whole
    rw [barsBeforeEnd, whole, List.length_eq_zero_iff, List.rtakeWhile_eq_nil_iff]
    intro nonempty bar
    exact last (by simpa [List.getLast?_eq_getLast_of_ne_nil nonempty] using bar)
  rw [borderedCells_eq known, start, ending]
  simp

/-- Joined pieces have no bar at their ends, unless a piece is bare. -/
theorem ends_joinWith
    {pieces : List Text}
    (unbarred : ∀ piece ∈ pieces, piece ≠ [] ∧ '|' ∉ piece) :
    (Text.joinWith ['|'] pieces).head? ≠ some '|' ∧
      (Text.joinWith ['|'] pieces).getLast? ≠ some '|' := by
  induction pieces with
  | nil => simp
  | cons piece rest hypothesis =>
    have own := unbarred piece (List.mem_cons_self ..)
    have later := hypothesis fun other member => unbarred other (List.mem_cons_of_mem _ member)
    cases rest with
    | nil =>
      exact ⟨fun bar => own.2 (List.mem_of_head? bar), fun bar => own.2 (List.mem_of_getLast? bar)⟩
    | cons next more =>
      have written : Text.joinWith ['|'] (next :: more) ≠ [] := by
        have first := (unbarred next (by simp)).1
        cases more <;> simp [Text.joinWith, first]
      rw [Text.joinWith_cons_of_ne_nil _ _ (by simp), List.append_assoc,
        List.head?_append_of_ne_nil _ own.1, ← List.append_assoc,
        List.getLast?_append_of_ne_nil _ written]
      exact ⟨fun bar => own.2 (List.mem_of_head? bar), later.2⟩

/-- A row of pieces between its bars holds these pieces, trimmed and decoded. -/
theorem cells_of_trim
    {row : Text}
    {pieces : List Text}
    (shape : row.trim = '|' :: (Text.joinWith ['|'] pieces ++ ['|']))
    (nonempty : pieces ≠ [])
    (unbarred : ∀ piece ∈ pieces, piece ≠ [] ∧ '|' ∉ piece) :
    cells row = pieces.map fun piece => Html.decode piece.trim := by
  have inside : withinBorders row = Text.joinWith ['|'] pieces := by
    rw [withinBorders, shape, List.tail_cons, List.dropLast_concat]
  have ends := ends_joinWith unbarred
  rw [← inside] at ends
  rw [cells_eq_borderedCells (isRow_of_trim shape) ends.1 ends.2, borderedCells, inside,
    Text.cutAt_joinWith_of_not_mem nonempty fun piece member => (unbarred piece member).2]

/-! ## Arguments -/

theorem argument?_eq_ofCells? (row : Text) : argument? row = ofCells? (cells row) := rfl

theorem present?_inj (left right : Text) : present? left = present? right ↔ left = right := by
  cases left <;> cases right <;> simp [present?]

theorem ofCells?_eq_none_iff (cells : List Text) : ofCells? cells = none ↔ cells.length < 4 := by
  rcases cells with _ | ⟨name, _ | ⟨description, _ | ⟨type, _ | ⟨value, rest⟩⟩⟩⟩
  all_goals simp [ofCells?]

theorem exists_eq_of_four_le
    {cells : List Text}
    (long : 4 ≤ cells.length) :
    ∃ name description type value rest,
      cells = name :: description :: type :: value :: rest := by
  rcases cells with _ | ⟨name, _ | ⟨description, _ | ⟨type, _ | ⟨value, rest⟩⟩⟩⟩
  case cons.cons.cons.cons => exact ⟨name, description, type, value, rest, rfl⟩
  all_goals simp at long

/-- Two rows of cells make the same argument when they agree in the first four. -/
theorem ofCells?_eq_iff
    {left right : List Text}
    (leftLong : 4 ≤ left.length)
    (rightLong : 4 ≤ right.length) :
    ofCells? left = ofCells? right ↔ left.take 4 = right.take 4 := by
  rcases exists_eq_of_four_le leftLong with ⟨name, description, type, value, rest, rfl⟩
  rcases exists_eq_of_four_le rightLong with ⟨name, description, type, value, rest, rfl⟩
  simp [ofCells?, present?_inj]

/-- Cells that are moved by empty ones keep their first four only if these are empty. -/
theorem take_replicate_append_eq_iff
    {count : Nat}
    (moved : count ≠ 0)
    {cells : List Text}
    (long : 4 ≤ cells.length)
    (rest : List Text) :
    (List.replicate count [] ++ (cells ++ rest)).take 4 = cells.take 4 ↔
      ∀ cell ∈ cells.take 4, cell = [] := by
  rcases exists_eq_of_four_le long with ⟨name, description, type, value, more, rfl⟩
  -- One case for each number of the four cells that stay in sight.
  match count, moved with
  | 1, _ => simp; grind
  | 2, _ => simp [List.replicate_succ]; grind
  | 3, _ => simp [List.replicate_succ]; grind
  | count + 4, _ => simp [List.replicate_succ]

/--
Between its borders a row holds the cells that are read, with an empty one for every
bar beside a border.  Its argument is the one that stands there, unless cells that
are lost leave fewer than four of at least four, or move cells of which not all are
empty.
-/
theorem argument?_eq_borderedArgument?_iff
    (row : Text)
    (known : isRow row = true) :
    borderedCells row =
        List.replicate (barsAfterStart row) [] ++
          (cells row ++ List.replicate (barsBeforeEnd row) []) ∧
      (argument? row = borderedArgument? row ↔
        (borderedCells row).length < 4 ∨
          4 ≤ (cells row).length ∧
            (barsAfterStart row = 0 ∨ ∀ cell ∈ (cells row).take 4, cell = [])) := by
  have split := borderedCells_eq known
  refine ⟨split, ?_⟩
  rw [argument?_eq_ofCells?, borderedArgument?]
  by_cases long : 4 ≤ (cells row).length
  · have within : 4 ≤ (borderedCells row).length := by
      rw [split]
      simp only [List.length_append]
      omega
    rw [ofCells?_eq_iff long within]
    by_cases unmoved : barsAfterStart row = 0
    · rw [split, unmoved, List.replicate_zero, List.nil_append, List.take_append_of_le_length long]
      simp [long]
    · have moved :=
        take_replicate_append_eq_iff unmoved long (List.replicate (barsBeforeEnd row) [])
      have enough : ¬ (borderedCells row).length < 4 := by omega
      rw [eq_comm, split, moved, ← split]
      simp only [enough, long, unmoved, false_or, true_and]
  · have short : ofCells? (cells row) = none := (ofCells?_eq_none_iff _).mpr (by omega)
    rw [short, eq_comm, ofCells?_eq_none_iff]
    simp [long]

/-- A row whose default cell is empty, without a blank. -/
def doubledRow : Text := "| word | A word | string ||".toList

/-- A row whose name cell is empty, without a blank. -/
def movedRow : Text := "|| word | A word | string | x |".toList

/-- An empty cell before the name moves all others to the left. -/
theorem argument?_eq_borderedArgument?_movedRow :
    isRow movedRow = true ∧ barsAfterStart movedRow = 1 ∧
      argument? movedRow ≠ borderedArgument? movedRow := by
  have known : isRow movedRow = true := by decide
  refine ⟨known, by decide, fun same => ?_⟩
  have kept := (argument?_eq_borderedArgument?_iff movedRow known).2.mp same
  exact absurd kept (by decide)

/-- Not every row is read between its border bars: an empty cell at the end is lost. -/
theorem not_forall_argument?_eq_borderedArgument? :
    ¬ ∀ row : Text, isRow row = true → argument? row = borderedArgument? row := by
  intro every
  exact absurd (every doubledRow (by decide)) (by decide)

end TechniquePages.Page.InputsTable
