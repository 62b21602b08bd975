import TechniquePages.Proofs.Page.TableInk
import TechniquePages.Proofs.Technique.ArgumentRuns

/-!
# Names that repeat

The reader of a keyed record and the reader of a table both insert the arguments that
they find, in the order in which these are written.  So an object that repeats a key
and a table that repeats a name are settled alike: every name keeps the place of its
first argument and has the value of its last one, however the members and the rows
are spelled.
-/

namespace TechniquePages

open Json

namespace Arguments

/-! ## Records -/

/-- The members of an object that name arguments and hold their details, in document order. -/
inductive AreHeld (budget : Nat) : Members → List Argument → Prop
  | closed : AreHeld budget (.stop .closed) []
  | member
    {name : Text}
    {skipped : Except Fault Unit}
    {value : Source}
    {tail : Members}
    {draft : ArgumentDraft}
    {argument : Argument}
    {rest : List Argument}
    (details : readOr .blank ArgumentDraft.keyedShape.read budget value = .ok draft)
    (named : draft.named name = argument)
    (later : AreHeld budget tail rest) :
    AreHeld budget (.member (.ok name) skipped value tail) (argument :: rest)

/-- The members of an object are inserted one after the other. -/
theorem AreHeld.readKeyedArguments_eq
    {budget : Nat}
    {members : Members}
    {entries : List Argument}
    (held : AreHeld budget members entries)
    (start : Arguments) :
    readKeyedArguments budget start members = .ok (entries.foldl insert start) := by
  induction held generalizing start with
  | closed => rfl
  | member details named later hypothesis =>
    rw [readKeyedArguments]
    simp only [details, named, hypothesis, List.foldl_cons]

/-- A text that is an object whose members hold the arguments, and nothing after it. -/
def IsRecordOf (entries : List Argument) (text : Text) : Prop :=
  ∃ members rest, Source.read text = (.object members, rest) ∧ dropSpace rest = [] ∧
    AreHeld (depthLimit - 1) members entries

theorem ofRecord_of_isRecordOf
    {entries : List Argument}
    {text : Text}
    (written : IsRecordOf entries text) :
    ofRecord text = .ok ⟨.keyed, settled entries⟩ := by
  rcases written with ⟨members, rest, known, ending, held⟩
  have read : readArguments depthLimit (.object members) = .ok ⟨.keyed, settled entries⟩ := by
    rw [← foldl_insert_empty]
    exact held.readKeyedArguments_eq .empty
  rw [ofRecord, readAll, known]
  simp [read, ending]

theorem areHeld_sourceMembers (budget : Nat) (entries : List Argument) :
    AreHeld (budget + 1)
      (sourceMembers (entries.map fun argument =>
        (argument.name, .object argument.detailMembers))) entries := by
  induction entries with
  | nil => exact .closed
  | cons argument rest hypothesis =>
    rcases read_details budget argument with ⟨draft, details, named⟩
    exact .member details named hypothesis

/-- The object with the members in order is such a text, whatever blanks it is laid out with. -/
theorem isRecordOf_writeAt
    {layout : Layout}
    (blank : layout.IsBlank)
    (entries : List Argument)
    {rest : Text}
    (spaces : IsBlank rest) :
    IsRecordOf entries (writeAt layout 0 (toJson ⟨.keyed, entries⟩) ++ rest) := by
  exact ⟨_, rest, read_writeAt blank (isNumberFree_arguments _) 0 rest,
    List.dropWhile_eq_nil_iff.mpr spaces, areHeld_sourceMembers 125 entries⟩

end Arguments

namespace Page

open Arguments (settled)

/-! ## Tables -/

/-- The first inputs heading has a table below it: titles, rules and the rows. -/
inductive Section.HoldsTable (rows : List Text) : List Line → Prop
  | below
    {before table : List Line}
    {heading : Line}
    {titles rule : Text}
    {rest : List Text}
    (first : ∀ line ∈ before, line.kind ≠ .inputsHeading)
    (kind : heading.kind = .inputsHeading)
    (texts : table.map Line.text = titles :: rule :: (rows ++ rest))
    (titled : InputsTable.isRow titles = true)
    (ruled : InputsTable.isRule rule = true)
    (ends : ∀ text ∈ rest.head?, InputsTable.isRow text = false) :
    HoldsTable rows (before ++ heading :: table)

theorem Section.arguments_of_holdsTable
    {entries : List Argument}
    {rows : List Text}
    (written : List.Forall₂ InputsTable.IsRowOf entries rows)
    {body : List Line}
    (held : Section.HoldsTable rows body) :
    Section.arguments body = ⟨.keyed, settled entries⟩ := by
  cases held with
  | @below before table heading titles rule rest first kind texts titled ruled ends =>
    have found : Line.after? .inputsHeading (before ++ heading :: table) = some table := by
      rw [Line.after?, (Line.afterFirst?_eq_some_iff _ _ () table).mpr
        ⟨before, heading, rfl, fun line member => if_neg (first line member), if_pos kind⟩]
      rfl
    rw [Section.arguments, Section.inputTexts?, found, Option.map_some, Option.map_some, texts,
      Option.getD_some, InputsTable.arguments_of_isRowOf written titled ruled ends,
      Arguments.foldl_insert_empty]

/-- The row that is written for an argument is one of its rows, if nothing in it is special. -/
theorem InputsTable.isRowOf_row_of_free
    {argument : Argument}
    (filled : argument.IsFilled)
    (free : ∀ text ∈ argument.texts, '|' ∉ text ∧ '\n' ∉ text ∧ '&' ∉ text) :
    IsRowOf argument (row argument) := by
  refine isRowOf_row (Argument.isPrintable_of_isCell filled fun text member => ?_)
  rcases free text member with ⟨unbarred, single, unreferenced⟩
  have trimmed : Text.IsTrimmed text := by
    rcases List.mem_cons.mp member with rfl | detail
    · exact filled.name
    · exact (filled.details text detail).1
  exact ⟨⟨trimmed, single⟩, unbarred, Html.decode_eq_self text unreferenced⟩

/--
Names that repeat are settled by insertion: each keeps its first place and its last
argument, and that one is found.  An object with these arguments for members and a
table with them for rows are both read as the settled ones.
-/
theorem repeated_names_settle (entries : List Argument) :
    (entries.foldl Arguments.insert .empty = ⟨.keyed, settled entries⟩ ∧
        (settled entries).map Argument.name = Arguments.firstNames entries ∧
          ∀ name, (entries.foldl Arguments.insert .empty).get? name =
            Arguments.last? entries name) ∧
      ((∀ text, Arguments.IsRecordOf entries text →
          Arguments.ofRecord text = .ok ⟨.keyed, settled entries⟩) ∧
        ∀ (layout : Layout) (rest : Text), layout.IsBlank → IsBlank rest →
          Arguments.IsRecordOf entries
            (writeAt layout 0 (Arguments.toJson ⟨.keyed, entries⟩) ++ rest)) ∧
      (∀ (rows : List Text) (part : Section), List.Forall₂ InputsTable.IsRowOf entries rows →
          Section.HoldsTable rows part.body →
            Section.arguments part.body = ⟨.keyed, settled entries⟩ ∧
              ∀ test, part.read = .ok test → test.arguments = ⟨.keyed, settled entries⟩) ∧
        ((∀ argument ∈ entries, argument.IsFilled ∧
            ∀ text ∈ argument.texts, '|' ∉ text ∧ '\n' ∉ text ∧ '&' ∉ text) →
          List.Forall₂ InputsTable.IsRowOf entries (entries.map InputsTable.row)) := by
  have found : ∀ name, (entries.foldl Arguments.insert .empty).get? name =
      Arguments.last? entries name := by
    intro name
    rw [Arguments.foldl_insert_empty, Arguments.get?_settled]
  refine ⟨⟨Arguments.foldl_insert_empty entries, Arguments.map_name_settled entries, found⟩,
    ⟨fun _ => Arguments.ofRecord_of_isRecordOf, fun _ _ blank spaces =>
      Arguments.isRecordOf_writeAt blank entries spaces⟩, ?_, ?_⟩
  · intro rows part written held
    have read := Section.arguments_of_holdsTable written held
    refine ⟨read, fun test known => ?_⟩
    rcases Section.exists_executor_of_read known with ⟨executor, -, rfl⟩
    exact read
  · intro free
    rw [List.forall₂_map_right_iff, List.forall₂_same]
    exact fun argument member =>
      InputsTable.isRowOf_row_of_free (free argument member).1 (free argument member).2

/-- Three arguments, of which the first and the last have one name. -/
def renamed : List Argument := [
  ⟨"x".toList, some "first".toList, none, some "1".toList⟩,
  ⟨"y".toList, none, none, none⟩,
  ⟨"x".toList, none, some "string".toList, some "2".toList⟩]

/-- Their rows, each spelled in its own way. -/
def renamedRows : List Text :=
  ["|x|first| |1|".toList, "| y |  |  |  |".toList, " | x | | string | 2 | ".toList]

/-- A table of these rows, above a command. -/
def renamedTable : Section where
  name := "Named".toList
  body := [
    ⟨3, "#### Inputs:".toList, .inputsHeading⟩,
    ⟨4, "| Name | Description | Type | Default Value |".toList, .prose⟩,
    ⟨5, "|------|-------------|------|---------------|".toList, .prose⟩,
    ⟨6, "|x|first| |1|".toList, .prose⟩,
    ⟨7, "| y |  |  |  |".toList, .prose⟩,
    ⟨8, " | x | | string | 2 | ".toList, .prose⟩,
    ⟨9, "#### Attack Commands: Run with `sh`!".toList, .commandHeading "sh".toList false⟩,
    ⟨10, "```sh".toList, .fenceOpen "sh".toList true⟩,
    ⟨11, "id".toList, .code⟩,
    ⟨12, "```".toList, .fenceClose⟩]

theorem isRowOf_renamedRows : List.Forall₂ InputsTable.IsRowOf renamed renamedRows := by
  refine .cons ⟨⟨["x".toList, "first".toList, " ".toList, "1".toList], ?_⟩, by decide⟩ <|
    .cons ⟨⟨[" y ".toList, "  ".toList, "  ".toList, "  ".toList], ?_⟩, by decide⟩ <|
      .cons ⟨⟨[" x ".toList, " ".toList, " string ".toList, " 2 ".toList], ?_⟩, by decide⟩ .nil
  all_goals decide

theorem holdsTable_renamedTable : Section.HoldsTable renamedRows renamedTable.body := by
  have empty : ∀ line ∈ ([] : List Line), line.kind ≠ .inputsHeading := by simp
  exact .below empty rfl rfl (by decide) (by decide) (by decide)

/-- The last `x` stands in the place of the first, in the object as in the table. -/
theorem repeated_names_settle_renamed :
    settled renamed = [
        ⟨"x".toList, none, some "string".toList, some "2".toList⟩,
        ⟨"y".toList, none, none, none⟩] ∧
      Arguments.ofRecord (writeAt .tight 0 (Arguments.toJson ⟨.keyed, renamed⟩)) =
        .ok ⟨.keyed, settled renamed⟩ ∧
      List.Forall₂ InputsTable.IsRowOf renamed (renamed.map InputsTable.row) ∧
        ∃ test, renamedTable.read = .ok test ∧ test.arguments = ⟨.keyed, settled renamed⟩ ∧
          test.arguments.get? "x".toList =
            some ⟨"x".toList, none, some "string".toList, some "2".toList⟩ := by
  rcases repeated_names_settle renamed with
    ⟨⟨inserted, -, found⟩, ⟨records, written⟩, tables, plain⟩
  have record := records _ (written .tight [] isBlank_tight (by simp [IsBlank]))
  have read := tables _ renamedTable isRowOf_renamedRows holdsTable_renamedTable
  have free : ∀ argument ∈ renamed, argument.IsFilled ∧
      ∀ text ∈ argument.texts, '|' ∉ text ∧ '\n' ∉ text ∧ '&' ∉ text := by
    have filled : ∀ argument ∈ renamed, Text.IsTrimmed argument.name ∧
        ∀ text ∈ argument.details, Text.IsTrimmed text ∧ text ≠ [] := by decide
    have unmarked : ∀ argument ∈ renamed, ∀ text ∈ argument.texts,
        '|' ∉ text ∧ '\n' ∉ text ∧ '&' ∉ text := by decide
    exact fun argument member =>
      ⟨⟨(filled argument member).1, (filled argument member).2⟩, unmarked argument member⟩
  refine ⟨by decide, by simpa using record, plain free, ?_⟩
  have known : ∃ test, renamedTable.read = .ok test := ⟨_, rfl⟩
  rcases known with ⟨test, known⟩
  refine ⟨test, known, read.2 test known, ?_⟩
  rw [read.2 test known, ← inserted, found]
  decide

end Page

end TechniquePages
