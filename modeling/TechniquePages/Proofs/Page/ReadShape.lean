import TechniquePages.Proofs.Page.Acceptance
import TechniquePages.Proofs.Page.Printable
import TechniquePages.Proofs.Unicode.Lower

/-!
# The shape of what is read

A reader of marks takes its line apart from left to right, so what it finds is a
stretch of one line: a title holds a technique's number and a name, a test heading
a name, a field line platforms or a guid.  The kind of a scanned line says which
reader found it, so a technique that is read from a page has these parts in the
same shape.

Names are trimmed on the way.  The name of a technique is never empty; that of a
test may be.
-/

namespace TechniquePages.Page

open Text (IsTrimmed IsLine)
open Unicode (isBlank isDecimalDigit)

/-! ## Readers of marks -/

namespace Marker

theorem suffix_of_headingText?
    {level : Nat}
    {text rest : Text}
    (found : headingText? level text = some rest) :
    rest <:+ text := by
  simp only [headingText?, Option.bind_eq_bind, Option.bind_eq_some_iff] at found
  rcases found with ⟨after, marked, blanks⟩
  rw [Text.after?_eq_some_iff] at marked
  have below : after <:+ text := marked ▸ List.suffix_append _ _
  cases after with
  | nil => simp [afterBlanks?] at blanks
  | cons blank more =>
    rw [afterBlanks?] at blanks
    split at blanks
    · rw [← Option.some.inj blanks]
      exact ((List.dropWhile_suffix isBlank).trans (List.suffix_cons blank more)).trans below
    · cases blanks

theorem suffix_of_afterBlanks?
    {text rest : Text}
    (found : afterBlanks? text = some rest) :
    rest <:+ text := by
  cases text with
  | nil => simp [afterBlanks?] at found
  | cons blank more =>
    rw [afterBlanks?] at found
    split at found
    · rw [← Option.some.inj found]
      exact (List.dropWhile_suffix isBlank).trans (List.suffix_cons blank more)
    · cases found

/-- A number that is read is a number, and stands at the start of the text. -/
theorem digits?_eq_some
    {count : Nat}
    {text digits rest : Text}
    (found : digits? count text = some (digits, rest)) :
    IsNumber count digits ∧ text = digits ++ rest := by
  induction count generalizing text digits with
  | zero =>
    simp only [digits?, Option.some.injEq, Prod.mk.injEq] at found
    rcases found with ⟨rfl, rfl⟩
    exact ⟨⟨rfl, by simp⟩, rfl⟩
  | succ count hypothesis =>
    cases text with
    | nil => simp [digits?] at found
    | cons character more =>
      rw [digits?] at found
      split at found
      · rename_i decimal
        rcases Option.map_eq_some_iff.mp found with ⟨⟨others, after⟩, tail, same⟩
        simp only [Prod.mk.injEq] at same
        rcases same with ⟨rfl, rfl⟩
        rcases hypothesis tail with ⟨number, rfl⟩
        exact ⟨⟨by simp [number.length_eq], List.forall_mem_cons.mpr ⟨decimal, number.digits⟩⟩,
          rfl⟩
      · cases found

theorem techniqueDigits?_eq_some
    {text digits rest : Text}
    (found : techniqueDigits? text = some (digits, rest)) :
    IsIdentifier ('T' :: digits) ∧ text = digits ++ rest := by
  simp only [techniqueDigits?, Option.bind_eq_bind, Option.bind_eq_some_iff] at found
  rcases found with ⟨⟨main, more⟩, first, second⟩
  rcases digits?_eq_some first with ⟨number, rfl⟩
  simp only at second
  split at second
  · rename_i tail
    split at second
    · rename_i part after part_found
      rcases digits?_eq_some part_found with ⟨partNumber, rfl⟩
      simp only [Option.some.injEq, Prod.mk.injEq] at second
      rcases second with ⟨rfl, rfl⟩
      exact ⟨.divided number partNumber, by simp⟩
    · simp only [Option.some.injEq, Prod.mk.injEq] at second
      rcases second with ⟨rfl, rfl⟩
      exact ⟨.plain number, rfl⟩
  · simp only [Option.some.injEq, Prod.mk.injEq] at second
    rcases second with ⟨rfl, rfl⟩
    exact ⟨.plain number, rfl⟩

theorem identifier?_eq_some
    {text identifier rest : Text}
    (found : identifier? text = some (identifier, rest)) :
    IsIdentifier identifier ∧ rest <:+ text := by
  cases text with
  | nil => simp [identifier?] at found
  | cons letter more =>
    rw [identifier?] at found
    split at found
    · rcases Option.map_eq_some_iff.mp found with ⟨⟨digits, after⟩, inside, same⟩
      simp only [Prod.mk.injEq] at same
      rcases same with ⟨rfl, rfl⟩
      rcases techniqueDigits?_eq_some inside with ⟨known, rfl⟩
      exact ⟨known, (List.suffix_append _ _).trans (List.suffix_cons _ _)⟩
    · cases found

end Marker

/-- What is left of a stretch of one line is a line. -/
theorem isLine_trim
    {text stretch : Text}
    (single : '\n' ∉ text)
    (inside : stretch <:+ text) :
    IsLine stretch.trim :=
  ⟨Text.isTrimmed_trim stretch,
    fun member => single (inside.subset ((Text.trim_sublist stretch).subset member))⟩

/-- A title holds a technique's number and a name. -/
theorem Marker.title?_eq_some
    {text identifier name : Text}
    (single : '\n' ∉ text)
    (found : Marker.title? text = some (.title identifier name)) :
    IsIdentifier identifier ∧ IsLine name ∧ name ≠ [] := by
  simp only [Marker.title?, Option.bind_eq_bind, Option.bind_eq_some_iff] at found
  rcases found with ⟨rest, heading, ⟨number, more⟩, read, tail, dash, answer⟩
  rcases Marker.identifier?_eq_some read with ⟨known, suffix⟩
  rw [Text.after?_eq_some_iff] at dash
  have inside : tail <:+ text := by
    have afterDash : tail <:+ Text.trimStart more := dash ▸ List.suffix_append _ _
    exact ((afterDash.trans (List.dropWhile_suffix isBlank)).trans suffix).trans
      (Marker.suffix_of_headingText? heading)
  split at answer
  · cases answer
  · rename_i nonempty
    simp only [Option.some.injEq, LineKind.title.injEq] at answer
    rcases answer with ⟨rfl, rfl⟩
    exact ⟨known, isLine_trim single inside, by simpa using nonempty⟩

/-- A test heading holds a name, which may be empty. -/
theorem Marker.testHeading?_eq_some_name
    {text name : Text}
    (single : '\n' ∉ text)
    (found : Marker.testHeading? text = some (.testHeading name)) :
    IsLine name := by
  simp only [Marker.testHeading?, Marker.afterHeading?, Option.bind_eq_bind,
    Option.bind_eq_some_iff] at found
  rcases found with ⟨words, ⟨rest, heading, mark⟩, afterBlank, blanks, afterHash, hash,
    ⟨digit, afterDigit⟩, digits, more, moreBlanks, tail, dash, answer⟩
  rw [Text.after?_eq_some_iff] at mark hash dash
  have inside : tail <:+ text := by
    have first : words <:+ text :=
      (mark ▸ List.suffix_append _ _ : words <:+ rest).trans (Marker.suffix_of_headingText? heading)
    have second : afterHash <:+ words :=
      (hash ▸ List.suffix_append _ _ : afterHash <:+ afterBlank).trans
        (Marker.suffix_of_afterBlanks? blanks)
    have third : afterDigit <:+ afterHash :=
      (Marker.digits?_eq_some digits).2 ▸ List.suffix_append _ _
    have fourth : tail <:+ afterDigit :=
      ((dash ▸ List.suffix_append _ _ : tail <:+ more).trans
        (Marker.suffix_of_afterBlanks? moreBlanks)).trans (List.dropWhile_suffix isDecimalDigit)
    exact ((fourth.trans third).trans second).trans first
  split at answer
  · rename_i blank stretch
    split at answer
    · simp only [Option.some.injEq, LineKind.testHeading.injEq] at answer
      rw [← answer]
      exact isLine_trim single ((List.suffix_cons _ _).trans inside)
    · cases answer
  · cases answer

/-- The field line of platforms holds their names. -/
theorem Marker.platforms?_eq_some
    {text names : Text}
    (found : Marker.platforms? text = some (.platforms names)) :
    names ⊆ text := by
  simp only [Marker.platforms?, Option.bind_eq_bind, Option.bind_eq_some_iff,
    Option.some.injEq, LineKind.platforms.injEq] at found
  rcases found with ⟨rest, mark, rfl⟩
  rw [Text.after?_eq_some_iff] at mark
  exact fun _ member =>
    mark ▸ List.mem_append_right _ ((Text.trim_sublist rest).subset member)

theorem Marker.hexGroups?_eq_some
    {lengths : List Nat}
    {text value rest : Text}
    (found : Marker.hexGroups? lengths text = some (value, rest)) :
    ∃ groups : List Text, groups.map List.length = lengths ∧
      (∀ group ∈ groups, ∀ character ∈ group, Marker.isHexDigit character = true) ∧
        value = Text.joinWith ['-'] groups := by
  induction lengths generalizing text value rest with
  | nil => simp [Marker.hexGroups?] at found
  | cons length more hypothesis =>
    cases more with
    | nil =>
      rw [Marker.hexGroups?] at found
      split at found
      · rename_i fits
        simp only [Bool.and_eq_true, decide_eq_true_eq, List.all_eq_true] at fits
        simp only [Option.some.injEq, Prod.mk.injEq] at found
        exact ⟨[value], by simp [← found.1, fits.1], by simpa [← found.1] using fits.2, rfl⟩
      · cases found
    | cons next others =>
      rw [Marker.hexGroups?] at found
      split at found
      · rename_i fits
        simp only [Bool.and_eq_true, decide_eq_true_eq, List.all_eq_true] at fits
        split at found
        · rcases Option.map_eq_some_iff.mp found with ⟨⟨groups, after⟩, inside, same⟩
          simp only [Prod.mk.injEq] at same
          rcases hypothesis inside with ⟨pieces, lengths, digits, rfl⟩
          have written : pieces ≠ [] := by
            rintro rfl
            simp at lengths
          refine ⟨text.take length :: pieces, by simp [fits.1, lengths],
            List.forall_mem_cons.mpr ⟨fits.2, digits⟩, ?_⟩
          rw [Text.joinWith_cons_of_ne_nil _ _ written, ← same.1]
          simp
        · cases found
      · cases found

/-- The field line of a guid holds one. -/
theorem Marker.guid?_eq_some
    {text value : Text}
    (found : Marker.guid? text = some (.guid value)) :
    IsGuid value := by
  simp only [Marker.guid?, Option.bind_eq_bind, Option.bind_eq_some_iff] at found
  rcases found with ⟨rest, -, ⟨groups, after⟩, read, answer⟩
  split at answer
  · simp only [Option.some.injEq, LineKind.guid.injEq] at answer
    exact answer ▸ Marker.hexGroups?_eq_some read
  · cases answer

/-! ## Kinds and their readers -/

/-- The kind of a line is what its reader finds. -/
theorem form_of_classify
    {text : Text}
    {form : Text → Option LineKind}
    (known : (classify text).form? = some form) :
    form text = some (classify text) := by
  rcases classify_cases text with ⟨other, member, found⟩ | ⟨level, heading⟩ | prose
  · have same := form?_of_mem_forms member found
    rw [known] at same
    exact Option.some.inj same ▸ found
  · rw [heading] at known
    cases known
  · rw [prose] at known
    cases known

/-- A scanned line has a marked kind because its reader finds that kind. -/
theorem form_of_mem_scanFrom
    {number : Nat}
    {texts : List Text}
    {line : Line}
    (member : line ∈ scanFrom number none texts)
    {kind : LineKind}
    (marked : line.kind = kind)
    {form : Text → Option LineKind}
    (known : kind.form? = some form) :
    form line.text = some kind := by
  subst marked
  have scanned := scanned_scanFrom number texts
  generalize scanFrom number none texts = lines at scanned member
  induction scanned with
  | nil number => simp at member
  | line unfenced following hypothesis =>
    rcases List.mem_cons.mp member with rfl | later
    · exact form_of_classify known
    · exact hypothesis later
  | unclosed fenced endless following hypothesis =>
    rcases List.mem_cons.mp member with rfl | later
    · cases known
    · exact hypothesis later
  | block fenced plain ends following hypothesis =>
    rw [List.mem_cons, List.mem_append, List.mem_cons] at member
    rcases member with rfl | code | rfl | later
    · cases known
    · rw [kind_of_mem_codeLines code] at known
      cases known
    · cases known
    · exact hypothesis later

/-! ## Parts of a page -/

theorem newline_not_mem_of_mem_scan
    {page : Text}
    {line : Line}
    (member : line ∈ scan page) :
    '\n' ∉ line.text := by
  have inTexts : line.text ∈ (scan page).map Line.text := List.mem_map_of_mem member
  rw [scan, map_text_scanFrom] at inTexts
  exact Text.newline_not_mem_of_mem_lines inTexts

/-- A section begins at a test heading with its name, and its lines are lines of the page. -/
theorem exists_of_mem_sections
    {lines : List Line}
    {part : Section}
    (member : part ∈ sections lines) :
    (∃ line ∈ lines, line.kind = .testHeading part.name) ∧ part.body ⊆ lines := by
  have preambleInside : ∀ lines : List Line, (divide lines).1 ⊆ lines := by
    intro lines
    induction lines with
    | nil => simp
    | cons line rest hypothesis =>
      rw [divide]
      cases line.kind.testName? with
      | none => exact List.cons_subset_cons line hypothesis
      | some name => simp
  induction lines with
  | nil => simp [sections] at member
  | cons line rest hypothesis =>
    rw [sections, divide] at member
    cases named : line.kind.testName? with
    | none =>
      rw [named] at member
      rcases hypothesis member with ⟨⟨heading, inRest, kind⟩, inside⟩
      exact ⟨⟨heading, List.mem_cons_of_mem _ inRest, kind⟩,
        List.Subset.trans inside (List.subset_cons_self line rest)⟩
    | some name =>
      rw [named] at member
      rcases List.mem_cons.mp member with rfl | later
      · refine ⟨⟨line, List.mem_cons_self .., ?_⟩,
          List.Subset.trans (preambleInside rest) (List.subset_cons_self line rest)⟩
        cases kind : line.kind with
        | testHeading other =>
          rw [kind] at named
          exact congrArg LineKind.testHeading (Option.some.inj named)
        | _ => simp [kind, LineKind.testName?] at named
      · rcases hypothesis later with ⟨⟨heading, inRest, kind⟩, inside⟩
        exact ⟨⟨heading, List.mem_cons_of_mem _ inRest, kind⟩,
          List.Subset.trans inside (List.subset_cons_self line rest)⟩

theorem Line.exists_of_first?_eq_some
    {α : Type}
    {answer? : LineKind → Option α}
    {lines : List Line}
    {answer : α}
    (found : Line.first? answer? lines = some answer) :
    ∃ line ∈ lines, answer? line.kind = some answer := by
  rcases Option.map_eq_some_iff.mp found with ⟨⟨same, rest⟩, first, rfl⟩
  rcases (Line.afterFirst?_eq_some_iff _ _ _ _).mp first with ⟨before, line, rfl, -, known⟩
  exact ⟨line, by simp, known⟩

theorem Platform.newline_not_mem_of_mem_known
    {entry : String × String}
    (member : entry ∈ known) :
    '\n' ∉ entry.1.toList ∧ '\n' ∉ entry.2.toList := by
  simp only [known, List.mem_cons, List.not_mem_nil, or_false] at member
  rcases member with rfl | rfl | rfl | rfl | rfl | rfl | rfl | rfl | rfl | rfl | rfl | rfl | rfl <;>
    decide

/-- A list of platforms on one line is written on one line again. -/
theorem Platform.newline_not_mem_writeList_readList
    {names : Text}
    (single : '\n' ∉ names) :
    '\n' ∉ writeList (readList names) := by
  have ofToken : ∀ name : Text, '\n' ∉ name → '\n' ∉ token name := by
    intro name absent
    rw [token]
    split
    · rename_i entry found
      exact newline_not_mem_of_mem_known (List.mem_of_find?_eq_some found) |>.2
    · intro member
      rcases Unicode.mem_lower member with inside | above
      · exact absent inside
      · exact absurd above (by decide)
  have ofDisplay : ∀ name : Text, '\n' ∉ name → '\n' ∉ display name := by
    intro name absent
    unfold display
    split
    · rename_i entry found
      exact newline_not_mem_of_mem_known (List.mem_of_find?_eq_some found) |>.1
    · cases name with
      | nil => simp
      | cons first rest =>
        rw [List.mem_cons, not_or] at absent
        simp only [List.mem_append, not_or]
        refine ⟨fun member => ?_, absent.2⟩
        rcases Unicode.mem_upperCharacter member with same | above
        · exact absent.1 same
        · exact absurd above (by decide)
  intro member
  rcases Text.mem_joinWith member with separator | ⟨shown, inShown, inside⟩
  · exact absurd separator (by decide)
  · rcases List.mem_map.mp inShown with ⟨source, inTokens, rfl⟩
    rcases List.mem_map.mp inTokens with ⟨name, inNames, rfl⟩
    rcases List.mem_map.mp (List.mem_filter.mp inNames).1 with ⟨piece, inPieces, rfl⟩
    refine ofDisplay _ (ofToken _ fun present => ?_) inside
    exact single (Text.subset_of_mem_cutAt inPieces ((Text.trim_sublist piece).subset present))

end TechniquePages.Page

namespace TechniquePages

open Page
open Text (IsLine)

/-- A test as a page gives it: its name, its platforms and its guid each stand on one line. -/
structure AtomicTest.IsRead (test : AtomicTest) : Prop where
  name : IsLine test.name
  platforms : '\n' ∉ Platform.writeList test.platforms
  guid : ∀ guid ∈ test.guid, IsGuid guid

/-- A technique as a page gives it. -/
structure Technique.IsRead (technique : Technique) : Prop where
  identifier : IsIdentifier technique.identifier
  name : IsLine technique.name
  named : technique.name ≠ []
  tests : ∀ test ∈ technique.tests, test.IsRead

namespace Page

theorem isRead_of_section_read
    {page : Text}
    {part : Section}
    (member : part ∈ sections (scan page))
    {test : AtomicTest}
    (known : part.read = .ok test) :
    test.IsRead := by
  rcases exists_of_mem_sections member with ⟨⟨heading, inPage, kind⟩, inside⟩
  have single : ∀ line ∈ scan page, '\n' ∉ line.text := fun _ => newline_not_mem_of_mem_scan
  rcases Section.exists_executor_of_read known with ⟨executor, -, rfl⟩
  refine ⟨?_, ?_, ?_⟩
  · have found := form_of_mem_scanFrom inPage kind rfl
    exact Marker.testHeading?_eq_some_name (single heading inPage) found
  · rw [Section.test, Section.platforms]
    cases first : Line.first? LineKind.platforms? part.body with
    | none => simp [Platform.writeList]
    | some names =>
      rcases Line.exists_of_first?_eq_some first with ⟨line, inBody, answer⟩
      refine Platform.newline_not_mem_writeList_readList fun present => ?_
      have listed : line.kind = .platforms names := by
        cases shape : line.kind <;> simp [shape, LineKind.platforms?] at answer
        rw [answer]
      have found := form_of_mem_scanFrom (inside inBody) listed rfl
      exact single line (inside inBody) (Marker.platforms?_eq_some found present)
  · intro value present
    rcases Line.exists_of_first?_eq_some present with ⟨line, inBody, answer⟩
    have identified : line.kind = .guid value := by
      cases shape : line.kind <;> simp [shape, LineKind.guid?] at answer
      rw [answer]
    have found := form_of_mem_scanFrom (inside inBody) identified rfl
    exact Marker.guid?_eq_some found

/-- What is read from a page has the shape of it. -/
theorem isRead_of_read
    {page : Text}
    {technique : Technique}
    (known : read page = .ok technique) :
    technique.IsRead := by
  rcases read_eq_ok known with ⟨first, -, readable⟩
  rcases Line.exists_of_first?_eq_some first with ⟨line, inPage, answer⟩
  have titled : line.kind = .title technique.identifier technique.name := by
    cases shape : line.kind <;> simp [shape, LineKind.title?] at answer
    rw [answer.1, answer.2]
  have found := form_of_mem_scanFrom inPage titled rfl
  rcases Marker.title?_eq_some (newline_not_mem_of_mem_scan inPage) found with
    ⟨number, onLine, nonempty⟩
  refine ⟨number, onLine, nonempty, fun test member => ?_⟩
  rcases exists_section_of_mem readable member with ⟨part, inside, ofPart⟩
  exact isRead_of_section_read inside ofPart

end Page

end TechniquePages
