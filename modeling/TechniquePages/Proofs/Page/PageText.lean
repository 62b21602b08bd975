import TechniquePages.Proofs.Page.Renumbering
import TechniquePages.Proofs.Text.Lines

/-!
# The text of a page

A scan looks at the lines of a page and at nothing else of its text.  So the line
ends of a page may be written with one character or with two, and a page that is
made of whole lines may be scanned in two parts, if the first part closes its own
fences.

Both facts come from cutting a text after its first line feed: what stands before
it is one line, and the rest has the remaining lines.
-/

namespace TechniquePages

namespace Text

/-! ## Line ends of two characters -/

/-- The text with a carriage return before every line feed. -/
def withReturns (text : Text) : Text :=
  text.flatMap fun character => if character = '\n' then ['\r', '\n'] else [character]

/-- A text is one line, or a line with its line feed and a text below it. -/
@[elab_as_elim]
theorem lineInduction
    {motive : Text → Prop}
    (last : ∀ text, '\n' ∉ text → motive text)
    (ended : ∀ front back, '\n' ∉ front → motive back → motive (front ++ '\n' :: back))
    (text : Text) :
    motive text := by
  -- The first line may have any length, so the induction is on that of the text.
  induction size : text.length using Nat.strongRecOn generalizing text with
  | ind size hypothesis =>
    subst size
    by_cases feeds : '\n' ∈ text
    · rcases List.eq_append_cons_of_mem feeds with ⟨front, back, rfl, single⟩
      refine ended front back single (hypothesis back.length ?_ back rfl)
      simp only [List.length_append, List.length_cons]
      omega
    · exact last text feeds

theorem withReturns_eq_self
    {text : Text}
    (single : '\n' ∉ text) :
    withReturns text = text := by
  have kept : ∀ character ∈ text,
      (if character = '\n' then ['\r', '\n'] else [character]) = [character] :=
    fun character member => if_neg fun (lineFeed : character = '\n') => single (lineFeed ▸ member)
  rw [withReturns, List.flatMap_congr kept]
  exact List.flatMap_singleton' text

theorem withReturns_append_lineFeed
    {front : Text}
    (single : '\n' ∉ front)
    (back : Text) :
    withReturns (front ++ '\n' :: back) = (front ++ ['\r']) ++ '\n' :: withReturns back := by
  have first := withReturns_eq_self single
  unfold withReturns at first ⊢
  rw [List.flatMap_append, first, List.flatMap_cons]
  simp

/-- What stands before the first line feed is a line. -/
theorem lines_cons_lineFeed
    {front : Text}
    (single : '\n' ∉ front)
    (back : Text) :
    lines (front ++ '\n' :: back) = dropFinalReturn front :: lines back := by
  rw [lines_append_lineFeed, cutAt_eq_singleton single]
  rfl

theorem isReturnFree_of_not_mem_lineFeed
    {text : Text}
    (single : '\n' ∉ text) :
    IsReturnFree text :=
  fun returns => single (returns.subset (by simp))

theorem isReturnFree_of_not_mem_return
    {text : Text}
    (free : '\r' ∉ text) :
    IsReturnFree text :=
  fun returns => free (returns.subset (by simp))

/-- A line end of two characters ends the first line or stands below it. -/
theorem isReturnFree_append_lineFeed_iff
    {front : Text}
    (single : '\n' ∉ front)
    (back : Text) :
    IsReturnFree (front ++ '\n' :: back) ↔
      front.getLast? ≠ some '\r' ∧ IsReturnFree back := by
  constructor
  · intro free
    refine ⟨fun returned => free ?_, fun returns => free ?_⟩
    · rcases List.getLast?_eq_some_iff.mp returned with ⟨before, rfl⟩
      exact ⟨before, back, by simp⟩
    · exact returns.trans ⟨front ++ ['\n'], [], by simp⟩
  · rintro ⟨unreturned, free⟩ ⟨before, after, whole⟩
    -- The line feed is the first one of the text, or it stands below that.
    rw [List.append_assoc] at whole
    rcases List.append_eq_append_iff.mp whole with ⟨gap, rfl, below⟩ | ⟨gap, rfl, below⟩
    · rcases gap with _ | ⟨first, _ | ⟨second, more⟩⟩
      · simp at below
      · have same : '\r' = first := (List.cons.inj below).1
        exact unreturned (by simp [← same])
      · have same : '\n' = second := (List.cons.inj (List.cons.inj below).2).1
        exact single (by simp [← same])
    · cases gap with
      | nil => simp at below
      | cons first more =>
        have later : back = more ++ (['\r', '\n'] ++ after) := (List.cons.inj below).2
        exact free ⟨more, after, by simp [later]⟩

/-- Exactly the texts without line ends of two characters keep their lines when they get them. -/
theorem lines_withReturns_eq_iff (text : Text) :
    lines (withReturns text) = lines text ↔ IsReturnFree text := by
  induction text using lineInduction with
  | last text single =>
    rw [withReturns_eq_self single]
    exact iff_of_true rfl (isReturnFree_of_not_mem_lineFeed single)
  | ended front back single hypothesis =>
    have returned : '\n' ∉ front ++ ['\r'] := by simpa using single
    have line : front = dropFinalReturn front ↔ front.getLast? ≠ some '\r' :=
      ⟨fun same last => dropFinalReturn_ne_self last same.symm,
        fun unreturned => (dropFinalReturn_eq_self unreturned).symm⟩
    rw [withReturns_append_lineFeed single, lines_cons_lineFeed returned,
      dropFinalReturn_append_return, lines_cons_lineFeed single, List.cons.injEq, hypothesis, line,
      isReturnFree_append_lineFeed_iff single]

/-! ## Whole lines -/

/-- The text has no lines, or its last line has its line feed. -/
def IsWhole (text : Text) : Prop :=
  text = [] ∨ text.getLast? = some '\n'

instance (text : Text) : Decidable (IsWhole text) :=
  inferInstanceAs (Decidable (_ ∨ _))

/-- Below whole lines a text keeps its own. -/
theorem lines_append_of_isWhole
    {front : Text}
    (whole : IsWhole front)
    (back : Text) :
    lines (front ++ back) = lines front ++ lines back := by
  rcases whole with rfl | ended
  · rfl
  · rcases List.getLast?_eq_some_iff.mp ended with ⟨above, rfl⟩
    rw [List.append_assoc, List.singleton_append, lines_append_lineFeed, lines_append_lineFeed,
      lines_nil, List.append_nil]

end Text

namespace Page

/-! ## The scan of a page -/

/-- Exactly the pages without line ends of two characters keep their scan when they get them. -/
theorem scan_withReturns_eq_iff (page : Text) :
    scan page.withReturns = scan page ↔ page.IsReturnFree := by
  rw [← Text.lines_withReturns_eq_iff]
  constructor
  · intro same
    have texts := congrArg (List.map Line.text) same
    rwa [scan, scan, map_text_scanFrom, map_text_scanFrom] at texts
  · intro same
    rw [scan, scan, same]

/--
Line ends do not matter.  A page without carriage returns has the same scan when each of
its lines is ended by two characters, and it makes the same technique or the same fault.
-/
theorem read_with_either_line_end
    (page : Text)
    (free : '\r' ∉ page) :
    scan page.withReturns = scan page ∧ read page.withReturns = read page := by
  have same : scan page.withReturns = scan page :=
    (scan_withReturns_eq_iff page).mpr (Text.isReturnFree_of_not_mem_return free)
  exact ⟨same, by rw [read, read, same]⟩

/-- A page with a command of three lines; its last line has no line feed. -/
def threeLinePage : Text :=
  "# T1059 - Shell\n\n## Atomic Test #1 - Lines\n".toList ++
    "#### Attack Commands: Run with `sh`!\n```sh\nid\n\n whoami\n```".toList

/-- The command of `threeLinePage` is the same with either line end. -/
theorem read_with_either_line_end_threeLinePage :
    '\r' ∉ threeLinePage ∧
      scan threeLinePage.withReturns = scan threeLinePage ∧
      read threeLinePage.withReturns = read threeLinePage ∧
      (read threeLinePage).map (fun technique => technique.tests.map (·.executor.procedure)) =
        .ok ["id\n\n whoami".toList] :=
  have free : '\r' ∉ threeLinePage := by decide
  have same := read_with_either_line_end threeLinePage free
  ⟨free, same.1, same.2, by decide⟩

/--
Scanning is compositional.  Whole lines whose fences are closed are scanned by themselves,
and what stands below them is scanned by itself with later numbers.
-/
theorem scan_append_of_isWhole
    (front back : Text)
    (whole : front.IsWhole)
    (closed : ∀ line ∈ scan front, line.kind.isUnclosed = false) :
    scan (front ++ back) =
      scan front ++ (scan back).map (Line.renumber (· + front.lines.length)) := by
  have parts : (front ++ back).lines = front.lines ++ back.lines :=
    Text.lines_append_of_isWhole whole back
  calc scan (front ++ back)
      = scanFrom 1 none (front.lines ++ back.lines) := by rw [scan, parts]
    _ = scan front ++ scanFrom (1 + front.lines.length) none back.lines :=
        scanFrom_append closed 1 back.lines
    _ = scan front ++ (scan back).map (Line.renumber (· + front.lines.length)) := by
        rw [scanFrom_add, scan, scan]

/-- A block that holds a title and ends in a fence with a blank before it and words behind it. -/
def closedPart : Text :=
  "```sh\n# T1000 - Code\n ``` end\n".toList

/-- Below `closedPart` a fence opens a block of its own. -/
theorem scan_append_of_isWhole_closedPart :
    closedPart.IsWhole ∧
      (∀ line ∈ scan closedPart, line.kind.isUnclosed = false) ∧
      scan (closedPart ++ "```\nid\n```\n".toList) =
        [⟨1, "```sh".toList, .fenceOpen "sh".toList true⟩, ⟨2, "# T1000 - Code".toList, .code⟩,
          ⟨3, " ``` end".toList, .fenceClose⟩, ⟨4, "```".toList, .fenceOpen [] true⟩,
          ⟨5, "id".toList, .code⟩, ⟨6, "```".toList, .fenceClose⟩] :=
  have whole : closedPart.IsWhole := by decide
  have closed : ∀ line ∈ scan closedPart, line.kind.isUnclosed = false := by decide
  ⟨whole, closed, (scan_append_of_isWhole _ _ whole closed).trans (by decide)⟩

/-- A fence that is left open may find its end below. -/
example :
    scan ("```\n".toList ++ "```\n".toList) ≠
      scan "```\n".toList ++ (scan "```\n".toList).map (Line.renumber (· + 1)) := by
  decide

end Page

end TechniquePages
