import TechniquePages.Proofs.Html.Decoding
import TechniquePages.Proofs.Page.FencedCode

/-!
# Free text and executors

Free text is read up to the next heading that ends it, and blank lines and line
breaks at its end are dropped.  An executor is read from its heading on: either
free text, or one block of code and, below a cleanup heading, another one.

What is read is what was written, with commands decoded, as long as nothing but
fillers stands before the next heading and no other cleanup heading follows.
-/

namespace TechniquePages.Page

open Text (IsTrimmed IsReturnFree IsLine linesOf)
open Unicode (isBlank)

/-! ## Free text -/

/-- What is known of the lines of free text is known of its pieces, wherever they stand. -/
theorem IsFreeText.forall_kind
    {text : Text}
    (free : IsFreeText text)
    (property : LineKind → Prop)
    (prose : property .prose)
    (known : ∀ line ∈ scan text, property line.kind)
    (number : Nat) :
    ∀ line ∈ scanFrom number none (Text.cutAt '\n' text), property line.kind := by
  cases text with
  | nil =>
    have scanned : scanFrom number none (Text.cutAt '\n' []) = [⟨number, [], .prose⟩] :=
      hasKind_nil.scanFrom_cons number []
    rw [scanned]
    simpa using prose
  | cons first rest =>
    rw [scan, Text.lines_eq_cutAt free.trimmed free.returnFree (by simp)] at known
    exact forall_kind_scanFrom property known number

theorem IsFreeText.unending_pieces
    {text : Text}
    (free : IsFreeText text)
    (number : Nat) :
    ∀ line ∈ scanFrom number none (Text.cutAt '\n' text), line.kind.endsText = false :=
  free.forall_kind (fun kind => kind.endsText = false) rfl free.unending number

/-- A line that begins a part and does not end text is a platforms or guid line. -/
theorem LineKind.part?_of_endsText
    {kind : LineKind}
    (unending : kind.endsText = false)
    {part : Part}
    (begins : kind.part? = some part) :
    kind.platforms?.isSome ∨ kind.guid?.isSome := by
  cases kind with
  | platforms names => exact Or.inl rfl
  | guid value => exact Or.inr rfl
  | _ => simp [LineKind.part?, LineKind.endsText, LineKind.level?] at begins unending

/-- Of the parts of a test free text can only hold the list of platforms. -/
theorem IsFreeText.isBlock
    {text : Text}
    (free : IsFreeText text) :
    IsBlock [.platforms] (Text.cutAt '\n' text) := by
  have unending := free.unending_pieces 1
  have unidentified :=
    free.forall_kind (fun kind => kind.guid? = none) rfl free.unidentified 1
  refine ⟨?_, ?_, fun line member =>
    Text.getLast?_ne_return_of_mem_cutAt free.trimmed free.returnFree member⟩
  · exact free.forall_kind (fun kind => kind.isUnclosed = false) rfl free.closed 1
  · intro line member part begins
    rcases LineKind.part?_of_endsText (unending line member) begins with listed | identified
    · cases kind : line.kind with
      | platforms names =>
        rw [kind] at begins
        simpa [LineKind.part?, eq_comm] using begins
      | _ => simp [kind, LineKind.platforms?] at listed
    · rw [unidentified line member] at identified
      simp at identified

/-- A description holds no part of a test. -/
theorem IsDescription.isBlock
    {text : Text}
    (description : IsDescription text) :
    IsBlock [] (Text.cutAt '\n' text) := by
  have free := description.toIsFreeText.isBlock
  have unlisted := description.toIsFreeText.forall_kind
    (fun kind => kind.platforms? = none) rfl description.unlisted 1
  refine ⟨free.closed, ?_, free.unreturned⟩
  intro line member part begins
  have listed : part = .platforms := by simpa using free.within line member part begins
  have silent := unlisted line member
  subst listed
  cases kind : line.kind with
  | platforms names => simp [kind, LineKind.platforms?] at silent
  | _ => simp [kind, LineKind.part?] at begins

/-- Free text is read up to the first line that ends it. -/
theorem takeWhile_append_of_head?
    {α : Type}
    {keeps : α → Bool}
    {front back : List α}
    (kept : ∀ item ∈ front, keeps item = true)
    (ends : ∀ item ∈ back.head?, keeps item = false) :
    (front ++ back).takeWhile keeps = front := by
  rw [List.takeWhile_append_of_pos kept]
  cases back with
  | nil => simp
  | cons first rest => simp [ends first (by simp)]

namespace ExecutorBlock

/-! ## Manual steps -/

/-- A text that counts as a filler when it stands on a line by itself. -/
def isFillerText (text : Text) : Bool :=
  text.trim.isEmpty || text.trim == "<br/>".toList

/-- Fillers are known by their texts alone. -/
theorem steps_eq (lines : List Line) :
    steps lines = (Text.joinLines ((lines.map Line.text).rdropWhile isFillerText)).trim := by
  have filler : isFiller = isFillerText ∘ Line.text := rfl
  have texts : ((lines.reverse.dropWhile isFiller).reverse).map Line.text =
      (lines.map Line.text).rdropWhile isFillerText := by
    rw [List.rdropWhile, ← List.map_reverse, List.dropWhile_map, List.map_reverse, filler]
  rw [steps, Line.join, texts]

theorem rdropWhile_append_of_all
    {α : Type}
    {drops : α → Bool}
    {front back : List α}
    (dropped : ∀ item ∈ back, drops item = true) :
    (front ++ back).rdropWhile drops = front.rdropWhile drops := by
  unfold List.rdropWhile
  rw [List.reverse_append, List.dropWhile_append_of_pos]
  intro item member
  exact dropped item (List.mem_reverse.mp member)

/-- The last line of steps is no filler. -/
theorem isFillerText_of_getLast?
    {text last : Text}
    (written : IsSteps text)
    (nonempty : text ≠ [])
    (found : (Text.cutAt '\n' text).getLast? = some last) :
    isFillerText last = false := by
  have unbroken : last.trim ≠ "<br/>".toList := by
    apply written.unbroken
    rw [Text.lines_eq_cutAt written.trimmed written.returnFree nonempty]
    exact found
  have visible : last.trim ≠ [] := by
    rw [Ne, Text.trim_eq_nil_iff]
    intro blank
    have solid := ((Text.isTrimmed_iff text).mp written.trimmed).2
    cases final : last.getLast? with
    | none =>
      have empty : last = [] := List.getLast?_eq_none_iff.mp final
      rw [empty] at found
      have lineFeed := Text.getLast?_eq_of_getLast?_cutAt found nonempty
      exact absurd (solid _ lineFeed) (by decide)
    | some character =>
      rcases Text.suffix_of_getLast?_cutAt found with ⟨before, whole⟩
      have same : text.getLast? = some character := by
        rw [← whole, List.getLast?_append, final]
        rfl
      have known := blank character (List.mem_of_getLast? final)
      rw [solid character same] at known
      exact absurd known (by decide)
  rw [isFillerText, Bool.or_eq_false_iff, beq_eq_false_iff_ne]
  exact ⟨by simpa using visible, unbroken⟩

/-- Steps are read back from between an empty line and fillers. -/
theorem steps_of_texts
    {text : Text}
    (written : IsSteps text)
    {fill : List Text}
    (fillers : ∀ line ∈ fill, isFillerText line = true) :
    (Text.joinLines (([] :: (Text.cutAt '\n' text ++ fill)).rdropWhile isFillerText)).trim =
      text := by
  have split : [] :: (Text.cutAt '\n' text ++ fill) = ([] :: Text.cutAt '\n' text) ++ fill := rfl
  rw [split, rdropWhile_append_of_all fillers]
  by_cases empty : text = []
  · subst empty
    rfl
  · have some := List.getLast?_isSome.mpr (Text.cutAt_ne_nil '\n' text)
    rcases Option.isSome_iff_exists.mp some with ⟨last, found⟩
    rcases List.getLast?_eq_some_iff.mp found with ⟨before, pieces⟩
    have kept : ([] :: Text.cutAt '\n' text).rdropWhile isFillerText =
        [] :: Text.cutAt '\n' text := by
      rw [pieces, ← List.cons_append]
      apply List.rdropWhile_concat_neg
      simp [isFillerText_of_getLast? written empty found]
    have joined : Text.joinLines ([] :: Text.cutAt '\n' text) = '\n' :: text := by
      rw [Text.joinLines, Text.joinWith_cons_of_ne_nil _ _ (Text.cutAt_ne_nil '\n' text),
        Text.joinWith_cutAt]
      rfl
    rw [kept, joined, Text.trim_cons_of_blank _ (by decide)]
    exact written.trimmed

/-! ## Executors -/

/-- Lines that may follow an executor: fillers before the next heading, and no cleanup. -/
structure MayFollow (lines : List Line) : Prop where
  filled : ∃ fill others, lines = fill ++ others ∧
    (∀ line ∈ fill, isFillerText line.text = true ∧ line.kind.endsText = false) ∧
      ∀ line ∈ others.head?, line.kind.endsText = true
  uncleaned : ∀ line ∈ lines, line.kind ≠ .cleanupHeading

/-- A blank line and a heading that ends text may follow an executor. -/
theorem mayFollow_cons
    (number : Nat)
    {heading : Line}
    (ends : heading.kind.endsText = true)
    {rest : List Line}
    (uncleaned : ∀ line ∈ ⟨number, [], .prose⟩ :: heading :: rest,
      line.kind ≠ .cleanupHeading) :
    MayFollow (⟨number, [], .prose⟩ :: heading :: rest) := by
  refine ⟨⟨[⟨number, [], .prose⟩], heading :: rest, rfl, ?_, ?_⟩, uncleaned⟩
  · intro line member
    rw [List.mem_singleton.mp member]
    exact ⟨rfl, rfl⟩
  · intro line first
    rw [List.head?_cons] at first
    exact Option.some.inj first ▸ ends

theorem newline_not_mem_elevationMark (elevated : Bool) :
    '\n' ∉ elevationMark elevated := by
  cases elevated <;> decide

theorem linesOf_write_manual
    {executor : Executor}
    (kind : executor.kind = .manual)
    (written : IsSteps executor.procedure) :
    linesOf (write executor) =
      ("#### Run it with these steps!".toList ++ elevationMark executor.elevated) :: [] ::
        Text.cutAt '\n' executor.procedure := by
  have single : '\n' ∉ "#### Run it with these steps!".toList ++
      elevationMark executor.elevated := by
    rw [List.mem_append, not_or]
    exact ⟨by decide, newline_not_mem_elevationMark _⟩
  rw [write, kind]
  simp only
  rw [Text.linesOf_cons_of_single single, Text.linesOf_cons_of_single (by simp), Text.linesOf_cons,
    Text.linesOf_nil, List.append_nil, written.trimmed.trim_eq]

theorem newline_not_mem_commandHeading
    {name : Text}
    (line : IsLine name)
    (elevated : Bool) :
    '\n' ∉ "#### Attack Commands: Run with `".toList ++ name ++ "`!".toList ++
      elevationMark elevated := by
  simp only [List.mem_append, not_or]
  exact ⟨⟨⟨by decide, line.single⟩, by decide⟩, newline_not_mem_elevationMark _⟩

theorem linesOf_write_command
    {executor : Executor}
    {name : Text}
    {cleanup : Option Text}
    (kind : executor.kind = .command name cleanup)
    (interpreter : IsInterpreter name) :
    linesOf (write executor) =
      ("#### Attack Commands: Run with `".toList ++ name ++ "`!".toList ++
        elevationMark executor.elevated) :: [] ::
          (linesOf (FencedBlock.write (language name) executor.procedure) ++
            linesOf (writeCleanup (language name) cleanup)) := by
  have single := newline_not_mem_commandHeading interpreter.isLine executor.elevated
  rw [write, kind]
  simp only
  rw [Text.linesOf_cons_of_single single, Text.linesOf_cons_of_single (by simp),
    Text.linesOf_append]

theorem linesOf_writeCleanup
    {language cleanup : Text}
    (code : IsCode cleanup)
    (nonempty : cleanup ≠ []) :
    linesOf (writeCleanup language (some cleanup)) =
      [] :: "#### Cleanup Commands:".toList :: linesOf (FencedBlock.write language cleanup) := by
  rw [writeCleanup, if_neg (by simpa [code.trimmed.trim_eq] using nonempty),
    Text.linesOf_cons_of_single (by simp), Text.linesOf_cons_of_single (by decide)]

theorem getLast?_elevationMark (elevated : Bool) :
    (elevationMark elevated).getLast? ≠ some '\r' := by
  cases elevated <;> decide

theorem unreturned_commandHeading
    {name : Text}
    (line : IsLine name)
    (elevated : Bool) :
    ("#### Attack Commands: Run with `".toList ++ name ++ "`!".toList ++
      elevationMark elevated).getLast? ≠ some '\r' := by
  have marked : ("#### Attack Commands: Run with `".toList ++ name ++ "`!".toList).getLast? ≠
      some '\r' :=
    Text.getLast?_append_ne
      (Text.getLast?_append_ne (by decide) line.trimmed.unreturned) (by decide)
  exact Text.getLast?_append_ne marked (getLast?_elevationMark _)

/-- In a written executor no part of another kind begins, but steps may hold a platforms line. -/
theorem isBlock_write
    {executor : Executor}
    (printable : executor.IsPrintable) :
    IsBlock [.platforms, .executor, .cleanup] (linesOf (write executor)) := by
  unfold Executor.IsPrintable at printable
  cases kind : executor.kind with
  | manual =>
    rw [kind] at printable
    rw [linesOf_write_manual kind printable]
    refine IsBlock.cons (hasKind_manual executor.elevated) (by simp [LineKind.part?]) rfl
      (Text.getLast?_append_ne (by decide) (getLast?_elevationMark _)) ?_
    refine IsBlock.cons_prose hasKind_nil (by simp) ?_
    exact printable.toIsFreeText.isBlock.mono (by simp)
  | command name cleanup =>
    rw [kind] at printable
    rcases printable with ⟨⟨interpreter, -⟩, code, cleans⟩
    have word := language_word interpreter
    rw [linesOf_write_command kind interpreter]
    refine IsBlock.cons (hasKind_command interpreter.isQuotable executor.elevated)
      (by simp [LineKind.part?]) rfl (unreturned_commandHeading interpreter.isLine _) ?_
    refine IsBlock.cons_prose hasKind_nil (by simp) ?_
    refine (FencedBlock.isBlock_write _ word code).append ?_
    cases cleanup with
    | none => exact IsBlock.nil
    | some text =>
      rcases cleans text rfl with ⟨cleanCode, nonempty⟩
      rw [linesOf_writeCleanup cleanCode nonempty]
      refine IsBlock.cons_prose hasKind_nil (by simp) ?_
      exact (FencedBlock.isBlock_write _ word cleanCode).cons hasKind_cleanup
        (by simp [LineKind.part?]) rfl (by decide)

/-- A cleanup command is read below its heading, and none without a heading. -/
theorem cleanup?_write
    {language : Text}
    (word : ∀ character ∈ language, Marker.isLanguageCharacter character = true)
    {cleanup : Option Text}
    (cleans : ∀ text ∈ cleanup, IsCode text ∧ text ≠ [])
    (number : Nat)
    {rest : List Line}
    (uncleaned : ∀ line ∈ rest, line.kind ≠ .cleanupHeading) :
    cleanup? (scanFrom number none (linesOf (writeCleanup language cleanup)) ++ rest) =
      cleanup.map Html.decode := by
  cases cleanup with
  | none =>
    have absent : Line.after? .cleanupHeading rest = none := Line.after?_eq_none uncleaned
    simp [writeCleanup, cleanup?, absent]
  | some text =>
    rcases cleans text rfl with ⟨code, nonempty⟩
    have found := FencedBlock.first?_write word code (number + 1 + 1) rest
    have decoded := Html.decode_ne_nil nonempty
    rw [linesOf_writeCleanup code nonempty, hasKind_nil.scanFrom_cons,
      hasKind_cleanup.scanFrom_cons, List.cons_append, List.cons_append, cleanup?]
    simp [Line.after?, Line.afterFirst?, found, nonEmpty?, decoded]

/-- A written executor is read back, its commands decoded. -/
theorem read_write
    {executor : Executor}
    (printable : executor.IsPrintable)
    (test : Text)
    (number : Nat)
    {rest : List Line}
    (follows : MayFollow rest) :
    read test (scanFrom number none (linesOf (write executor)) ++ rest) =
      .ok executor.reread := by
  unfold Executor.IsPrintable at printable
  cases kind : executor.kind with
  | manual =>
    rw [kind] at printable
    rcases follows.filled with ⟨fill, others, rfl, fillers, ends⟩
    have free := printable.toIsFreeText
    have upTo := @takeWhile_append_of_head? _ (fun line => !line.kind.endsText)
      (⟨number + 1, [], .prose⟩ ::
        (scanFrom (number + 2) none (Text.cutAt '\n' executor.procedure) ++ fill)) others
      (by
        intro line member
        rw [List.mem_cons, List.mem_append] at member
        rcases member with rfl | inText | inFill
        · rfl
        · simp [free.unending_pieces _ line inText]
        · simp [(fillers line inFill).2])
      (fun line first => by simp [ends line first])
    rw [linesOf_write_manual kind printable, (hasKind_manual executor.elevated).scanFrom_cons,
      hasKind_nil.scanFrom_cons, List.cons_append, List.cons_append, ← List.append_assoc,
      ← List.cons_append, read]
    simp only [Line.afterFirst?, heading?, upTo, steps_eq, List.map_cons, List.map_append,
      map_text_scanFrom]
    rw [steps_of_texts printable (by simpa using fun line member => (fillers line member).1),
      Executor.reread, kind]
  | command name cleanup =>
    rw [kind] at printable
    rcases printable with ⟨⟨interpreter, notPrompt⟩, code, cleans⟩
    have word := language_word interpreter
    have closed := (FencedBlock.isBlock_write [] word code).closed
    have stored : storedName name = name := by
      have line := interpreter.isLine
      rw [storedName, line.trimmed.trim_eq]
      exact if_neg notPrompt
    rw [linesOf_write_command kind interpreter,
      (hasKind_command interpreter.isQuotable executor.elevated).scanFrom_cons,
      hasKind_nil.scanFrom_cons, scanFrom_append closed, List.cons_append, List.cons_append, read]
    simp only [Line.afterFirst?, heading?]
    rw [FencedBlock.first?_cons rfl, List.append_assoc, FencedBlock.first?_write word code]
    simp only [cleanup?_write word cleans _ follows.uncleaned, stored]
    rw [Executor.reread, kind]

end ExecutorBlock

end TechniquePages.Page
