import TechniquePages.Proofs.Text.Trim

/-!
# Lines of a text

Cutting at a character and joining with it undo each other.  The lines of a
text are its pieces between line feeds, up to two things at the ends: a
carriage return before a line feed is dropped, and so is an empty last piece.

The main equations say that the lines of a text split at every line feed, and
that a page written line by line has the lines that were written, provided
that no line ends in a carriage return.
-/

namespace TechniquePages.Text

open Unicode (isBlank)

/-! ## Cutting and joining -/

theorem cutAt_eq_splitOn
    (separator : Char)
    (text : Text) :
    cutAt separator text = text.splitOn separator := by
  induction text with
  | nil => simp
  | cons character rest hypothesis =>
    rw [List.splitOn_cons_eq_if_modifyHead, cutAt, hypothesis]
    by_cases same : character = separator
    · simp [same]
    · simp only [same, if_false, beq_iff_eq]
      cases pieces : List.splitOn separator rest with
      | nil => exact absurd pieces (List.splitOn_ne_nil separator rest)
      | cons piece others => simp

theorem joinWith_eq_intercalate
    (separator : Text)
    (texts : List Text) :
    joinWith separator texts = separator.intercalate texts := by
  induction texts with
  | nil => rfl
  | cons text rest hypothesis =>
    cases rest with
    | nil => simp
    | cons next more => simp [joinWith, hypothesis, List.intercalate_cons_cons]

theorem joinWith_cons_of_ne_nil
    (separator text : Text)
    {texts : List Text}
    (more : texts ≠ []) :
    joinWith separator (text :: texts) = text ++ separator ++ joinWith separator texts := by
  cases texts with
  | nil => exact absurd rfl more
  | cons next rest => rfl

/-- A separator cuts a text in two, and each half is cut by itself. -/
theorem cutAt_append_separator
    (separator : Char)
    (front back : Text) :
    cutAt separator (front ++ separator :: back) =
      cutAt separator front ++ cutAt separator back := by
  simp only [cutAt_eq_splitOn]
  exact List.splitOn_append_cons_self front back

/-- What stands before the first separator belongs to the first piece. -/
theorem cutAt_append_of_not_mem
    {separator : Char}
    {front back piece : Text}
    {pieces : List Text}
    (absent : separator ∉ front)
    (cut : cutAt separator back = piece :: pieces) :
    cutAt separator (front ++ back) = (front ++ piece) :: pieces := by
  induction front with
  | nil => exact cut
  | cons character rest hypothesis =>
    rw [List.mem_cons, not_or] at absent
    rw [List.cons_append, cutAt, if_neg (Ne.symm absent.1), hypothesis absent.2]
    rfl

/-- A text without the separator is one piece. -/
theorem cutAt_eq_singleton
    {separator : Char}
    {text : Text}
    (absent : separator ∉ text) :
    cutAt separator text = [text] := by
  rw [cutAt_eq_splitOn]
  exact List.splitOn_eq_singleton absent

/-- Joining undoes cutting. -/
theorem joinWith_cutAt
    (separator : Char)
    (text : Text) :
    joinWith [separator] (cutAt separator text) = text := by
  rw [cutAt_eq_splitOn, joinWith_eq_intercalate]
  exact List.intercalate_splitOn separator

/-- A piece holds no separator. -/
theorem not_mem_of_mem_cutAt
    {separator : Char}
    {text piece : Text}
    (member : piece ∈ cutAt separator text) :
    separator ∉ piece := by
  induction text generalizing piece with
  | nil =>
    have empty : piece = [] := by simpa using member
    simp [empty]
  | cons character rest hypothesis =>
    rw [cutAt] at member
    split at member
    · rcases List.mem_cons.mp member with rfl | later
      · simp
      · exact hypothesis later
    · rename_i different
      cases pieces : cutAt separator rest with
      | nil => exact absurd pieces (cutAt_ne_nil separator rest)
      | cons first others =>
        rw [pieces] at member hypothesis
        rcases List.mem_cons.mp member with rfl | later
        · have free := hypothesis (List.mem_cons_self ..)
          simp [free, Ne.symm different]
        · exact hypothesis (List.mem_cons_of_mem _ later)

theorem dropLast_cutAt_eq_nil_iff
    (separator : Char)
    (text : Text) :
    (cutAt separator text).dropLast = [] ↔ separator ∉ text := by
  constructor
  · intro single
    have whole := joinWith_cutAt separator text
    cases pieces : cutAt separator text with
    | nil => exact absurd pieces (cutAt_ne_nil separator text)
    | cons piece more =>
      cases more with
      | nil =>
        rw [pieces] at whole
        have same : piece = text := whole
        exact same ▸ not_mem_of_mem_cutAt (pieces ▸ List.mem_singleton_self piece)
      | cons next rest => simp [pieces] at single
  · intro absent
    rw [cutAt_eq_singleton absent]
    rfl

theorem mem_joinWith
    {separator : Text}
    {texts : List Text}
    {character : Char}
    (member : character ∈ joinWith separator texts) :
    character ∈ separator ∨ ∃ text ∈ texts, character ∈ text := by
  induction texts with
  | nil => simp at member
  | cons text rest hypothesis =>
    cases rest with
    | nil => exact Or.inr ⟨text, by simp, member⟩
    | cons next more =>
      rw [joinWith_cons_of_ne_nil _ _ (by simp), List.mem_append, List.mem_append] at member
      rcases member with (inText | inSeparator) | later
      · exact Or.inr ⟨text, by simp, inText⟩
      · exact Or.inl inSeparator
      · rcases hypothesis later with inSeparator | ⟨other, inRest, inside⟩
        · exact Or.inl inSeparator
        · exact Or.inr ⟨other, List.mem_cons_of_mem _ inRest, inside⟩

theorem subset_joinWith
    (separator : Text)
    {text : Text}
    {texts : List Text}
    (member : text ∈ texts) :
    text ⊆ joinWith separator texts := by
  induction texts with
  | nil => simp at member
  | cons first rest hypothesis =>
    cases rest with
    | nil =>
      rw [List.mem_singleton.mp member]
      exact List.Subset.refl _
    | cons next more =>
      rw [joinWith_cons_of_ne_nil _ _ (List.cons_ne_nil next more)]
      rcases List.mem_cons.mp member with rfl | later
      · exact fun _ inside => by simp [inside]
      · exact fun _ inside => List.mem_append_right _ (hypothesis later inside)

/-- A piece has no characters that the text does not have. -/
theorem subset_of_mem_cutAt
    {separator : Char}
    {text piece : Text}
    (member : piece ∈ cutAt separator text) :
    piece ⊆ text := by
  have inside := subset_joinWith [separator] member
  rwa [joinWith_cutAt] at inside

/-- Joined texts have solid ends if each of them has. -/
theorem isTrimmed_joinWith
    (separator : Text)
    {texts : List Text}
    (trimmed : ∀ text ∈ texts, IsTrimmed text)
    (nonempty : ∀ text ∈ texts, text ≠ []) :
    IsTrimmed (joinWith separator texts) := by
  induction texts with
  | nil => rfl
  | cons text rest hypothesis =>
    have solid := (isTrimmed_iff text).mp (trimmed text (List.mem_cons_self ..))
    have own := nonempty text (List.mem_cons_self ..)
    cases rest with
    | nil => exact trimmed text (List.mem_cons_self ..)
    | cons next more =>
      have later := hypothesis (fun other member => trimmed other (List.mem_cons_of_mem _ member))
        fun other member => nonempty other (List.mem_cons_of_mem _ member)
      have written : joinWith separator (next :: more) ≠ [] := by
        have first := nonempty next (by simp)
        cases more <;> simp [joinWith, first]
      rw [joinWith_cons_of_ne_nil _ _ (by simp), isTrimmed_iff]
      constructor
      · intro character found
        rw [List.append_assoc, List.head?_append_of_ne_nil _ own] at found
        exact solid.1 character found
      · intro character found
        rw [List.getLast?_append_of_ne_nil _ written] at found
        exact ((isTrimmed_iff _).mp later).2 character found

/-- Cutting joined texts cuts each of them. -/
theorem cutAt_joinWith
    (separator : Char)
    {texts : List Text}
    (nonempty : texts ≠ []) :
    cutAt separator (joinWith [separator] texts) = texts.flatMap (cutAt separator) := by
  induction texts with
  | nil => exact absurd rfl nonempty
  | cons text rest hypothesis =>
    cases rest with
    | nil => simp
    | cons next more =>
      rw [joinWith_cons_of_ne_nil _ _ (by simp), List.append_assoc, List.singleton_append,
        cutAt_append_separator, hypothesis (by simp), ← List.flatMap_cons]

/-- Cutting undoes joining where the joined texts hold no separator. -/
theorem cutAt_joinWith_of_not_mem
    {separator : Char}
    {texts : List Text}
    (nonempty : texts ≠ [])
    (absent : ∀ text ∈ texts, separator ∉ text) :
    cutAt separator (joinWith [separator] texts) = texts := by
  rw [cutAt_eq_splitOn, joinWith_eq_intercalate]
  exact List.splitOn_intercalate separator absent nonempty

/-- What stands behind the last separator belongs to the last piece. -/
theorem cutAt_append_ending
    {separator : Char}
    {text ending last : Text}
    {above : List Text}
    (absent : separator ∉ ending)
    (cut : cutAt separator text = above ++ [last]) :
    cutAt separator (text ++ ending) = above ++ [last ++ ending] := by
  have joined : joinWith [separator] (above ++ [last ++ ending]) = text ++ ending := by
    rw [← joinWith_cutAt separator text, cut]
    clear cut
    induction above with
    | nil => rfl
    | cons first rest hypothesis =>
      rw [List.cons_append, List.cons_append, joinWith_cons_of_ne_nil _ _ (by simp),
        joinWith_cons_of_ne_nil _ _ (by simp), hypothesis]
      simp only [List.append_assoc]
  rw [← joined]
  refine cutAt_joinWith_of_not_mem (by simp) fun piece member => ?_
  have pieces : ∀ other ∈ above ++ [last], separator ∉ other := fun other inside =>
    not_mem_of_mem_cutAt (cut ▸ inside)
  rcases List.mem_append.mp member with inside | final
  · exact pieces piece (List.mem_append_left _ inside)
  · rw [List.mem_singleton.mp final, List.mem_append, not_or]
    exact ⟨pieces last (by simp), absent⟩

/-! ## Line ends -/

theorem linesOfPieces_append
    (pieces : List Text)
    {others : List Text}
    (nonempty : others ≠ []) :
    linesOfPieces (pieces ++ others) = pieces.map dropFinalReturn ++ linesOfPieces others := by
  induction pieces with
  | nil => rfl
  | cons piece rest hypothesis =>
    have tail : rest ++ others ≠ [] := by simp [nonempty]
    cases together : rest ++ others with
    | nil => exact absurd together tail
    | cons next more =>
      rw [List.cons_append, together, linesOfPieces, ← together, hypothesis]
      rfl

/-- The lines of a text split at every line feed. -/
theorem lines_append_lineFeed
    (front back : Text) :
    lines (front ++ '\n' :: back) = (cutAt '\n' front).map dropFinalReturn ++ lines back := by
  unfold lines
  rw [cutAt_append_separator, linesOfPieces_append _ (cutAt_ne_nil '\n' back)]

@[simp]
theorem lines_nil : lines [] = [] := rfl

theorem dropFinalReturn_eq_self
    {text : Text}
    (unreturned : text.getLast? ≠ some '\r') :
    dropFinalReturn text = text := by
  induction text with
  | nil => rfl
  | cons character rest hypothesis =>
    cases rest with
    | nil =>
      have different : character ≠ '\r' := by simpa using unreturned
      rw [dropFinalReturn]
      · rfl
      · intro same
        exact absurd same different
    | cons next more =>
      rw [dropFinalReturn, hypothesis]
      · simpa using unreturned
      · simp

theorem dropFinalReturn_append_return (text : Text) : dropFinalReturn (text ++ ['\r']) = text := by
  induction text with
  | nil => rfl
  | cons character rest hypothesis =>
    rw [List.cons_append, dropFinalReturn, hypothesis]
    simp

theorem dropFinalReturn_ne_self
    {text : Text}
    (returned : text.getLast? = some '\r') :
    dropFinalReturn text ≠ text := by
  rcases List.getLast?_eq_some_iff.mp returned with ⟨front, rfl⟩
  simp [dropFinalReturn_append_return]

/-- A final carriage return is that of the last part, unless that is empty. -/
theorem dropFinalReturn_append
    {front : Text}
    (unreturned : front.getLast? ≠ some '\r')
    (back : Text) :
    dropFinalReturn (front ++ back) = front ++ dropFinalReturn back := by
  rcases List.eq_nil_or_concat' back with rfl | ⟨more, last, rfl⟩
  · rw [List.append_nil, dropFinalReturn_eq_self unreturned]
    simp [dropFinalReturn]
  · rw [← List.append_assoc]
    by_cases returned : last = '\r'
    · rw [returned, dropFinalReturn_append_return, dropFinalReturn_append_return]
    · rw [dropFinalReturn_eq_self (by simpa using returned),
        dropFinalReturn_eq_self (by simpa using returned), List.append_assoc]

/-- The carriage return before a line feed is a blank. -/
theorem trim_dropFinalReturn (text : Text) : trim (dropFinalReturn text) = trim text := by
  rcases List.eq_nil_or_concat' text with rfl | ⟨front, last, rfl⟩
  · rfl
  · by_cases returned : last = '\r'
    · rw [returned, dropFinalReturn_append_return, trim_append_of_blank front (by decide)]
    · rw [dropFinalReturn_eq_self (by simpa using returned)]

/-- Two texts of which neither ends in a character do not end in it together. -/
theorem getLast?_append_ne
    {front back : Text}
    {character : Char}
    (unlikeFront : front.getLast? ≠ some character)
    (unlikeBack : back.getLast? ≠ some character) :
    (front ++ back).getLast? ≠ some character := by
  rw [List.getLast?_append]
  cases last : back.getLast? with
  | none => simpa using unlikeFront
  | some other => simpa [last] using unlikeBack

/-- A trimmed text does not end in a carriage return, which is a blank. -/
theorem IsTrimmed.unreturned
    {text : Text}
    (trimmed : IsTrimmed text) :
    text.getLast? ≠ some '\r' := by
  intro returned
  exact absurd (((isTrimmed_iff text).mp trimmed).2 _ returned) (by decide)

/-- A line end of two characters stands nowhere in the text. -/
def IsReturnFree (text : Text) : Prop :=
  ¬ ['\r', '\n'] <:+: text

instance (text : Text) : Decidable (IsReturnFree text) :=
  inferInstanceAs (Decidable (¬ ['\r', '\n'] <:+: text))

/-- A piece that ends in a carriage return ends the text, or a line feed follows it. -/
theorem getLast?_of_mem_cutAt
    {text piece : Text}
    (member : piece ∈ cutAt '\n' text)
    (returned : piece.getLast? = some '\r') :
    ['\r', '\n'] <:+: text ∨ text.getLast? = some '\r' := by
  induction text generalizing piece with
  | nil =>
    have empty : piece = [] := by simpa using member
    simp [empty] at returned
  | cons character rest hypothesis =>
    have later :
        ∀ other ∈ cutAt '\n' rest, other.getLast? = some '\r' →
          ['\r', '\n'] <:+: character :: rest ∨ (character :: rest).getLast? = some '\r' := by
      intro other known last
      rcases hypothesis known last with inside | atEnd
      · exact Or.inl (List.infix_cons inside)
      · right
        cases rest with
        | nil => simp at atEnd
        | cons next more => simpa using atEnd
    rw [cutAt] at member
    split at member
    · rcases List.mem_cons.mp member with rfl | known
      · simp at returned
      · exact later piece known returned
    · cases pieces : cutAt '\n' rest with
      | nil => exact absurd pieces (cutAt_ne_nil '\n' rest)
      | cons first others =>
        rw [pieces] at member later
        rcases List.mem_cons.mp member with rfl | known
        · cases first with
          | cons next more =>
            exact later _ (List.mem_cons_self ..) (by simpa using returned)
          | nil =>
            have same : character = '\r' := by simpa using returned
            subst same
            cases rest with
            | nil => exact Or.inr rfl
            | cons next more =>
              left
              have lineFeed : next = '\n' := by
                by_contra different
                rw [cutAt, if_neg different] at pieces
                split at pieces <;> simp at pieces
              subst lineFeed
              exact ⟨[], more, rfl⟩
        · exact later piece (List.mem_cons_of_mem _ known) returned

/-- The text may be cut into lines and joined again: no piece ends in a carriage return. -/
theorem getLast?_ne_return_of_mem_cutAt
    {text piece : Text}
    (trimmed : IsTrimmed text)
    (returnFree : IsReturnFree text)
    (member : piece ∈ cutAt '\n' text) :
    piece.getLast? ≠ some '\r' := by
  intro returned
  rcases getLast?_of_mem_cutAt member returned with inside | atEnd
  · exact returnFree inside
  · exact trimmed.unreturned atEnd

/-- An empty last piece is the mark of a final separator. -/
theorem getLast?_eq_of_getLast?_cutAt
    {separator : Char}
    {text : Text}
    (empty : (cutAt separator text).getLast? = some [])
    (nonempty : text ≠ []) :
    text.getLast? = some separator := by
  induction text with
  | nil => exact absurd rfl nonempty
  | cons character rest hypothesis =>
    cases rest with
    | nil =>
      by_cases same : character = separator
      · simp [same]
      · simp [cutAt, same] at empty
    | cons next more =>
      have later : (cutAt separator (next :: more)).getLast? = some [] := by
        rw [cutAt] at empty
        cases pieces : cutAt separator (next :: more) with
        | nil => exact absurd pieces (cutAt_ne_nil separator (next :: more))
        | cons first others =>
          rw [pieces] at empty
          split at empty
          · simpa using empty
          · cases others with
            | nil => simp at empty
            | cons second tail => simpa using empty
      simpa using hypothesis later (by simp)

/-- The last piece ends the text. -/
theorem suffix_of_getLast?_cutAt
    {separator : Char}
    {text piece : Text}
    (last : (cutAt separator text).getLast? = some piece) :
    piece <:+ text := by
  induction text with
  | nil =>
    have empty : piece = [] := by simpa [eq_comm] using last
    exact ⟨[], by simp [empty]⟩
  | cons character rest hypothesis =>
    rw [cutAt] at last
    cases pieces : cutAt separator rest with
    | nil => exact absurd pieces (cutAt_ne_nil separator rest)
    | cons first others =>
      rw [pieces] at last hypothesis
      split at last
      · exact (hypothesis (by simpa using last)).trans (List.suffix_cons character rest)
      · cases others with
        | nil =>
          have whole := joinWith_cutAt separator rest
          rw [pieces, joinWith_singleton] at whole
          have same : character :: first = piece := by simpa using last
          have ends : piece = character :: rest := by rw [← same, whole]
          exact ends ▸ List.suffix_rfl
        | cons second more =>
          have later := hypothesis (by simpa using last)
          exact later.trans (List.suffix_cons character rest)

/-- Pieces of which the last one is neither empty nor ends in a carriage return are all lines. -/
theorem linesOfPieces_eq_map
    {pieces : List Text}
    (ended : ∀ last ∈ pieces.getLast?, last ≠ [] ∧ last.getLast? ≠ some '\r') :
    linesOfPieces pieces = pieces.map dropFinalReturn := by
  induction pieces with
  | nil => rfl
  | cons piece rest hypothesis =>
    cases rest with
    | nil =>
      have last := ended piece (by simp)
      simp [linesOfPieces, last.1, dropFinalReturn_eq_self last.2]
    | cons next more =>
      rw [linesOfPieces, hypothesis fun last member => ended last (by simpa using member)]
      rfl

/-- The last piece of a trimmed text is neither empty nor ends in a carriage return. -/
theorem IsTrimmed.getLast?_cutAt
    {text : Text}
    (trimmed : IsTrimmed text)
    (nonempty : text ≠ []) :
    ∀ last ∈ (cutAt '\n' text).getLast?, last ≠ [] ∧ last.getLast? ≠ some '\r' := by
  intro last member
  have written : last ≠ [] := by
    rintro rfl
    have lineFeed := getLast?_eq_of_getLast?_cutAt member nonempty
    exact absurd (((isTrimmed_iff text).mp trimmed).2 '\n' lineFeed) (by decide)
  rcases suffix_of_getLast?_cutAt member with ⟨front, whole⟩
  refine ⟨written, fun returned => trimmed.unreturned ?_⟩
  rw [← whole, List.getLast?_append_of_ne_nil _ written, returned]

/-- The lines of a trimmed text are its pieces but for the carriage returns at their ends. -/
theorem IsTrimmed.lines_eq
    {text : Text}
    (trimmed : IsTrimmed text)
    (nonempty : text ≠ []) :
    lines text = (cutAt '\n' text).map dropFinalReturn :=
  linesOfPieces_eq_map (trimmed.getLast?_cutAt nonempty)

/-- The lines of a trimmed text without line ends of two characters are its pieces. -/
theorem lines_eq_cutAt
    {text : Text}
    (trimmed : IsTrimmed text)
    (returnFree : IsReturnFree text)
    (nonempty : text ≠ []) :
    lines text = cutAt '\n' text := by
  have kept : (cutAt '\n' text).map dropFinalReturn = (cutAt '\n' text).map id :=
    List.map_congr_left fun piece member =>
      dropFinalReturn_eq_self (getLast?_ne_return_of_mem_cutAt trimmed returnFree member)
  rw [trimmed.lines_eq nonempty]
  exact kept.trans (List.map_id _)

/-- The lines that texts make when each of them begins on a line of its own. -/
def linesOf (texts : List Text) : List Text :=
  texts.flatMap (cutAt '\n')

@[simp]
theorem linesOf_nil : linesOf [] = [] := rfl

@[simp]
theorem linesOf_append (front back : List Text) :
    linesOf (front ++ back) = linesOf front ++ linesOf back :=
  List.flatMap_append

theorem linesOf_flatMap
    {α : Type}
    (items : List α)
    (write : α → List Text) :
    linesOf (items.flatMap write) = items.flatMap fun item => linesOf (write item) :=
  List.flatMap_assoc

theorem linesOf_cons
    (text : Text)
    (texts : List Text) :
    linesOf (text :: texts) = cutAt '\n' text ++ linesOf texts := rfl

/-- A text without a line feed makes one line. -/
theorem linesOf_cons_of_single
    {text : Text}
    (single : '\n' ∉ text)
    (texts : List Text) :
    linesOf (text :: texts) = text :: linesOf texts := by
  rw [linesOf_cons, cutAt_eq_singleton single]
  rfl

theorem joinLines_append
    {front back : List Text}
    (frontNonempty : front ≠ [])
    (backNonempty : back ≠ []) :
    joinLines (front ++ back) = joinLines front ++ '\n' :: joinLines back := by
  unfold joinLines
  induction front with
  | nil => exact absurd rfl frontNonempty
  | cons text rest hypothesis =>
    cases rest with
    | nil => simp [joinWith_cons_of_ne_nil _ _ backNonempty]
    | cons next more =>
      have tail : next :: more ++ back ≠ [] := by simp
      rw [List.cons_append, joinWith_cons_of_ne_nil _ _ tail, hypothesis (by simp),
        joinWith_cons_of_ne_nil ['\n'] text (List.cons_ne_nil next more)]
      simp only [List.append_assoc]

/--
The lines that are read back when each text begins on a line of its own: the
carriage return before a line feed is dropped.
-/
def linesBack (texts : List Text) : List Text :=
  (linesOf texts).map dropFinalReturn

@[simp]
theorem linesBack_nil : linesBack [] = [] := rfl

@[simp]
theorem linesBack_append (front back : List Text) :
    linesBack (front ++ back) = linesBack front ++ linesBack back := by
  simp [linesBack]

theorem linesBack_flatMap
    {α : Type}
    (items : List α)
    (write : α → List Text) :
    linesBack (items.flatMap write) = items.flatMap fun item => linesBack (write item) := by
  rw [linesBack, linesOf_flatMap, List.map_flatMap]
  rfl

/-- A text without line ends is read back as one line. -/
theorem linesBack_cons_of_single
    {text : Text}
    (single : '\n' ∉ text)
    (unreturned : text.getLast? ≠ some '\r')
    (texts : List Text) :
    linesBack (text :: texts) = text :: linesBack texts := by
  rw [linesBack, linesOf_cons_of_single single, List.map_cons, dropFinalReturn_eq_self unreturned]
  rfl

/-- A trimmed text is read back as its lines. -/
theorem linesBack_cons_of_trimmed
    {text : Text}
    (trimmed : IsTrimmed text)
    (nonempty : text ≠ [])
    (texts : List Text) :
    linesBack (text :: texts) = lines text ++ linesBack texts := by
  rw [linesBack, linesOf_cons, List.map_append, trimmed.lines_eq nonempty]
  rfl

/-- A page that is written text by text is read line by line. -/
theorem lines_joinLines_eq_linesBack
    {texts : List Text}
    (nonempty : texts ≠ []) :
    lines (joinLines texts ++ ['\n']) = linesBack texts := by
  rw [lines_append_lineFeed, lines_nil, List.append_nil, joinLines, cutAt_joinWith _ nonempty]
  rfl

/-- Lines without a final carriage return are read back as they are. -/
theorem linesBack_eq_linesOf
    {texts : List Text}
    (unreturned : ∀ line ∈ linesOf texts, line.getLast? ≠ some '\r') :
    linesBack texts = linesOf texts := by
  have kept : (linesOf texts).map dropFinalReturn = (linesOf texts).map id :=
    List.map_congr_left fun line member => dropFinalReturn_eq_self (unreturned line member)
  exact kept.trans (List.map_id _)

theorem dropFinalReturn_isPrefix (text : Text) : dropFinalReturn text <+: text := by
  rcases List.eq_nil_or_concat' text with rfl | ⟨front, last, rfl⟩
  · exact List.prefix_refl _
  · by_cases returned : last = '\r'
    · rw [returned, dropFinalReturn_append_return]
      exact List.prefix_append _ _
    · have kept := @dropFinalReturn_eq_self (front ++ [last]) (by simpa using returned)
      exact ⟨[], by rw [kept, List.append_nil]⟩

theorem dropFinalReturn_sublist (text : Text) : (dropFinalReturn text).Sublist text :=
  (dropFinalReturn_isPrefix text).sublist

theorem dropFinalReturn_subset (text : Text) : dropFinalReturn text ⊆ text :=
  (dropFinalReturn_sublist text).subset

/-- A line of pieces is one of them, but for a carriage return. -/
theorem exists_of_mem_linesOfPieces
    {pieces : List Text}
    {line : Text}
    (member : line ∈ linesOfPieces pieces) :
    ∃ piece ∈ pieces, line ⊆ piece := by
  induction pieces with
  | nil => simp [linesOfPieces] at member
  | cons piece rest hypothesis =>
    cases rest with
    | nil =>
      rw [linesOfPieces] at member
      split at member
      · simp at member
      · exact ⟨piece, by simp, by simpa using List.mem_singleton.mp member ▸ List.Subset.refl _⟩
    | cons next more =>
      rw [linesOfPieces] at member
      rcases List.mem_cons.mp member with rfl | later
      · exact ⟨piece, by simp, dropFinalReturn_subset piece⟩
      · rcases hypothesis later with ⟨other, inRest, inside⟩
        exact ⟨other, List.mem_cons_of_mem _ inRest, inside⟩

theorem newline_not_mem_of_mem_lines
    {text line : Text}
    (member : line ∈ lines text) :
    '\n' ∉ line := by
  rcases exists_of_mem_linesOfPieces member with ⟨piece, inPieces, inside⟩
  exact fun lineFeed => not_mem_of_mem_cutAt inPieces (inside lineFeed)

/-! ## Lines, joined again -/

theorem joinWith_map_sublist
    (separator : Text)
    {change : Text → Text}
    (shrinks : ∀ text, (change text).Sublist text)
    (texts : List Text) :
    (joinWith separator (texts.map change)).Sublist (joinWith separator texts) := by
  induction texts with
  | nil => exact List.Sublist.refl _
  | cons text rest hypothesis =>
    cases rest with
    | nil => exact shrinks text
    | cons next more =>
      rw [List.map_cons, joinWith_cons_of_ne_nil _ _ (by simp),
        joinWith_cons_of_ne_nil _ _ (by simp)]
      exact ((shrinks text).append (List.Sublist.refl _)).append hypothesis

/-- A trimmed text comes back line by line, with one character at the end of each line. -/
theorem joinLines_linesBack
    {text : Text}
    (trimmed : IsTrimmed text) :
    joinLines (linesBack [text]) = joinLines (lines text) := by
  by_cases empty : text = []
  · rw [empty]
    rfl
  · rw [linesBack_cons_of_trimmed trimmed empty, linesBack_nil, List.append_nil]

theorem joinLines_lines_sublist
    {text : Text}
    (trimmed : IsTrimmed text) :
    (joinLines (lines text)).Sublist text := by
  have pieces : linesBack [text] = (cutAt '\n' text).map dropFinalReturn := by
    rw [linesBack, linesOf_cons, linesOf_nil, List.append_nil]
  have shorter := joinWith_map_sublist ['\n'] dropFinalReturn_sublist (cutAt '\n' text)
  rw [joinWith_cutAt] at shorter
  rwa [← joinLines_linesBack trimmed, pieces]

/-- Before a line end of two characters stands a piece that ends in the first of them. -/
theorem exists_mem_cutAt_of_infix
    {text : Text}
    (returns : ['\r', '\n'] <:+: text) :
    ∃ piece ∈ cutAt '\n' text, piece.getLast? = some '\r' := by
  rcases returns with ⟨front, back, whole⟩
  have pieces : cutAt '\n' text = cutAt '\n' (front ++ ['\r']) ++ cutAt '\n' back := by
    rw [← whole, ← cutAt_append_separator]
    simp
  have present := List.getLast?_isSome.mpr (cutAt_ne_nil '\n' (front ++ ['\r']))
  rcases Option.isSome_iff_exists.mp present with ⟨piece, last⟩
  have written : piece ≠ [] := by
    rintro rfl
    have lineFeed := getLast?_eq_of_getLast?_cutAt last (by simp)
    simp at lineFeed
  refine ⟨piece, pieces ▸ List.mem_append_left _ (List.mem_of_getLast? last), ?_⟩
  rcases suffix_of_getLast?_cutAt last with ⟨before, ends⟩
  rw [← List.getLast?_append_of_ne_nil before written, ends]
  simp

/-- Exactly the texts without line ends of two characters come back from their lines. -/
theorem joinLines_lines_eq_iff
    {text : Text}
    (trimmed : IsTrimmed text) :
    joinLines (lines text) = text ↔ IsReturnFree text := by
  by_cases empty : text = []
  · rw [empty]
    decide
  constructor
  · intro same returns
    have written : lines text ≠ [] := by
      intro none
      rw [none] at same
      exact empty same.symm
    have single : ∀ line ∈ lines text, cutAt '\n' line = [line] :=
      fun line member => cutAt_eq_singleton (newline_not_mem_of_mem_lines member)
    have kept : cutAt '\n' text = (cutAt '\n' text).map dropFinalReturn := by
      rw [← trimmed.lines_eq empty]
      conv_lhs => rw [← same, joinLines, cutAt_joinWith _ written]
      exact (List.flatMap_congr single).trans (List.flatMap_singleton' _)
    rcases exists_mem_cutAt_of_infix returns with ⟨piece, member, returned⟩
    have unchanged : dropFinalReturn piece = piece :=
      List.map_inj_left.mp (kept.symm.trans (List.map_id _).symm) piece member
    exact dropFinalReturn_ne_self returned unchanged
  · intro returnFree
    rw [lines_eq_cutAt trimmed returnFree empty]
    exact joinWith_cutAt '\n' text

/-! ## Lines with their ends -/

/-- The lines that pieces between line feeds stand for, each with its line feed. -/
def rawLinesOfPieces : List Text → List Text
  | [] => []
  | [last] => if last.isEmpty then [] else [last]
  | piece :: next :: rest => (piece ++ ['\n']) :: rawLinesOfPieces (next :: rest)

/-- The lines of a text as they are written, each with the line feed that ends it. -/
def rawLines (text : Text) : List Text :=
  rawLinesOfPieces (cutAt '\n' text)

/-- Nothing of a text is lost when it is cut into lines with their ends. -/
theorem flatten_rawLines (text : Text) : text.rawLines.flatten = text := by
  have joined : ∀ pieces, (rawLinesOfPieces pieces).flatten = joinWith ['\n'] pieces := by
    intro pieces
    induction pieces with
    | nil => rfl
    | cons piece rest hypothesis =>
      cases rest with
      | nil => cases piece <;> simp [rawLinesOfPieces]
      | cons next more => simp [rawLinesOfPieces, joinWith, hypothesis]
  rw [rawLines, joined, joinWith_cutAt]

end TechniquePages.Text
