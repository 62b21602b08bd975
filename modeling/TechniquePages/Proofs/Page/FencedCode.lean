import TechniquePages.Proofs.Page.Blocks

/-!
# Commands between fences

A command is written between two fences, trimmed and as it is.  The first block
after that point is the written one again: its content is the command with its
references replaced, and reading goes on behind the closing fence.
-/

namespace TechniquePages.Page

open Text (IsTrimmed IsReturnFree IsLine linesOf)

/-- A closing fence as it is written. -/
theorem isClosingFence_fence : IsClosingFence "```".toList := ⟨rfl, rfl⟩

/-- The lines of a command may stand between fences. -/
theorem IsCode.isCodeLine_of_mem
    {text line : Text}
    (code : IsCode text)
    (member : line ∈ Text.cutAt '\n' text) :
    IsCodeLine line := by
  cases text with
  | nil =>
    have empty : line = [] := by simpa using member
    subst empty
    exact ⟨rfl, rfl⟩
  | cons first rest =>
    apply code.plain
    rwa [Text.lines_eq_cutAt code.trimmed code.returnFree (by simp)]

theorem IsCode.unreturned
    {text line : Text}
    (code : IsCode text)
    (member : line ∈ Text.cutAt '\n' text) :
    line.getLast? ≠ some '\r' :=
  Text.getLast?_ne_return_of_mem_cutAt code.trimmed code.returnFree member

/-- The languages of fences are words; an interpreter's language is one. -/
theorem language_word
    {name : Text}
    (interpreter : IsInterpreter name) :
    ∀ character ∈ ExecutorBlock.language name, Marker.isLanguageCharacter character = true := by
  unfold ExecutorBlock.language
  split
  · exact List.all_eq_true.mp (by decide)
  · split
    · simp
    · exact interpreter.word

namespace FencedBlock

variable {language content : Text}

/-- The lines of a written block. -/
theorem linesOf_write
    (word : ∀ character ∈ language, Marker.isLanguageCharacter character = true)
    (code : IsCode content) :
    linesOf (write language content) =
      ("```".toList ++ language) :: (Text.cutAt '\n' content ++ ["```".toList]) := by
  have single : '\n' ∉ "```".toList ++ language := by
    rw [List.mem_append, not_or]
    refine ⟨by decide, fun member => ?_⟩
    exact absurd (word _ member) (by decide)
  rw [write, Text.linesOf_cons_of_single single, Text.linesOf_cons, code.trimmed.trim_eq,
    Text.linesOf_cons_of_single (by decide), Text.linesOf_nil]

/-- A written block begins no part of a test. -/
theorem isBlock_write
    (parts : List Part)
    (word : ∀ character ∈ language, Marker.isLanguageCharacter character = true)
    (code : IsCode content) :
    IsBlock parts (linesOf (write language content)) := by
  rw [linesOf_write word code]
  refine IsBlock.fenced (fenceLanguage?_append word)
    (fun line member => code.isCodeLine_of_mem member) isClosingFence_fence ?_
  intro line member
  rw [List.mem_cons, List.mem_append, List.mem_singleton] at member
  rcases member with rfl | inside | rfl
  · refine Text.getLast?_append_ne (by decide) fun returned => ?_
    exact absurd (word _ (List.mem_of_getLast? returned)) (by decide)
  · exact code.unreturned inside
  · decide

theorem kind_of_mem_write
    (word : ∀ character ∈ language, Marker.isLanguageCharacter character = true)
    (code : IsCode content)
    {number : Nat}
    {line : Line}
    (member : line ∈ scanFrom number none (linesOf (write language content))) :
    line.kind = .fenceOpen language true ∨ line.kind = .code ∨ line.kind = .fenceClose := by
  rw [linesOf_write word code] at member
  exact kind_of_mem_fenced (fenceLanguage?_append word)
    (fun text inText => code.isCodeLine_of_mem inText) isClosingFence_fence member

/-- The lines up to a closing fence, when none stands before it. -/
theorem untilClose?_append
    {inside : List Line}
    (unclosed : ∀ line ∈ inside, line.kind ≠ .fenceClose)
    {close : Line}
    (closes : close.kind = .fenceClose)
    (rest : List Line) :
    untilClose? (inside ++ close :: rest) = some (inside, rest) := by
  induction inside with
  | nil => simp [untilClose?, closes]
  | cons line others hypothesis =>
    have tail := hypothesis fun other member => unclosed other (List.mem_cons_of_mem _ member)
    rw [List.cons_append, untilClose?, if_neg (unclosed line (List.mem_cons_self ..)), tail]
    rfl

/-- A block at the start is the first one, and its content is its code, trimmed and decoded. -/
theorem first?_fenced
    {text close : Text}
    {code : List Text}
    (opens : Marker.fenceLanguage? text = some language)
    (plain : ∀ line ∈ code, IsCodeLine line)
    (ends : IsClosingFence close)
    (number : Nat)
    (rest : List Line) :
    first? (scanFrom number none (text :: (code ++ [close])) ++ rest) =
      some ⟨Html.decode (Text.joinLines code).trim, rest⟩ := by
  have inside := @untilClose?_append (codeLines (number + 1) code)
    (by
      intro line member
      rw [kind_of_mem_codeLines member]
      simp)
    ⟨number + 1 + code.length, close, .fenceClose⟩ rfl rest
  rw [scanFrom_block number [] opens plain ends, scanFrom_nil, first?, List.cons_append,
    List.append_assoc, List.singleton_append]
  simp only [Line.afterFirst?, opens?, Option.bind_eq_bind, Option.bind_some, inside, Line.join,
    map_text_codeLines]

/-- A written block is the first one where it stands, and its content is decoded. -/
theorem first?_write
    (word : ∀ character ∈ language, Marker.isLanguageCharacter character = true)
    (code : IsCode content)
    (number : Nat)
    (rest : List Line) :
    first? (scanFrom number none (linesOf (write language content)) ++ rest) =
      some ⟨Html.decode content, rest⟩ := by
  have joined : Text.joinLines (Text.cutAt '\n' content) = content :=
    Text.joinWith_cutAt '\n' content
  rw [linesOf_write word code, first?_fenced (fenceLanguage?_append word)
    (fun line member => code.isCodeLine_of_mem member) isClosingFence_fence, joined,
    code.trimmed.trim_eq]

/-- A line that opens no block is passed over. -/
theorem first?_cons
    {line : Line}
    (silent : opens? line.kind = none)
    (rest : List Line) :
    first? (line :: rest) = first? rest := by
  simp only [first?, Line.afterFirst?, silent]

end FencedBlock

end TechniquePages.Page
