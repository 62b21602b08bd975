import TechniquePages.Conversion
import TechniquePages.Proofs.Files.Folders
import TechniquePages.Proofs.Page.ReadShape

/-!
# Outputs beside inputs

An output beside an input that is named after the input stands in the input's folder.
A page is named after its technique, and the technique's identifier is taken as a path
from that folder.  A record may have any identifier, so the page stands where the
record says: in the folder of the input if the identifier is a mere name, or leads to
that folder again, and elsewhere otherwise.
-/

namespace TechniquePages

open FilePath (SharesFolder StaysIn isIdle)

/-- What ends in an extension is never idle. -/
theorem isIdle_append_extension
    (first second : Char)
    (rest piece : Text) :
    isIdle (piece ++ first :: second :: rest) = false := by
  cases piece with
  | nil => simp [isIdle]
  | cons other more => cases more <;> simp [isIdle]

section Folders

variable {input : FilePath}

/-- A record beside an input stands in the input's folder if the input ends in its name. -/
theorem sharesFolder_record_iff
    (file : input.fileName?.isSome)
    (identifier : Text) :
    SharesFolder (outputBeside input "json".toList identifier) input ↔ input.EndsInName := by
  have unslashed : '/' ∉ ".json".toList := by decide
  exact FilePath.sharesFolder_append_iff file unslashed
    (isIdle_append_extension '.' 'j' ['s', 'o', 'n'])

/-- A page beside an input stands in the input's folder if the identifier stays there. -/
theorem sharesFolder_page_iff
    (file : input.fileName?.isSome)
    (identifier : Text) :
    SharesFolder (outputBeside input "markdown".toList identifier) input ↔
      StaysIn (input.parent?.getD []) identifier := by
  rcases Option.isSome_iff_exists.mp file with ⟨name, named⟩
  rcases FilePath.exists_pieces_of_fileName? named with ⟨above, -, -, pieces, -, solid, -⟩
  rcases FilePath.exists_parent?_of_pieces pieces solid with ⟨folder, own, -⟩
  have page : ∀ {text : Text}, text ≠ [] →
      (SharesFolder (folder.join (text ++ ".md".toList)) input ↔ StaysIn folder text) :=
    fun nonempty => FilePath.sharesFolder_join_iff own nonempty (by decide)
      (isIdle_append_extension '.' 'm' ['d'])
  rw [outputBeside, if_pos rfl, own, Option.getD_some]
  cases identifier with
  | nil =>
    have plain : "TECHNIQUE".toList ≠ [] := by decide
    simp only [List.isEmpty_nil, if_true, page plain]
    exact iff_of_true (.name (by decide)) (.name (by simp))
  | cons first rest => exact page (List.cons_ne_nil first rest)

theorem Page.slash_not_mem_of_isIdentifier
    {identifier : Text}
    (numbered : IsIdentifier identifier) :
    '/' ∉ identifier := by
  have numeric : ∀ {count : Nat} {digits : Text}, IsNumber count digits → '/' ∉ digits :=
    fun number member => absurd (number.digits '/' member) (by decide)
  cases numbered with
  | plain main => simp [numeric main]
  | divided main part => simp [numeric main, numeric part]

/-- The technique of a page stays in every folder: a page has no identifier that leads out. -/
theorem sharesFolder_page_of_read
    {page : Text}
    {technique : Technique}
    (known : Page.read page = .ok technique)
    (file : input.fileName?.isSome) :
    SharesFolder (outputBeside input "markdown".toList technique.identifier) input :=
  (sharesFolder_page_iff file technique.identifier).mpr
    (.name (Page.slash_not_mem_of_isIdentifier (Page.isRead_of_read known).identifier))

/--
Where an output beside an input stands.  A record stands in the input's folder as long as
the path of the input ends in its name, and a page does exactly when the identifier of
the technique, as a path from that folder, stays in it.
-/
theorem sharesFolder_outputBeside_iff
    (file : input.fileName?.isSome)
    (identifier : Text) :
    (SharesFolder (outputBeside input "json".toList identifier) input ↔ input.EndsInName) ∧
      (SharesFolder (outputBeside input "markdown".toList identifier) input ↔
        StaysIn (input.parent?.getD []) identifier) :=
  ⟨sharesFolder_record_iff file identifier, sharesFolder_page_iff file identifier⟩

end Folders

/-- A path of a record. -/
def recordPath : FilePath := "dir/record.json".toList

/-- A record whose technique is called by a rooted path. -/
def rootedRecord : Text :=
  "\x7b\"attack_technique\":\"/etc/passwd\",\"display_name\":\"Shell\",".toList ++
    "\"atomic_tests\":[]\x7d".toList

/-- The technique of `rootedRecord`. -/
def rootedTechnique : Technique :=
  ⟨"/etc/passwd".toList, "Shell".toList, none, []⟩

/-- The record beside `recordPath` stands in its folder, and the page of `rootedTechnique` not. -/
theorem sharesFolder_outputBeside_rootedTechnique :
    recordPath.fileName?.isSome ∧
      ((SharesFolder (outputBeside recordPath "json".toList rootedTechnique.identifier)
          recordPath ↔ recordPath.EndsInName) ∧
        (SharesFolder (outputBeside recordPath "markdown".toList rootedTechnique.identifier)
          recordPath ↔ StaysIn "dir".toList rootedTechnique.identifier)) ∧
      recordPath.EndsInName ∧
      ¬ SharesFolder (outputBeside recordPath "markdown".toList rootedTechnique.identifier)
        recordPath :=
  have file : recordPath.fileName?.isSome := by decide
  ⟨file, sharesFolder_outputBeside_iff file rootedTechnique.identifier, by decide, by decide⟩

/-- Not every page beside a record stands in the folder of the record. -/
theorem not_forall_sharesFolder_outputBeside :
    ¬ ∀ (input : FilePath) (record : Text) (technique : Technique),
      input.fileName?.isSome → input.EndsInName → Technique.ofRecord record = .ok technique →
        ∀ target ∈ ["json".toList, "markdown".toList],
          SharesFolder (outputBeside input target technique.identifier) input := by
  intro shared
  have read : Technique.ofRecord rootedRecord = .ok rootedTechnique := by decide +kernel
  have page := shared recordPath rootedRecord rootedTechnique (by decide) (by decide) read
    "markdown".toList (by decide)
  exact absurd page (by decide)

end TechniquePages
