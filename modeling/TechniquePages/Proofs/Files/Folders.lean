import TechniquePages.Proofs.Files.Pieces

/-!
# Folders

What stands above the name of a file is its folder.  Paths may spell one folder in
several ways, so folders are told apart by their parts; these are read off the pieces
above the name, whatever idle pieces are among them.

A path that is not rooted adds its pieces to the folder that it is joined to.
-/

namespace TechniquePages.FilePath

open Text (cutAt)

/-! ## Parts of pieces -/

/-- The parts that pieces stand for, the first of them standing at the start of a path. -/
def partsOf : List Text → List Part
  | [] => []
  | first :: rest =>
    let leading : List Part :=
      if first.isEmpty then [.root]
      else if first = ['.'] then [.here]
      else (laterPart? first).toList
    leading ++ rest.filterMap laterPart?

theorem parts_eq_partsOf
    {path : FilePath}
    (nonempty : path ≠ []) :
    parts path = partsOf (cutAt '/' path) := by
  have rooted := isRooted_iff nonempty
  rw [parts]
  cases pieces : cutAt '/' path with
  | nil => rfl
  | cons first rest =>
    rw [pieces, List.head?_cons, Option.some.injEq, ← List.isEmpty_iff] at rooted
    simp only [partsOf, rooted]

theorem partsOf_append
    {front : List Text}
    (nonempty : front ≠ [])
    (back : List Text) :
    partsOf (front ++ back) = partsOf front ++ back.filterMap laterPart? := by
  cases front with
  | nil => exact absurd rfl nonempty
  | cons first rest => simp [partsOf]

theorem laterPart?_eq_none_iff (piece : Text) :
    laterPart? piece = none ↔ isIdle piece = true := by
  rw [laterPart?, isIdle]
  split
  · simp_all
  · split <;> simp_all

theorem filterMap_laterPart?_eq_nil_iff (pieces : List Text) :
    pieces.filterMap laterPart? = [] ↔ ∀ piece ∈ pieces, isIdle piece = true := by
  simp only [List.filterMap_eq_nil_iff, laterPart?_eq_none_iff]

/-- The first piece of a path always stands for a part. -/
theorem partsOf_eq_nil_iff (pieces : List Text) :
    partsOf pieces = [] ↔ pieces = [] := by
  cases pieces with
  | nil => simp [partsOf]
  | cons first rest =>
    simp only [partsOf, List.append_eq_nil_iff, reduceCtorEq, iff_false, not_and]
    intro silent
    split at silent
    · cases silent
    · split at silent
      · cases silent
      · rename_i filled notHere
        have idle := (laterPart?_eq_none_iff first).mp (by simpa using silent)
        simp_all [isIdle]

/-- The empty path alone has no parts. -/
theorem parts_eq_nil_iff (path : FilePath) :
    parts path = [] ↔ path = [] := by
  constructor
  · intro silent
    by_contra nonempty
    rw [parts_eq_partsOf nonempty, partsOf_eq_nil_iff] at silent
    exact Text.cutAt_ne_nil '/' path silent
  · rintro rfl
    rfl

/-- Pieces that say something lead out of where they are taken from. -/
theorem partsOf_append_ne
    {piece : Text}
    (solid : isIdle piece = false)
    (front rest : List Text) :
    partsOf (front ++ piece :: rest) ≠ partsOf front := by
  intro same
  by_cases alone : front = []
  · rw [alone, List.nil_append, (partsOf_eq_nil_iff []).mpr rfl, partsOf_eq_nil_iff] at same
    cases same
  · rw [partsOf_append alone, List.append_right_eq_self, filterMap_laterPart?_eq_nil_iff] at same
    rw [same piece (List.mem_cons_self ..)] at solid
    cases solid

/-! ## Folders of files -/

theorem parts_ofReversed_dropIdle
    {reversed : List Text}
    (nonempty : reversed ≠ [])
    (unslashed : ∀ piece ∈ reversed, '/' ∉ piece) :
    parts (ofReversed (dropIdle reversed)) = partsOf reversed.reverse := by
  have filled := dropIdle_ne_nil nonempty
  have free : ∀ piece ∈ dropIdle reversed, '/' ∉ piece := fun piece member =>
    unslashed piece (mem_of_mem_dropIdle member)
  have whole : parts (ofReversed (dropIdle reversed)) = partsOf (dropIdle reversed).reverse := by
    by_cases root : dropIdle reversed = [[]]
    · rw [root]
      rfl
    · rw [parts_eq_partsOf (ofReversed_ne_nil filled free), cutAt_ofReversed filled root free]
  rcases exists_append_dropIdle reversed with ⟨idle, split, silent⟩
  have gone : idle.reverse.filterMap laterPart? = [] := by
    rw [filterMap_laterPart?_eq_nil_iff]
    simpa using silent
  have pieces := congrArg List.reverse split
  rw [List.reverse_append] at pieces
  rw [whole, pieces, partsOf_append (by simpa using filled), gone, List.append_nil]

/-- The parts of a folder are those of the pieces above the name. -/
theorem exists_parent?_of_pieces
    {path : FilePath}
    {above : List Text}
    {last : Text}
    (pieces : reversedPieces path = last :: above.reverse)
    (solid : isIdle last = false) :
    ∃ folder, path.parent? = some folder ∧ parts folder = partsOf above := by
  have unslashed := unslashed_reversedPieces path
  rw [pieces, List.forall_mem_cons] at unslashed
  rw [parent?, pieces]
  cases reversed : above.reverse with
  | nil =>
    rw [List.reverse_eq_nil_iff] at reversed
    subst reversed
    exact ⟨[], by simp [(ne_of_not_isIdle solid).1], rfl⟩
  | cons next rest =>
    have same := parts_ofReversed_dropIdle (by simp [reversed]) unslashed.2
    rw [List.reverse_reverse, reversed] at same
    exact ⟨_, rfl, same⟩

theorem exists_parent?_of_cutAt
    {path : FilePath}
    {above : List Text}
    {last : Text}
    (cut : cutAt '/' path = above ++ [last])
    (solid : isIdle last = false) :
    ∃ folder, path.parent? = some folder ∧ parts folder = partsOf above :=
  exists_parent?_of_pieces (reversedPieces_of_cutAt cut solid) solid

/-- The path ends in a name, without a slash or a dot behind it. -/
def EndsInName (path : FilePath) : Prop :=
  ∀ piece ∈ (cutAt '/' path).getLast?, isIdle piece = false

instance (path : FilePath) : Decidable path.EndsInName :=
  inferInstanceAs (Decidable (∀ piece ∈ (cutAt '/' path).getLast?, _))

/-- The paths stand in one folder, however it is spelled. -/
def SharesFolder (path other : FilePath) : Prop :=
  path.parent?.map parts = other.parent?.map parts

instance (path other : FilePath) : Decidable (SharesFolder path other) :=
  inferInstanceAs (Decidable (_ = _))

/-- A longer name leaves a file in its folder, unless the path goes on behind the name. -/
theorem sharesFolder_append_iff
    {path : FilePath}
    (file : path.fileName?.isSome)
    {ending : Text}
    (unslashed : '/' ∉ ending)
    (solid : ∀ piece, isIdle (piece ++ ending) = false) :
    SharesFolder (path ++ ending) path ↔ path.EndsInName := by
  rcases Option.isSome_iff_exists.mp file with ⟨name, named⟩
  rcases exists_pieces_of_fileName? named with ⟨above, idle, cut, pieces, silent, filled, -⟩
  rcases exists_parent?_of_pieces pieces filled with ⟨folder, own, same⟩
  rcases List.eq_nil_or_concat idle with rfl | ⟨between, last, rfl⟩
  · rcases exists_parent?_of_cutAt (Text.cutAt_append_ending unslashed cut) (solid name) with
      ⟨other, found, alike⟩
    rw [SharesFolder, own, found, Option.map_some, Option.map_some, same, alike, EndsInName, cut]
    simp [filled]
  · rw [List.concat_eq_append, ← List.cons_append, ← List.append_assoc] at cut
    rcases exists_parent?_of_cutAt (Text.cutAt_append_ending unslashed cut) (solid last) with
      ⟨other, found, alike⟩
    have blank : isIdle last = true := silent last (by simp)
    rw [SharesFolder, own, found, Option.map_some, Option.map_some, same, alike, EndsInName, cut,
      Option.some.injEq, iff_false_left (partsOf_append_ne filled above between),
      List.getLast?_append_of_ne_nil _ (List.cons_ne_nil last []), List.getLast?_singleton]
    simp [blank]

/-! ## Joined paths -/

section Joined

variable {base path : FilePath}

/-- The pieces of a path come below those of the folder that it is joined to. -/
theorem exists_cutAt_join_parts
    (nonempty : base ≠ [])
    (unrooted : isRooted path = false) :
    ∃ above, above ≠ [] ∧ cutAt '/' (base.join path) = above ++ cutAt '/' path ∧
      partsOf above = parts base := by
  rcases exists_cutAt_join_of_unrooted nonempty unrooted with ⟨above, filled, joined, cut⟩
  refine ⟨above, filled, joined, ?_⟩
  rw [parts_eq_partsOf nonempty]
  rcases cut with cut | cut
  · rw [cut]
  · rw [cut, partsOf_append filled]
    simp [laterPart?]

/-- A joined path adds its parts. -/
theorem parts_join_of_unrooted
    (nonempty : base ≠ [])
    (unrooted : isRooted path = false) :
    parts (base.join path) = parts base ++ (cutAt '/' path).filterMap laterPart? := by
  rcases exists_cutAt_join_parts nonempty unrooted with ⟨above, filled, joined, same⟩
  have full : base.join path ≠ [] := by
    intro empty
    rw [empty, Text.cutAt_nil] at joined
    have lengths := congrArg List.length joined
    have own := List.length_pos_of_ne_nil filled
    have other := List.length_pos_of_ne_nil (Text.cutAt_ne_nil '/' path)
    simp only [List.length_append, List.length_singleton] at lengths
    omega
  rw [parts_eq_partsOf full, joined, partsOf_append filled, same]

/-- A joined name is one part more. -/
theorem parts_join
    {name : Text}
    (named : name ≠ [])
    (notHere : name ≠ ['.'])
    (notUp : name ≠ "..".toList)
    (unslashed : '/' ∉ name)
    (nonempty : base ≠ []) :
    parts (base.join name) = parts base ++ [.name name] := by
  have part : laterPart? name = some (.name name) := by
    rw [laterPart?, if_neg (by simp [named, notHere]), if_neg notUp]
  rw [parts_join_of_unrooted nonempty (isRooted_eq_false unslashed),
    Text.cutAt_eq_singleton unslashed]
  simp [part]

/-- The folder of a joined path. -/
theorem exists_parent?_join
    (folder : FilePath)
    {front : List Text}
    {last : Text}
    (cut : cutAt '/' path = front ++ [last])
    (solid : isIdle last = false) :
    ∃ own, (folder.join path).parent? = some own ∧ parts own =
      if isRooted path || folder.isEmpty then partsOf front
      else parts folder ++ front.filterMap laterPart? := by
  by_cases alone : isRooted path || folder.isEmpty
  · have itself : folder.join path = path := by
      rw [join]
      rcases Bool.or_eq_true_iff.mp alone with rooted | empty
      · rw [if_pos rooted]
      · simp [List.isEmpty_iff.mp empty]
    rw [itself, if_pos alone]
    exact exists_parent?_of_cutAt cut solid
  · rw [Bool.or_eq_true, not_or, Bool.not_eq_true, List.isEmpty_iff] at alone
    rcases exists_cutAt_join_parts alone.2 alone.1 with ⟨above, filled, joined, same⟩
    rw [cut, ← List.append_assoc] at joined
    rcases exists_parent?_of_cutAt joined solid with ⟨own, found, alike⟩
    refine ⟨own, found, ?_⟩
    simp [alike, alone, partsOf_append filled, same]

/--
A text that leads, as a path from a folder, to a file in that folder: a mere name, a name
behind pieces that say nothing, or a rooted path that goes through the folder.
-/
inductive StaysIn (folder : FilePath) (text : Text) : Prop where
  | name (unslashed : '/' ∉ text)
  | idle
    (nonempty : folder ≠ [])
    (unrooted : isRooted text = false)
    (silent : ∀ piece ∈ (cutAt '/' text).dropLast, isIdle piece = true)
  | rooted
    (rooted : isRooted text = true)
    (same : partsOf (cutAt '/' text).dropLast = parts folder)

/-- A file that a text leads to, with an ending, stands in a folder if the text stays there. -/
theorem sharesFolder_join_iff
    {folder : FilePath}
    (above : path.parent? = some folder)
    {text ending : Text}
    (nonempty : text ≠ [])
    (unslashed : '/' ∉ ending)
    (solid : ∀ piece, isIdle (piece ++ ending) = false) :
    SharesFolder (folder.join (text ++ ending)) path ↔ StaysIn folder text := by
  have cut := (List.dropLast_append_getLast (Text.cutAt_ne_nil '/' text)).symm
  rcases exists_parent?_join folder (Text.cutAt_append_ending unslashed cut) (solid _) with
    ⟨own, found, alike⟩
  have start : isRooted (text ++ ending) = isRooted text := by
    cases text with
    | nil => exact absurd rfl nonempty
    | cons first rest => rfl
  rw [SharesFolder, above, found, Option.map_some, Option.map_some, Option.some.injEq, alike, start]
  -- A rooted text is joined to nothing, and to the empty folder every text is the whole path.
  cases rooted : isRooted text with
  | true =>
    rw [Bool.true_or, if_pos rfl]
    constructor
    · exact .rooted rooted
    · intro stays
      cases stays with
      | name mere => rw [isRooted_eq_false mere] at rooted; cases rooted
      | idle filled unrooted silent => rw [unrooted] at rooted; cases rooted
      | rooted itself same => exact same
  | false =>
    by_cases empty : folder = []
    · rw [if_pos (by simp [empty]), (parts_eq_nil_iff folder).mpr empty, partsOf_eq_nil_iff,
        Text.dropLast_cutAt_eq_nil_iff]
      constructor
      · exact .name
      · intro stays
        cases stays with
        | name mere => exact mere
        | idle filled unrooted silent => exact absurd empty filled
        | rooted itself same => rw [itself] at rooted; cases rooted
    · rw [if_neg (by simp [empty]), List.append_right_eq_self, filterMap_laterPart?_eq_nil_iff]
      constructor
      · exact .idle empty rooted
      · intro stays
        cases stays with
        | name mere => simp [(Text.dropLast_cutAt_eq_nil_iff '/' text).mpr mere]
        | idle filled unrooted silent => exact silent
        | rooted itself same => rw [itself] at rooted; cases rooted

end Joined

end TechniquePages.FilePath
