import TechniquePages.Proofs.Files.Growth
import TechniquePages.Proofs.Files.Pieces

/-!
# Places of paths

A path is followed piece by piece from where it starts.  Every piece that is not
empty asks that a directory has been reached, so an idle piece before a name asks
for nothing that the name does not ask for.

A path that is found is found again in a tree that has grown, at the same place.
What a path adds to another one by joining, and what its parent leaves out, is the
last name of its place.
-/

namespace TechniquePages.FileTree

open FilePath (isIdle names dropIdle ofReversed reversedPieces)
open Text (cutAt)

/-- Where a path starts to be followed. -/
def start (tree : FileTree) (path : FilePath) : Place :=
  if path.isRooted then [] else tree.home

theorem Grown.start_eq
    {made written : Place → Prop}
    {before after : FileTree}
    (grown : Grown made written before after)
    (path : FilePath) :
    after.start path = before.start path := by
  rw [start, grown.home, start]

theorem locate_eq
    (tree : FileTree)
    {path : FilePath}
    (unended : '\x00' ∉ path)
    (nonempty : path ≠ []) :
    tree.locate path = tree.follow (tree.start path) (cutAt '/' path) := by
  rw [locate, if_neg (by simpa using unended), if_neg (by simpa using nonempty), start]

/-- A path that is found is a text without a final mark, followed to its end. -/
theorem locate_eq_ok_iff
    (tree : FileTree)
    (path : FilePath)
    (place : Place) :
    tree.locate path = .ok place ↔
      '\x00' ∉ path ∧ path ≠ [] ∧ tree.follow (tree.start path) (cutAt '/' path) = .ok place := by
  by_cases ended : '\x00' ∈ path
  · simp [locate, ended]
  · by_cases empty : path = []
    · simp [locate, empty]
    · simp [locate_eq tree ended empty, ended, empty]

/-! ## Following pieces -/

theorem follow_cons_of_hasDirectory
    {tree : FileTree}
    {place : Place}
    (directory : tree.hasDirectory place)
    {piece : Text}
    (nonempty : piece ≠ [])
    (rest : List Text) :
    tree.follow place (piece :: rest) =
      if piece = ['.'] then tree.follow place rest
      else if piece = "..".toList then tree.follow place.dropLast rest
      else if nameLimit < byteLength piece then .error .nameTooLong
      else tree.follow (place ++ [piece]) rest := by
  rw [follow, if_neg (by simpa using nonempty), if_neg (by simp [directory])]

theorem follow_cons_of_not_hasDirectory
    {tree : FileTree}
    {place : Place}
    (blocked : ¬ tree.hasDirectory place)
    {piece : Text}
    (nonempty : piece ≠ [])
    (rest : List Text) :
    tree.follow place (piece :: rest) = .error (tree.obstacle place) := by
  rw [follow, if_neg (by simpa using nonempty), if_pos (by simpa using blocked)]

theorem follow_append
    (tree : FileTree)
    (place : Place)
    (front back : List Text) :
    tree.follow place (front ++ back) =
      match tree.follow place front with
      | .ok reached => tree.follow reached back
      | .error fault => .error fault := by
  induction front generalizing place with
  | nil => rfl
  | cons piece rest hypothesis =>
    simp only [List.cons_append, follow, hypothesis]
    split_ifs <;> rfl

theorem follow_name
    (tree : FileTree)
    (place : Place)
    {name : Text}
    (proper : IsName name) :
    tree.follow place [name] =
      if tree.hasDirectory place then .ok (place ++ [name]) else .error (tree.obstacle place) := by
  split
  · rename_i directory
    rw [follow_cons_of_hasDirectory directory proper.nonempty, if_neg proper.notHere,
      if_neg proper.notUp, if_neg (Nat.not_lt.mpr proper.short), follow]
  · rename_i blocked
    exact follow_cons_of_not_hasDirectory blocked proper.nonempty []

/-- Idle pieces lead nowhere else. -/
theorem follow_of_isIdle
    {tree : FileTree}
    {place reached : Place}
    {idle : List Text}
    (silent : ∀ piece ∈ idle, isIdle piece = true)
    (followed : tree.follow place idle = .ok reached) :
    reached = place := by
  induction idle with
  | nil =>
    cases followed
    rfl
  | cons piece rest hypothesis =>
    rcases List.forall_mem_cons.mp silent with ⟨own, others⟩
    by_cases empty : piece = []
    · exact hypothesis others (by simpa [follow, empty] using followed)
    · have here : piece = ['.'] := by simpa [isIdle, empty] using own
      by_cases directory : tree.hasDirectory place
      · rw [follow_cons_of_hasDirectory directory empty, if_pos here] at followed
        exact hypothesis others followed
      · rw [follow_cons_of_not_hasDirectory directory empty] at followed
        cases followed

/-- Before a piece that says something, idle pieces ask for nothing more. -/
theorem follow_filter
    (tree : FileTree)
    (place : Place)
    (front : List Text)
    {name : Text}
    (solid : isIdle name = false) :
    tree.follow place (front ++ [name]) =
      tree.follow place (front.filter (fun piece => !isIdle piece) ++ [name]) := by
  have nonempty : ∀ {piece}, isIdle piece = false → piece ≠ [] := by
    rintro piece full rfl
    cases full
  induction front generalizing place with
  | nil => rfl
  | cons piece rest hypothesis =>
    by_cases idle : isIdle piece = true
    · rw [List.filter_cons_of_neg (by simpa using idle), List.cons_append]
      by_cases empty : piece = []
      · simpa [follow, empty] using hypothesis place
      · have here : piece = ['.'] := by simpa [isIdle, empty] using idle
        by_cases directory : tree.hasDirectory place
        · rw [follow_cons_of_hasDirectory directory empty, if_pos here]
          exact hypothesis place
        · -- Without a directory, the next piece that says something stops as well.
          rw [follow_cons_of_not_hasDirectory directory empty]
          cases more : rest.filter fun piece => !isIdle piece with
          | nil => exact (follow_cons_of_not_hasDirectory directory (nonempty solid) []).symm
          | cons next others =>
            have full : isIdle next = false := by
              have member : next ∈ rest.filter fun piece => !isIdle piece := by simp [more]
              simpa using (List.mem_filter.mp member).2
            exact (follow_cons_of_not_hasDirectory directory (nonempty full) _).symm
    · rw [List.filter_cons_of_pos (by simpa using idle), List.cons_append, List.cons_append]
      simp only [follow, hypothesis]

/-- What is reached in a tree is reached in one with more directories. -/
theorem follow_mono
    {before after : FileTree}
    (kept : ∀ place, before.hasDirectory place → after.hasDirectory place)
    {place reached : Place}
    {pieces : List Text}
    (followed : before.follow place pieces = .ok reached) :
    after.follow place pieces = .ok reached := by
  induction pieces generalizing place with
  | nil => exact followed
  | cons piece rest hypothesis =>
    by_cases empty : piece = []
    · simp only [follow, empty] at followed ⊢
      exact hypothesis followed
    · by_cases directory : before.hasDirectory place
      · rw [follow_cons_of_hasDirectory directory empty] at followed
        rw [follow_cons_of_hasDirectory (kept place directory) empty]
        split_ifs at followed ⊢ <;> exact hypothesis followed
      · rw [follow_cons_of_not_hasDirectory directory empty] at followed
        cases followed

theorem Grown.locate
    {made written : Place → Prop}
    {before after : FileTree}
    (grown : Grown made written before after)
    {path : FilePath}
    {place : Place}
    (located : before.locate path = .ok place) :
    after.locate path = .ok place := by
  rw [locate_eq_ok_iff] at located ⊢
  rcases located with ⟨unended, nonempty, followed⟩
  rw [grown.start_eq]
  exact ⟨unended, nonempty, follow_mono (fun _ => grown.hasDirectory) followed⟩

/-! ## Joined names -/

theorem start_join
    (tree : FileTree)
    {name : Text}
    (proper : IsName name)
    (base : FilePath) :
    tree.start (base.join name) = tree.start base := by
  rw [start, start]
  by_cases empty : base = []
  · have same : FilePath.join [] name = name := by simp [FilePath.join]
    rw [empty, same, FilePath.isRooted_eq_false proper.unslashed]
    rfl
  · rw [FilePath.isRooted_join proper.nonempty proper.unslashed empty]

/-- The place of a joined name is in the directory of the path it is joined to. -/
theorem locate_join
    (tree : FileTree)
    {base : FilePath}
    {name : Text}
    (nonempty : base ≠ [])
    (proper : IsName name)
    (place : Place) :
    tree.locate (base.join name) = .ok place ↔
      ∃ above, tree.locate base = .ok above ∧ tree.hasDirectory above ∧
        place = above ++ [name] := by
  have marks : '\x00' ∉ base.join name ↔ '\x00' ∉ base := by
    rw [FilePath.join]
    split
    · rename_i rooted
      rw [FilePath.isRooted_eq_false proper.unslashed] at rooted
      cases rooted
    · split <;> simp [proper.unended]
  have begins := tree.start_join proper base
  rcases FilePath.exists_cutAt_join nonempty proper.unslashed with ⟨above, -, joined, cut⟩
  -- An empty piece at the end of the base leads nowhere else.
  have same : tree.follow (tree.start base) (cutAt '/' base) =
      tree.follow (tree.start base) above := by
    rcases cut with cut | cut
    · rw [cut]
    · rw [cut, follow_append]
      cases tree.follow (tree.start base) above <;> rfl
  have named := FilePath.join_ne_nil proper.nonempty base
  simp only [locate_eq_ok_iff, marks, begins, joined, same, follow_append,
    follow_name tree _ proper]
  cases reached : tree.follow (tree.start base) above with
  | error fault => simp
  | ok found =>
    by_cases directory : tree.hasDirectory found
    · simp only [directory, if_true, named, nonempty, ne_eq, not_false_eq_true, true_and,
        Except.ok.injEq]
      constructor
      · rintro ⟨free, rfl⟩
        exact ⟨found, ⟨free, rfl⟩, directory, rfl⟩
      · rintro ⟨other, ⟨free, rfl⟩, -, rfl⟩
        exact ⟨free, rfl⟩
    · simp [directory]

/-- A joined name is the last name of its place, whatever it is joined to. -/
theorem exists_of_locate_join
    {tree : FileTree}
    {base : FilePath}
    {name : Text}
    (proper : IsName name)
    {place : Place}
    (located : tree.locate (base.join name) = .ok place) :
    ∃ above, place = above ++ [name] := by
  by_cases empty : base = []
  · have same : FilePath.join [] name = name := by simp [FilePath.join]
    rw [empty, same, locate_eq tree proper.unended proper.nonempty,
      Text.cutAt_eq_singleton proper.unslashed, follow_name tree _ proper] at located
    split at located
    · exact ⟨_, (Except.ok.inj located).symm⟩
    · cases located
  · rcases (locate_join tree empty proper place).mp located with ⟨above, -, -, last⟩
    exact ⟨above, last⟩

/-- A joined name asks for no directory. -/
theorem asksDirectory_join
    {name : Text}
    (named : name ≠ [])
    (unslashed : '/' ∉ name)
    (base : FilePath) :
    asksDirectory (base.join name) = false := by
  rw [asksDirectory, FilePath.getLast?_join named]
  by_contra slash
  have last : name.getLast? = some '/' := by simpa using slash
  exact unslashed (List.mem_of_getLast? last)

theorem foldl_join_ne_nil
    {root : FilePath}
    (nonempty : root ≠ [])
    {names : Place}
    (proper : ∀ name ∈ names, IsName name) :
    names.foldl FilePath.join root ≠ [] := by
  induction names generalizing root with
  | nil => exact nonempty
  | cons name rest hypothesis =>
    rcases List.forall_mem_cons.mp proper with ⟨good, others⟩
    exact hypothesis (FilePath.join_ne_nil good.nonempty root) others

/-- The parent of a path below a root is told by all names but the last. -/
theorem parent?_foldl_join
    {root : FilePath}
    (nonempty : root ≠ [])
    {front : Place}
    {last : Text}
    (proper : ∀ name ∈ front ++ [last], IsName name) :
    ((front ++ [last]).foldl FilePath.join root).parent? =
      some (ofReversed (reversedPieces (front.foldl FilePath.join root))) := by
  have filled := foldl_join_ne_nil nonempty fun name member =>
    proper name (List.mem_append_left _ member)
  have good := proper last (by simp)
  rw [List.foldl_append, List.foldl_cons, List.foldl_nil,
    FilePath.parent?_join_of_ne_nil filled good.nonempty good.notHere good.unslashed]

/-- An entry below the place of a path is found by joining its names to the path. -/
theorem locate_below
    {tree : FileTree}
    (grounded : tree.IsGrounded)
    {root : FilePath}
    {place : Place}
    (located : tree.locate root = .ok place)
    {below : Place}
    (proper : ∀ name ∈ below, IsName name)
    (present : (tree.entry? (place ++ below)).isSome) :
    tree.locate (below.foldl FilePath.join root) = .ok (place ++ below) := by
  have nonempty := ((locate_eq_ok_iff ..).mp located).2.1
  induction below using List.reverseRecOn with
  | nil => simpa using located
  | append_singleton front name hypothesis =>
    rw [← List.append_assoc] at present
    have directory := grounded.above _ _ present
    have good : ∀ other ∈ front, IsName other := fun other member => proper other (by simp [member])
    have reached := hypothesis good (by rw [(hasDirectory_iff ..).mp directory]; rfl)
    rw [List.foldl_append, List.foldl_cons, List.foldl_nil,
      locate_join tree (foldl_join_ne_nil nonempty good) (proper name (by simp))]
    exact ⟨_, reached, directory, (List.append_assoc ..).symm⟩

/-! ## Parents -/

/-- A path of reversed pieces is followed through them. -/
theorem locate_ofReversed
    (tree : FileTree)
    {reversed : List Text}
    (nonempty : reversed ≠ [])
    (unslashed : ∀ piece ∈ reversed, '/' ∉ piece)
    (unended : ∀ piece ∈ reversed, '\x00' ∉ piece) :
    tree.locate (ofReversed reversed) =
      tree.follow (if reversed.getLast? = some [] then [] else tree.home) reversed.reverse := by
  have full := FilePath.ofReversed_ne_nil nonempty unslashed
  have begins : tree.start (ofReversed reversed) =
      if reversed.getLast? = some [] then [] else tree.home := by
    rw [start]
    exact if_congr (FilePath.isRooted_ofReversed nonempty unslashed) rfl rfl
  by_cases root : reversed = [[]]
  · rw [root]
    rfl
  · have free : '\x00' ∉ ofReversed reversed := by
      rw [FilePath.ofReversed, if_neg root]
      intro member
      rcases Text.mem_joinWith member with inside | ⟨piece, present, inside⟩
      · simp at inside
      · exact unended piece (List.mem_reverse.mp present) inside
    rw [locate_eq tree free full, begins, FilePath.cutAt_ofReversed nonempty root unslashed]

/-- A path that is found and has a name is found in the directory that the name is in. -/
theorem exists_directory_of_fileName?
    {tree : FileTree}
    {path : FilePath}
    {name : Text}
    {place : Place}
    (located : tree.locate path = .ok place)
    (named : path.fileName? = some name) :
    ∃ front directory, reversedPieces path = name :: front.reverse ∧
      (∀ piece ∈ front, '\x00' ∉ piece) ∧ place = directory ++ [name] ∧
      tree.hasDirectory directory ∧ tree.follow (tree.start path) front = .ok directory := by
  rw [locate_eq_ok_iff] at located
  rcases located with ⟨unended, full, followed⟩
  rcases FilePath.exists_pieces_of_fileName? named with
    ⟨front, idle, cut, pieces, silent, solid, notUp⟩
  have proper : name ≠ [] := by
    rintro rfl
    cases solid
  have notHere : name ≠ ['.'] := by
    rintro rfl
    cases solid
  rw [cut, follow_append] at followed
  cases reached : tree.follow (tree.start path) front with
  | error fault => simp [reached] at followed
  | ok directory =>
    simp only [reached] at followed
    have present : tree.hasDirectory directory := by
      by_contra blocked
      rw [follow_cons_of_not_hasDirectory blocked proper] at followed
      cases followed
    rw [follow_cons_of_hasDirectory present proper, if_neg notHere, if_neg notUp] at followed
    refine ⟨front, directory, pieces, fun piece member ended => unended ?_, ?_, present, reached⟩
    · have inside : piece ∈ cutAt '/' path := by
        rw [cut]
        exact List.mem_append_left _ member
      exact Text.subset_of_mem_cutAt inside ended
    · split at followed
      · cases followed
      · exact follow_of_isIdle silent followed

/-- The parent of a path is found where the pieces above the last one lead. -/
theorem locate_parent_of_follow
    {tree : FileTree}
    {path parent : FilePath}
    {front : List Text}
    {last : Text}
    {directory : Place}
    (above : path.parent? = some parent)
    (pieces : reversedPieces path = last :: front.reverse)
    (solid : isIdle last = false)
    (filled : front ≠ [])
    (unended : ∀ piece ∈ front, '\x00' ∉ piece)
    (reached : tree.follow (tree.start path) front = .ok directory) :
    parent.IsSettled ∧ tree.locate parent = .ok directory := by
  rcases FilePath.exists_parent? pieces solid (by simpa using filled) with
    ⟨other, higher, settled, same, rooted, -, -⟩
  rw [above] at higher
  cases higher
  refine ⟨settled, ?_⟩
  -- What the parent leaves out of the pieces before the last one is idle.
  rcases FilePath.exists_append_dropIdle front.reverse with ⟨left, split, quiet⟩
  have whole : front = (reversedPieces parent).reverse ++ left.reverse := by
    rw [same, ← List.reverse_append, ← split, List.reverse_reverse]
  have unslashed := FilePath.unslashed_reversedPieces parent
  have pieceful : reversedPieces parent ≠ [] := by
    rw [same]
    exact FilePath.dropIdle_ne_nil (by simpa using filled)
  have begins : (if (reversedPieces parent).getLast? = some [] then [] else tree.home) =
      tree.start path := by
    have root := FilePath.isRooted_ofReversed pieceful unslashed
    rw [settled.settled] at root
    rw [start, ← rooted]
    exact if_congr root.symm rfl rfl
  rw [whole, follow_append] at reached
  rw [← settled.settled, locate_ofReversed tree pieceful unslashed]
  · rw [begins]
    cases ahead : tree.follow (tree.start path) (reversedPieces parent).reverse with
    | error fault => simp [ahead] at reached
    | ok found =>
      rw [ahead] at reached
      rw [follow_of_isIdle (by simpa using quiet) reached]
  · intro piece member
    refine unended piece ?_
    rw [whole]
    exact List.mem_append_left _ (List.mem_reverse.mpr member)

/-- The parent of a path that is found and has a name is the directory the name is in. -/
theorem locate_parent
    {tree : FileTree}
    {path parent : FilePath}
    {name : Text}
    {place : Place}
    (located : tree.locate path = .ok place)
    (named : path.fileName? = some name)
    (above : path.parent? = some parent)
    (nonempty : parent ≠ []) :
    parent.IsSettled ∧ ∃ directory, place = directory ++ [name] ∧ tree.hasDirectory directory ∧
      tree.locate parent = .ok directory := by
  rcases exists_directory_of_fileName? located named with
    ⟨front, directory, pieces, unended, last, present, reached⟩
  rcases FilePath.exists_above_of_parent? named above nonempty with ⟨_, split, solid, filled⟩
  rw [pieces] at split
  cases split
  rcases locate_parent_of_follow above pieces solid (by simpa using filled) unended reached with
    ⟨settled, found⟩
  exact ⟨settled, directory, last, present, found⟩

/-- The parent of a path that is found is a directory. -/
theorem isDirectory_of_parent?
    {tree : FileTree}
    {path parent : FilePath}
    {place : Place}
    (located : tree.locate path = .ok place)
    (above : path.parent? = some parent)
    (nonempty : parent ≠ []) :
    tree.isDirectory parent = true := by
  rcases FilePath.exists_pieces_of_parent? above nonempty with
    ⟨front, last, idle, cut, pieces, solid, filled⟩
  rcases (locate_eq_ok_iff ..).mp located with ⟨unended, -, followed⟩
  rw [cut, follow_append] at followed
  cases reached : tree.follow (tree.start path) front with
  | error fault => simp [reached] at followed
  | ok directory =>
    simp only [reached] at followed
    have present : tree.hasDirectory directory := by
      by_contra blocked
      rw [follow_cons_of_not_hasDirectory blocked (FilePath.ne_of_not_isIdle solid).1] at followed
      cases followed
    have free : ∀ piece ∈ front, '\x00' ∉ piece := by
      intro piece member ended
      have inside : piece ∈ cutAt '/' path := by
        rw [cut]
        exact List.mem_append_left _ member
      exact unended (Text.subset_of_mem_cutAt inside ended)
    have found := (locate_parent_of_follow above pieces solid filled free reached).2
    rw [isDirectory, found]
    exact present

end TechniquePages.FileTree
