import TechniquePages.Files.Path
import TechniquePages.Proofs.Text.Lines

/-!
# Pieces of paths

A path is cut at its slashes.  Joining a name to a path adds one piece, and what
is said of the joined path is read off its pieces: its name is the added one, and its
parent is the path it was added to.

An idle piece says nothing, so the names of a path are its other pieces.  They
do not change when idle pieces are dropped from the end.
-/

namespace TechniquePages.FilePath

open Text (cutAt)

/-- A piece that says nothing: an empty one, or a dot. -/
def isIdle (piece : Text) : Bool :=
  piece.isEmpty || piece = ['.']

/-- The pieces of a path that say something. -/
def names (path : FilePath) : List Text :=
  (cutAt '/' path).filter fun piece => !isIdle piece

/-- A path has no more names than characters. -/
theorem length_names_le (path : FilePath) : (names path).length ≤ path.length := by
  rw [names]
  induction path with
  | nil => rfl
  | cons character rest hypothesis =>
    rw [cutAt]
    split
    · rw [List.filter_cons_of_neg (by simp [isIdle])]
      exact Nat.le_succ_of_le hypothesis
    · cases pieces : cutAt '/' rest with
      | nil => exact absurd pieces (Text.cutAt_ne_nil '/' rest)
      | cons piece more =>
        rw [pieces] at hypothesis
        have fewer : (more.filter fun piece => !isIdle piece).length ≤ rest.length :=
          ((List.sublist_cons_self piece more).filter _).length_le.trans hypothesis
        simp only [List.filter_cons, List.length_cons]
        split
        · exact Nat.succ_le_succ fewer
        · exact Nat.le_succ_of_le fewer

/-- A path whose parts lead down has no name that leads up. -/
theorem up_mem_parts
    {path : FilePath}
    (member : "..".toList ∈ names path) :
    Part.up ∈ parts path := by
  have inside : "..".toList ∈ cutAt '/' path := (List.mem_filter.mp member).1
  rw [parts]
  cases pieces : cutAt '/' path with
  | nil => exact absurd pieces (Text.cutAt_ne_nil '/' path)
  | cons first rest =>
    rw [pieces] at inside
    rcases List.mem_cons.mp inside with same | later
    · have unrooted : isRooted path = false := by
        cases path with
        | nil => rfl
        | cons character more =>
          by_cases slash : character = '/'
          · rw [cutAt, if_pos slash] at pieces
            rw [← (List.cons.inj pieces).1] at same
            cases same
          · simp [isRooted, slash]
      simp [unrooted, ← same, laterPart?]
    · refine List.mem_append_right _ (List.mem_filterMap.mpr ⟨"..".toList, later, ?_⟩)
      rfl

/-! ## Idle pieces -/

theorem ne_of_not_isIdle
    {piece : Text}
    (solid : isIdle piece = false) :
    piece ≠ [] ∧ piece ≠ ['.'] := by
  simpa [isIdle] using solid

theorem dropIdle_cons_of_not_isIdle
    {last : Text}
    (solid : isIdle last = false)
    (rest : List Text) :
    dropIdle (last :: rest) = last :: rest := by
  cases rest with
  | nil => rfl
  | cons next more =>
    rw [dropIdle, if_neg]
    simpa [isIdle] using solid

/-- A path that ends in a piece that says something has all its pieces. -/
theorem reversedPieces_of_cutAt
    {path : FilePath}
    {above : List Text}
    {last : Text}
    (cut : cutAt '/' path = above ++ [last])
    (solid : isIdle last = false) :
    reversedPieces path = last :: above.reverse := by
  rw [reversedPieces, cut, List.reverse_append, List.reverse_singleton, List.singleton_append,
    dropIdle_cons_of_not_isIdle solid]

/-- Dropping idle pieces drops nothing else. -/
theorem exists_append_dropIdle (reversed : List Text) :
    ∃ idle, reversed = idle ++ dropIdle reversed ∧ ∀ piece ∈ idle, isIdle piece = true := by
  fun_induction dropIdle reversed with
  | case1 => exact ⟨[], rfl, by simp⟩
  | case2 first => exact ⟨[], rfl, by simp⟩
  | case3 last next rest idle hypothesis =>
    rcases hypothesis with ⟨more, split, others⟩
    refine ⟨last :: more, by rw [List.cons_append, ← split], ?_⟩
    exact List.forall_mem_cons.mpr ⟨by simpa [isIdle] using idle, others⟩
  | case4 last next rest solid => exact ⟨[], rfl, by simp⟩

/-- What is left is empty, one piece, or ends in a piece that says something. -/
theorem dropIdle_cases (reversed : List Text) :
    dropIdle reversed = [] ∨ (∃ first, dropIdle reversed = [first]) ∨
      ∃ last rest, dropIdle reversed = last :: rest ∧ isIdle last = false := by
  fun_induction dropIdle reversed with
  | case1 => exact Or.inl rfl
  | case2 first => exact Or.inr (Or.inl ⟨first, rfl⟩)
  | case3 last next rest idle hypothesis => exact hypothesis
  | case4 last next rest solid =>
    exact Or.inr (Or.inr ⟨last, next :: rest, rfl, by simpa [isIdle] using solid⟩)

theorem dropIdle_ne_nil
    {reversed : List Text}
    (nonempty : reversed ≠ []) :
    dropIdle reversed ≠ [] := by
  fun_induction dropIdle reversed with
  | case1 => exact nonempty
  | case2 first => simp
  | case3 last next rest idle hypothesis => exact hypothesis (by simp)
  | case4 last next rest solid => simp

/-- The first piece always stays. -/
theorem getLast?_dropIdle (reversed : List Text) :
    (dropIdle reversed).getLast? = reversed.getLast? := by
  fun_induction dropIdle reversed with
  | case1 => rfl
  | case2 first => rfl
  | case3 last next rest idle hypothesis => rw [hypothesis, List.getLast?_cons_cons]
  | case4 last next rest solid => rfl

theorem dropIdle_dropIdle (reversed : List Text) :
    dropIdle (dropIdle reversed) = dropIdle reversed := by
  rcases dropIdle_cases reversed with none | ⟨first, one⟩ | ⟨last, rest, more, solid⟩
  · rw [none]
    rfl
  · rw [one]
    rfl
  · rw [more, dropIdle_cons_of_not_isIdle solid]

theorem mem_of_mem_dropIdle
    {reversed : List Text}
    {piece : Text}
    (member : piece ∈ dropIdle reversed) :
    piece ∈ reversed := by
  rcases exists_append_dropIdle reversed with ⟨idle, split, -⟩
  rw [split]
  exact List.mem_append_right _ member

theorem filter_dropIdle (reversed : List Text) :
    (dropIdle reversed).filter (fun piece => !isIdle piece) =
      reversed.filter fun piece => !isIdle piece := by
  rcases exists_append_dropIdle reversed with ⟨idle, split, silent⟩
  have gone : (idle.filter fun piece => !isIdle piece) = [] :=
    List.filter_eq_nil_iff.mpr (by simpa using silent)
  have parted := congrArg (List.filter fun piece => !isIdle piece) split
  rw [parted, List.filter_append, gone, List.nil_append]

/-! ## Pieces and roots -/

theorem isRooted_eq_false
    {path : FilePath}
    (unslashed : '/' ∉ path) :
    isRooted path = false := by
  cases path with
  | nil => rfl
  | cons first rest =>
    have other : first ≠ '/' := fun same => unslashed (by simp [same])
    simp [isRooted, other]

theorem isRooted_iff
    {path : FilePath}
    (nonempty : path ≠ []) :
    isRooted path = true ↔ (cutAt '/' path).head? = some [] := by
  cases path with
  | nil => exact absurd rfl nonempty
  | cons character rest =>
    by_cases slash : character = '/'
    · simp [isRooted, cutAt, slash]
    · cases pieces : cutAt '/' rest <;> simp [isRooted, cutAt, slash, pieces]

/-- A path of reversed pieces is cut into them, but for the root. -/
theorem cutAt_ofReversed
    {reversed : List Text}
    (nonempty : reversed ≠ [])
    (solid : reversed ≠ [[]])
    (unslashed : ∀ piece ∈ reversed, '/' ∉ piece) :
    cutAt '/' (ofReversed reversed) = reversed.reverse := by
  rw [ofReversed, if_neg solid]
  exact Text.cutAt_joinWith_of_not_mem (by simpa using nonempty) (by simpa using unslashed)

theorem ofReversed_ne_nil
    {reversed : List Text}
    (nonempty : reversed ≠ [])
    (unslashed : ∀ piece ∈ reversed, '/' ∉ piece) :
    ofReversed reversed ≠ [] := by
  by_cases root : reversed = [[]]
  · simp [ofReversed, root]
  · intro empty
    have pieces := cutAt_ofReversed nonempty root unslashed
    rw [empty, Text.cutAt_nil] at pieces
    exact root (by simpa using (congrArg List.reverse pieces).symm)

theorem isRooted_ofReversed
    {reversed : List Text}
    (nonempty : reversed ≠ [])
    (unslashed : ∀ piece ∈ reversed, '/' ∉ piece) :
    isRooted (ofReversed reversed) = true ↔ reversed.getLast? = some [] := by
  by_cases root : reversed = [[]]
  · simp [root, ofReversed, isRooted]
  · rw [isRooted_iff (ofReversed_ne_nil nonempty unslashed),
      cutAt_ofReversed nonempty root unslashed, List.head?_reverse]

theorem reversedPieces_ofReversed
    {reversed : List Text}
    (nonempty : reversed ≠ [])
    (unslashed : ∀ piece ∈ reversed, '/' ∉ piece)
    (settled : dropIdle reversed = reversed) :
    reversedPieces (ofReversed reversed) = reversed := by
  by_cases root : reversed = [[]]
  · rw [root]
    rfl
  · rw [reversedPieces, cutAt_ofReversed nonempty root unslashed, List.reverse_reverse, settled]

theorem unslashed_reversedPieces
    (path : FilePath) :
    ∀ piece ∈ reversedPieces path, '/' ∉ piece := by
  intro piece member
  have inside := mem_of_mem_dropIdle member
  exact Text.not_mem_of_mem_cutAt (List.mem_reverse.mp inside)

/-- A path that has a name is its pieces above, the name, and idle pieces. -/
theorem exists_pieces_of_fileName?
    {path : FilePath}
    {name : Text}
    (named : path.fileName? = some name) :
    ∃ above idle, cutAt '/' path = above ++ name :: idle ∧
      reversedPieces path = name :: above.reverse ∧
      (∀ piece ∈ idle, isIdle piece = true) ∧
      isIdle name = false ∧ name ≠ "..".toList := by
  rcases exists_append_dropIdle (cutAt '/' path).reverse with ⟨idle, split, silent⟩
  rw [fileName?] at named
  cases found : reversedPieces path with
  | nil => simp [found] at named
  | cons last rest =>
    simp only [found] at named
    split at named
    · cases named
    · rename_i solid
      cases named
      rw [show dropIdle (cutAt '/' path).reverse = reversedPieces path from rfl, found] at split
      refine ⟨rest.reverse, idle.reverse, ?_, by rw [List.reverse_reverse], ?_, ?_, ?_⟩
      · rw [← List.reverse_reverse (cutAt '/' path), split]
        simp
      · simpa using silent
      · simp only [Bool.or_eq_true, decide_eq_true_eq, not_or] at solid
        simpa [isIdle] using solid.1
      · simp only [Bool.or_eq_true, decide_eq_true_eq, not_or] at solid
        exact solid.2

/-- A path that has a parent to name is its pieces above, a last one that says something, and
idle pieces. -/
theorem exists_pieces_of_parent?
    {path parent : FilePath}
    (above : path.parent? = some parent)
    (nonempty : parent ≠ []) :
    ∃ front last idle, cutAt '/' path = front ++ last :: idle ∧
      reversedPieces path = last :: front.reverse ∧ isIdle last = false ∧ front ≠ [] := by
  rcases exists_append_dropIdle (cutAt '/' path).reverse with ⟨idle, split, -⟩
  change _ = idle ++ reversedPieces path at split
  rw [parent?] at above
  have shape := dropIdle_cases (cutAt '/' path).reverse
  change reversedPieces path = [] ∨ (∃ first, reversedPieces path = [first]) ∨ _ at shape
  rcases shape with none | ⟨first, one⟩ | ⟨last, rest, more, solid⟩
  · simp [none] at above
  · simp only [one] at above
    split at above
    · cases above
    · exact absurd (Option.some.inj above).symm nonempty
  · change reversedPieces path = last :: rest at more
    refine ⟨rest.reverse, last, idle.reverse, ?_, by rw [more, List.reverse_reverse], solid, ?_⟩
    · rw [← List.reverse_reverse (cutAt '/' path), split, more]
      simp
    · intro single
      rw [List.reverse_eq_nil_iff] at single
      simp only [more, single] at above
      rw [if_neg (by simpa using (ne_of_not_isIdle solid).1)] at above
      exact nonempty (Option.some.inj above).symm

/-! ## Joined paths -/

section Joined

variable {base : FilePath} {name : Text}

/-- A joined path adds its pieces; an empty piece at the end of the base is gone. -/
theorem exists_cutAt_join_of_unrooted
    {path : FilePath}
    (nonempty : base ≠ [])
    (unrooted : isRooted path = false) :
    ∃ above, above ≠ [] ∧ cutAt '/' (base.join path) = above ++ cutAt '/' path ∧
      (cutAt '/' base = above ∨ cutAt '/' base = above ++ [[]]) := by
  rw [join, unrooted]
  by_cases slash : base.getLast? = some '/'
  · rcases List.getLast?_eq_some_iff.mp slash with ⟨front, rfl⟩
    refine ⟨cutAt '/' front, Text.cutAt_ne_nil '/' front, ?_, Or.inr ?_⟩
    · simp [Text.cutAt_append_separator]
    · rw [Text.cutAt_append_separator, Text.cutAt_nil]
  · refine ⟨cutAt '/' base, Text.cutAt_ne_nil '/' base, ?_, Or.inl rfl⟩
    simp [slash, nonempty, Text.cutAt_append_separator]

/-- A joined name is the last piece. -/
theorem exists_cutAt_join
    (nonempty : base ≠ [])
    (unslashed : '/' ∉ name) :
    ∃ above, above ≠ [] ∧ cutAt '/' (base.join name) = above ++ [name] ∧
      (cutAt '/' base = above ∨ cutAt '/' base = above ++ [[]]) := by
  rcases exists_cutAt_join_of_unrooted nonempty (isRooted_eq_false unslashed) with
    ⟨above, filled, joined, cut⟩
  rw [Text.cutAt_eq_singleton unslashed] at joined
  exact ⟨above, filled, joined, cut⟩

theorem join_ne_nil
    (named : name ≠ [])
    (base : FilePath) :
    base.join name ≠ [] := by
  rw [join]
  split
  · exact named
  · split <;> simp [named]

theorem getLast?_join
    (named : name ≠ [])
    (base : FilePath) :
    (base.join name).getLast? = name.getLast? := by
  cases name with
  | nil => exact absurd rfl named
  | cons first rest =>
    rw [join]
    split
    · rfl
    · split
      · rw [List.getLast?_append_of_ne_nil _ named]
      · rw [List.getLast?_append_of_ne_nil _ (by simp), List.getLast?_cons_cons]

theorem isIdle_eq_false
    (named : name ≠ [])
    (notHere : name ≠ ['.']) :
    isIdle name = false := by
  simp [isIdle, named, notHere]

theorem names_join
    (named : name ≠ [])
    (notHere : name ≠ ['.'])
    (unslashed : '/' ∉ name)
    (base : FilePath) :
    names (base.join name) = names base ++ [name] := by
  have solid := isIdle_eq_false named notHere
  by_cases empty : base = []
  · subst empty
    have same : FilePath.join [] name = name := by simp [join]
    have none : names [] = [] := rfl
    rw [same, none, names, Text.cutAt_eq_singleton unslashed]
    simp [solid]
  · rcases exists_cutAt_join empty unslashed with ⟨above, -, joined, rfl | cut⟩
    · rw [names, joined, names, List.filter_append]
      simp [solid]
    · have blank : isIdle [] = true := rfl
      rw [names, joined, names, cut, List.filter_append, List.filter_append]
      simp [solid, blank]

theorem isRooted_join
    (named : name ≠ [])
    (unslashed : '/' ∉ name)
    (nonempty : base ≠ []) :
    isRooted (base.join name) = isRooted base := by
  rcases exists_cutAt_join nonempty unslashed with ⟨above, filled, joined, cut⟩
  have ahead : (cutAt '/' (base.join name)).head? = (cutAt '/' base).head? := by
    rw [joined, List.head?_append_of_ne_nil _ filled]
    rcases cut with cut | cut
    · rw [cut]
    · rw [cut, List.head?_append_of_ne_nil _ filled]
  rw [Bool.eq_iff_iff, isRooted_iff (join_ne_nil named base), isRooted_iff nonempty, ahead]

/-! ## Settled paths -/

/-- A path that ends in no idle piece, as a parent does. -/
structure IsSettled (path : FilePath) : Prop where
  nonempty : path ≠ []
  settled : ofReversed (reversedPieces path) = path

theorem names_eq_reverse_filter (path : FilePath) :
    names path = ((reversedPieces path).filter fun piece => !isIdle piece).reverse := by
  rw [reversedPieces, filter_dropIdle, List.filter_reverse, List.reverse_reverse, names]

theorem isSettled_join
    (named : name ≠ [])
    (notHere : name ≠ ['.'])
    (unslashed : '/' ∉ name)
    (base : FilePath) :
    IsSettled (base.join name) := by
  have solid := isIdle_eq_false named notHere
  refine ⟨join_ne_nil named base, ?_⟩
  have ending : ∃ above, cutAt '/' (base.join name) = above ++ [name] := by
    by_cases empty : base = []
    · exact ⟨[], by simpa [empty, join] using Text.cutAt_eq_singleton unslashed⟩
    · rcases exists_cutAt_join empty unslashed with ⟨above, -, joined, -⟩
      exact ⟨above, joined⟩
  rcases ending with ⟨above, joined⟩
  have other : name :: above.reverse ≠ [[]] := by
    intro same
    exact named (List.cons.inj same).1
  rw [reversedPieces_of_cutAt joined solid, ofReversed, if_neg other, List.reverse_cons,
    List.reverse_reverse, ← joined, Text.joinWith_cutAt]

/-- A settled path without names is the root, or the dot that stands for where paths start. -/
theorem IsSettled.eq_of_names_eq_nil
    {path : FilePath}
    (settled : IsSettled path)
    (unnamed : names path = []) :
    path = ['/'] ∨ path = ['.'] := by
  have silent : ∀ piece ∈ reversedPieces path, isIdle piece = true := by
    rw [names_eq_reverse_filter, List.reverse_eq_nil_iff, List.filter_eq_nil_iff] at unnamed
    simpa using unnamed
  rcases dropIdle_cases (cutAt '/' path).reverse with
    none | ⟨first, one⟩ | ⟨last, rest, more, solid⟩
  · exact absurd none (dropIdle_ne_nil (by simpa using Text.cutAt_ne_nil '/' path))
  · have pieces : reversedPieces path = [first] := one
    have idle := silent first (by simp [pieces])
    rw [← settled.settled, pieces]
    rcases Bool.or_eq_true_iff.mp idle with empty | here
    · left
      rw [List.isEmpty_iff.mp empty]
      rfl
    · right
      rw [of_decide_eq_true here]
      rfl
  · have idle := silent last (by simp [reversedPieces, more])
    rw [solid] at idle
    cases idle

/-- A settled path with names ends in the last one. -/
theorem IsSettled.exists_last
    {path : FilePath}
    (settled : IsSettled path)
    (named : names path ≠ []) :
    ∃ last above, reversedPieces path = last :: above ∧ isIdle last = false ∧
      cutAt '/' path = above.reverse ++ [last] := by
  have cut : ∀ {last above}, reversedPieces path = last :: above → isIdle last = false →
      cutAt '/' path = above.reverse ++ [last] := by
    intro last above pieces solid
    have other : reversedPieces path ≠ [[]] := by
      intro root
      rw [root] at pieces
      rw [← (List.cons.inj pieces).1] at solid
      cases solid
    have whole := cutAt_ofReversed (by simp [pieces]) other (unslashed_reversedPieces path)
    rwa [settled.settled, pieces, List.reverse_cons] at whole
  rcases dropIdle_cases (cutAt '/' path).reverse with
    none | ⟨first, one⟩ | ⟨last, rest, more, solid⟩
  · exact absurd none (dropIdle_ne_nil (by simpa using Text.cutAt_ne_nil '/' path))
  · have pieces : reversedPieces path = [first] := one
    have solid : isIdle first = false := by
      by_contra idle
      rw [names_eq_reverse_filter, pieces] at named
      simp [idle] at named
    exact ⟨first, [], pieces, solid, cut pieces solid⟩
  · exact ⟨last, rest, more, solid, cut more solid⟩

/-- A path with a name and a parent has pieces above the name. -/
theorem exists_above_of_parent?
    {path parent : FilePath}
    {name : Text}
    (named : path.fileName? = some name)
    (above : path.parent? = some parent)
    (nonempty : parent ≠ []) :
    ∃ pieces, reversedPieces path = name :: pieces ∧ isIdle name = false ∧ pieces ≠ [] := by
  rcases exists_pieces_of_fileName? named with ⟨front, -, -, pieces, -, solid, -⟩
  rcases exists_pieces_of_parent? above nonempty with ⟨other, last, -, -, same, -, filled⟩
  rw [pieces, List.cons.injEq] at same
  refine ⟨front.reverse, pieces, solid, ?_⟩
  rw [same.2]
  simpa using filled

/-- What is above a piece that says something is a settled path, taken from the same place. -/
theorem exists_parent?
    {path : FilePath}
    {last : Text}
    {above : List Text}
    (pieces : reversedPieces path = last :: above)
    (solid : isIdle last = false)
    (more : above ≠ []) :
    ∃ parent, path.parent? = some parent ∧ IsSettled parent ∧
      reversedPieces parent = dropIdle above ∧ isRooted parent = isRooted path ∧
      names path = names parent ++ [last] ∧ ('\x00' ∉ path → '\x00' ∉ parent) := by
  have inside : ∀ piece ∈ dropIdle above, piece ∈ reversedPieces path := by
    intro piece member
    rw [pieces]
    exact List.mem_cons_of_mem _ (mem_of_mem_dropIdle member)
  have unslashed : ∀ piece ∈ dropIdle above, '/' ∉ piece := fun piece member =>
    unslashed_reversedPieces path piece (inside piece member)
  have filled := dropIdle_ne_nil more
  have full := ofReversed_ne_nil filled unslashed
  have same : reversedPieces (ofReversed (dropIdle above)) = dropIdle above :=
    reversedPieces_ofReversed filled unslashed (dropIdle_dropIdle above)
  have present : path ≠ [] := by
    rintro rfl
    rw [show reversedPieces [] = [[]] from rfl] at pieces
    exact more (List.cons.inj pieces).2.symm
  refine ⟨ofReversed (dropIdle above), ?_, ⟨full, by rw [same]⟩, same, ?_, ?_, ?_⟩
  · rw [parent?, pieces]
    cases above with
    | nil => exact absurd rfl more
    | cons next rest => rfl
  · rw [Bool.eq_iff_iff, isRooted_ofReversed filled unslashed, getLast?_dropIdle,
      isRooted_iff present, ← List.getLast?_reverse, ← getLast?_dropIdle (cutAt '/' path).reverse]
    change _ ↔ (reversedPieces path).getLast? = some []
    cases above with
    | nil => exact absurd rfl more
    | cons next rest => rw [pieces, List.getLast?_cons_cons]
  · rw [names_eq_reverse_filter, pieces, names_eq_reverse_filter, same, filter_dropIdle,
      List.filter_cons_of_pos (by simpa using solid), List.reverse_cons]
  · intro unended ended
    rw [ofReversed] at ended
    split at ended
    · simp at ended
    · rcases Text.mem_joinWith ended with slash | ⟨piece, member, here⟩
      · simp at slash
      · have original := mem_of_mem_dropIdle (inside piece (List.mem_reverse.mp member))
        exact unended (Text.subset_of_mem_cutAt (List.mem_reverse.mp original) here)

/-- The parent of a joined name is told by the path it is joined to. -/
theorem parent?_join_of_ne_nil
    (nonempty : base ≠ [])
    (named : name ≠ [])
    (notHere : name ≠ ['.'])
    (unslashed : '/' ∉ name) :
    (base.join name).parent? = some (ofReversed (reversedPieces base)) := by
  rcases exists_cutAt_join nonempty unslashed with ⟨above, filled, joined, cut⟩
  have pieces := reversedPieces_of_cutAt joined (isIdle_eq_false named notHere)
  have reversed : above.reverse ≠ [] := by simpa using filled
  have same : reversedPieces base = dropIdle above.reverse := by
    rcases cut with cut | cut
    · rw [reversedPieces, cut]
    · rw [reversedPieces, cut, List.reverse_append]
      cases rest : above.reverse with
      | nil => exact absurd rest reversed
      | cons next more => rfl
  rw [parent?, pieces]
  cases rest : above.reverse with
  | nil => exact absurd rest reversed
  | cons next more => rw [same, rest]

/-- The parent of a name joined to a settled path is that path. -/
theorem parent?_join
    (settled : IsSettled base)
    (named : name ≠ [])
    (notHere : name ≠ ['.'])
    (unslashed : '/' ∉ name) :
    (base.join name).parent? = some base := by
  rw [parent?_join_of_ne_nil settled.nonempty named notHere unslashed, settled.settled]

/-- A settled path with a name ends in it. -/
theorem IsSettled.getLast?_ne_slash
    (settled : IsSettled base)
    (named : base.fileName? = some name) :
    base.getLast? ≠ some '/' := by
  intro slash
  rcases List.getLast?_eq_some_iff.mp slash with ⟨front, rfl⟩
  rcases exists_pieces_of_fileName? named with ⟨above, idle, cut, -, -, solid, -⟩
  have member : name ∈ names (front ++ ['/']) := by
    rw [names, cut]
    simp [solid]
  rcases settled.exists_last (List.ne_nil_of_mem member) with ⟨last, rest, -, full, ending⟩
  rw [Text.cutAt_append_separator, Text.cutAt_nil] at ending
  have empty : last = [] := (List.cons.inj (List.append_inj' ending rfl).2).1.symm
  rw [empty] at full
  cases full

/-- Joined names and what they are joined to are told apart. -/
theorem join_injective
    {other : FilePath}
    {next : Text}
    (ending : base ≠ [] ∧ base.getLast? ≠ some '/')
    (otherEnding : other ≠ [] ∧ other.getLast? ≠ some '/')
    (unslashed : '/' ∉ name)
    (otherUnslashed : '/' ∉ next) :
    base.join name = other.join next ↔ base = other ∧ name = next := by
  have shape : ∀ {path : FilePath} {text : Text}, path ≠ [] ∧ path.getLast? ≠ some '/' →
      '/' ∉ text → path.join text = path ++ '/' :: text := by
    intro path text solid free
    have unrooted := isRooted_eq_false free
    simp [join, unrooted, solid]
  rw [shape ending unslashed, shape otherEnding otherUnslashed]
  constructor
  · intro same
    have pieces := congrArg (cutAt '/') same
    rw [Text.cutAt_append_separator, Text.cutAt_append_separator,
      Text.cutAt_eq_singleton unslashed, Text.cutAt_eq_singleton otherUnslashed] at pieces
    rcases List.append_inj' pieces rfl with ⟨front, back⟩
    refine ⟨?_, (List.cons.inj back).1⟩
    rw [← Text.joinWith_cutAt '/' base, front, Text.joinWith_cutAt]
  · rintro ⟨rfl, rfl⟩
    rfl

theorem join_right_inj
    {next : Text}
    (unslashed : '/' ∉ name)
    (otherUnslashed : '/' ∉ next)
    (base : FilePath) :
    base.join name = base.join next ↔ name = next := by
  rw [join, join, isRooted_eq_false unslashed, isRooted_eq_false otherUnslashed]
  by_cases closed : base.isEmpty || base.getLast? = some '/'
  · simp [closed]
  · simp [closed]

end Joined

end TechniquePages.FilePath
