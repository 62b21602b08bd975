import TechniquePages.Proofs.Files.Locating

/-!
# Making directories

Directories are made from the end of a path: a directory is tried, and when what is
above it is missing, that is made first.  Without parts that lead up, this comes to
the same as going down the names of the path and making every directory that is
missing, until a file or a long name stands in the way.

What stands in the way is told here by recursion on the names, the last one first.
It depends on files only, so making more directories changes nothing about it.
-/

namespace TechniquePages.FileTree

open FilePath (isIdle names reversedPieces)
open Text (cutAt)

/-! ## Any path -/

theorem makeDirectories_of_hasDirectory
    {tree : FileTree}
    {path : FilePath}
    {place : Place}
    (located : tree.locate path = .ok place)
    (directory : tree.hasDirectory place) :
    tree.makeDirectories path = (.ok (), tree) := by
  have present : tree.makeDirectory path = .error .alreadyExists := by
    rw [makeDirectory, located]
    simp only [(hasDirectory_iff ..).mp directory]
  have nonempty : path.isEmpty = false := by
    simpa using ((locate_eq_ok_iff ..).mp located).2.1
  simp [makeDirectories, makeDirectoriesWithin, nonempty, present, isDirectory, located, directory]

theorem makeDirectories_of_mem_nul
    (tree : FileTree)
    {path : FilePath}
    (ended : '\x00' ∈ path) :
    tree.makeDirectories path = (.error .holdsNul, tree) := by
  have unlocated : tree.locate path = .error .holdsNul := by simp [locate, ended]
  have nonempty : path.isEmpty = false := by
    cases path with
    | nil => simp at ended
    | cons first rest => rfl
  simp [makeDirectories, makeDirectoriesWithin, makeDirectory, isDirectory, nonempty, unlocated]

/-! ## What stands in the way -/

/-- Something stands at a place that is no directory. -/
def isOccupied (tree : FileTree) (place : Place) : Bool :=
  (tree.entry? place).isSome && !tree.hasDirectory place

/-- What keeps directories from being made along reversed names below a place. -/
def barrier? (tree : FileTree) (place : Place) : (reversed : Place) → Option FileFault
  | [] => none
  | name :: above =>
    match barrier? tree place above with
    | some fault => some (if fault = .alreadyExists then .notDirectory else fault)
    | none =>
      if nameLimit < byteLength name then some .nameTooLong
      else if tree.isOccupied (place ++ above.reverse ++ [name]) then some .alreadyExists
      else none

theorem isOccupied_of_entry?_eq_none
    {tree : FileTree}
    {place : Place}
    (absent : tree.entry? place = none) :
    tree.isOccupied place = false := by
  simp [isOccupied, absent]

theorem isOccupied_of_hasDirectory
    {tree : FileTree}
    {place : Place}
    (directory : tree.hasDirectory place) :
    tree.isOccupied place = false := by
  simp [isOccupied, directory]

theorem Grown.isOccupied_eq
    {made written : Place → Prop}
    {before after : FileTree}
    (grown : Grown made written before after)
    {place : Place}
    (unwritten : ¬ written place) :
    after.isOccupied place = before.isOccupied place := by
  rcases grown.entry place with same | ⟨absent, made, -⟩ | ⟨-, -, here⟩
  · rw [isOccupied, FileTree.hasDirectory, same, isOccupied, FileTree.hasDirectory]
  · rw [isOccupied_of_entry?_eq_none absent,
      isOccupied_of_hasDirectory ((hasDirectory_iff ..).mpr made)]
  · exact absurd here unwritten

/-- Directories that are made are never in the way. -/
theorem Grown.barrier?_eq
    {made written : Place → Prop}
    {before after : FileTree}
    (grown : Grown made written before after)
    {place reversed : Place}
    (unwritten : ∀ other, other.length ≤ place.length + reversed.length → ¬ written other) :
    after.barrier? place reversed = before.barrier? place reversed := by
  induction reversed with
  | nil => rfl
  | cons name above hypothesis =>
    have same := hypothesis fun other short => unwritten other (by simp; omega)
    have here := grown.isOccupied_eq (unwritten (place ++ above.reverse ++ [name]) (by simp))
    rw [barrier?, barrier?, same, here]

/-- The answers of following reversed names, each with what then stands in the way. -/
inductive Followed (tree : FileTree) (place reversed : Place) : Except FileFault Place → Prop where
  | reached
      (higher : tree.hasDirectory (place ++ reversed.tail.reverse))
      (barrier : tree.barrier? place reversed =
        if tree.isOccupied (place ++ reversed.reverse) then some .alreadyExists else none) :
      Followed tree place reversed (.ok (place ++ reversed.reverse))
  | missing
      (absent : tree.entry? (place ++ reversed.reverse) = none)
      (barrier : tree.barrier? place reversed = none ∨
        tree.barrier? place reversed = some .nameTooLong) :
      Followed tree place reversed (.error .notFound)
  | blocked
      (fault : FileFault)
      (present : fault ≠ .notFound)
      (barrier : tree.barrier? place reversed = some fault)
      (inside : fault ≠ .alreadyExists) :
      Followed tree place reversed (.error fault)

section Followed

variable {tree : FileTree} {place above : Place} {name : Text}

/-- In a directory a name is found, present or not, unless it is too long. -/
theorem Followed.cons_of_hasDirectory
    (directory : tree.hasDirectory (place ++ above.reverse))
    (free : tree.barrier? place above = none) :
    Followed tree place (name :: above)
      (if nameLimit < byteLength name then .error .nameTooLong
        else .ok (place ++ (name :: above).reverse)) := by
  by_cases long : nameLimit < byteLength name
  · rw [if_pos long]
    exact .blocked _ nofun (by rw [barrier?, free]; exact if_pos long) nofun
  · rw [if_neg long]
    refine .reached directory ?_
    rw [barrier?, free, List.reverse_cons, ← List.append_assoc]
    exact if_neg long

/-- Nothing is found below what is missing. -/
theorem Followed.cons_of_missing
    (grounded : tree.IsGrounded)
    (absent : tree.entry? (place ++ above.reverse) = none)
    (barrier : tree.barrier? place above = none ∨
      tree.barrier? place above = some .nameTooLong) :
    Followed tree place (name :: above) (.error .notFound) := by
  have further := entry?_eq_none_of_append grounded absent [name]
  refine .missing (by rw [List.reverse_cons, ← List.append_assoc, further]) ?_
  rcases barrier with barrier | barrier
  · rw [barrier?, barrier, isOccupied_of_entry?_eq_none further]
    by_cases long : nameLimit < byteLength name
    · exact Or.inr (if_pos long)
    · exact Or.inl (if_neg long)
  · exact Or.inr (by rw [barrier?, barrier]; rfl)

/-- What stands in the way above stands in the way below; a file is no directory there. -/
theorem Followed.cons_of_blocked
    {fault : FileFault}
    (barrier : tree.barrier? place above = some fault)
    (present : fault ≠ .notFound) :
    Followed tree place (name :: above)
      (.error (if fault = .alreadyExists then .notDirectory else fault)) := by
  refine .blocked _ ?_ (by rw [barrier?, barrier]) ?_
  · split
    · nofun
    · exact present
  · split
    · nofun
    · assumption

end Followed

/-- Names are followed as far as directories lead, and then what stands in the way is told. -/
theorem followed
    {tree : FileTree}
    (grounded : tree.IsGrounded)
    {place : Place}
    (directory : tree.hasDirectory place)
    {reversed : Place}
    (solid : ∀ name ∈ reversed, isIdle name = false ∧ name ≠ "..".toList) :
    Followed tree place reversed (tree.follow place reversed.reverse) := by
  induction reversed with
  | nil =>
    have whole : Followed tree place [] (.ok (place ++ [])) :=
      .reached (by simpa using directory)
        (by simp [barrier?, isOccupied_of_hasDirectory directory])
    simpa [follow] using whole
  | cons name above hypothesis =>
    rcases List.forall_mem_cons.mp solid with ⟨⟨full, notUp⟩, others⟩
    rcases FilePath.ne_of_not_isIdle full with ⟨nonempty, notHere⟩
    have earlier := hypothesis others
    rw [List.reverse_cons, follow_append]
    generalize tree.follow place above.reverse = answer at earlier
    cases earlier with
    | reached higher barrier =>
      by_cases present : tree.hasDirectory (place ++ above.reverse)
      · rw [isOccupied_of_hasDirectory present] at barrier
        simp only [follow_cons_of_hasDirectory present nonempty, if_neg notHere, if_neg notUp]
        have step : Followed tree place (name :: above) _ := .cons_of_hasDirectory present barrier
        rw [List.reverse_cons, ← List.append_assoc] at step
        rwa [follow]
      · simp only [follow_cons_of_not_hasDirectory present nonempty, obstacle]
        cases found : tree.entry? (place ++ above.reverse) with
        | none =>
          rw [isOccupied_of_entry?_eq_none found] at barrier
          exact .cons_of_missing grounded found (Or.inl barrier)
        | some entry =>
          have occupied : tree.isOccupied (place ++ above.reverse) = true := by
            simp [isOccupied, found, present]
          rw [occupied, if_pos rfl] at barrier
          exact .cons_of_blocked barrier (by simp)
    | missing absent barrier => exact .cons_of_missing grounded absent barrier
    | blocked fault present barrier inside =>
      have step : Followed tree place (name :: above) _ := .cons_of_blocked barrier present
      rwa [if_neg inside] at step

/-! ## Settled paths -/

section Settled

variable {tree : FileTree} {path : FilePath}

/-- A settled path is found by following its names. -/
theorem locate_eq_follow_names
    (grounded : tree.IsGrounded)
    (settled : path.IsSettled)
    (unended : '\x00' ∉ path) :
    tree.locate path = tree.follow (tree.start path) (names path) := by
  by_cases unnamed : names path = []
  · rw [unnamed, follow]
    rcases settled.eq_of_names_eq_nil unnamed with root | here
    · rw [root]
      rfl
    · have piece : cutAt '/' path = [['.']] := by rw [here]; rfl
      have begins : tree.start path = tree.home := by rw [here]; rfl
      rw [locate_eq tree unended settled.nonempty, piece, begins,
        follow_cons_of_hasDirectory grounded.home (by simp), if_pos rfl, follow]
  · rcases settled.exists_last unnamed with ⟨last, above, pieces, solid, cut⟩
    rw [locate_eq tree unended settled.nonempty, cut, follow_filter tree _ _ solid,
      FilePath.names_eq_reverse_filter, pieces, List.filter_cons_of_pos (by simpa using solid),
      List.reverse_cons, List.filter_reverse]

theorem hasDirectory_start
    (grounded : tree.IsGrounded)
    (path : FilePath) :
    tree.hasDirectory (tree.start path) := by
  rw [start]
  split
  · rfl
  · exact grounded.home

theorem makeDirectoriesWithin_of_error
    (nonempty : path ≠ [])
    {fault : FileFault}
    (failed : tree.makeDirectory path = .error fault)
    (present : fault ≠ .notFound)
    (fuel : Nat) :
    tree.makeDirectoriesWithin (fuel + 1) path =
      if tree.isDirectory path then (.ok (), tree) else (.error fault, tree) := by
  rw [makeDirectoriesWithin, if_neg (by simpa using nonempty), failed]
  cases fault with
  | notFound => exact absurd rfl present
  | _ => rfl

/-- A path is tried again when the directories above it have been made. -/
theorem makeDirectoriesWithin_of_missing
    (nonempty : path ≠ [])
    (missing : tree.makeDirectory path = .error .notFound)
    {parent : FilePath}
    (above : path.parent? = some parent)
    (fuel : Nat) :
    tree.makeDirectoriesWithin (fuel + 1) path =
      match tree.makeDirectoriesWithin fuel parent with
      | (.error fault, left) => (.error fault, left)
      | (.ok (), left) =>
        match left.makeDirectory path with
        | .ok made => (.ok (), made)
        | .error fault =>
          if left.isDirectory path then (.ok (), left) else (.error fault, left) := by
  rw [makeDirectoriesWithin, if_neg (by simpa using nonempty), missing]
  rcases found : tree.makeDirectoriesWithin fuel parent with ⟨fault | done, left⟩
  · simp only [above, found]
  · cases tried : left.makeDirectory path <;> simp only [above, found, tried]

/-- What making directories along reversed names answers, and the tree that it leaves. -/
structure IsMade
    (limit : Nat)
    (tree : FileTree)
    (place reversed : Place)
    (result : Except FileFault Unit × FileTree) : Prop where
  answer : result.1 =
    match tree.barrier? place reversed with
    | none => .ok ()
    | some fault => .error fault
  grown : Grown (fun other => other.length ≤ limit) (fun _ => False) tree result.2
  grounded : result.2.IsGrounded
  directory : tree.barrier? place reversed = none →
    result.2.hasDirectory (place ++ reversed.reverse)

section Results

variable {limit : Nat} {left : FileTree} {place reversed : Place}

theorem IsMade.blocked
    (grown : Grown (fun other => other.length ≤ limit) (fun _ => False) tree left)
    (grounded : left.IsGrounded)
    {fault : FileFault}
    (barrier : tree.barrier? place reversed = some fault) :
    IsMade limit tree place reversed (.error fault, left) := by
  refine ⟨by rw [barrier], grown, grounded, fun free => ?_⟩
  rw [barrier] at free
  cases free

theorem IsMade.free
    (grown : Grown (fun other => other.length ≤ limit) (fun _ => False) tree left)
    (grounded : left.IsGrounded)
    (barrier : tree.barrier? place reversed = none)
    (directory : left.hasDirectory (place ++ reversed.reverse)) :
    IsMade limit tree place reversed (.ok (), left) :=
  ⟨by rw [barrier], grown, grounded, fun _ => directory⟩

/-- A directory is made in one that stands. -/
theorem IsMade.of_set
    {above : Place}
    {last : Text}
    (grown : Grown (fun other => other.length ≤ limit) (fun _ => False) tree left)
    (grounded : left.IsGrounded)
    (barrier : tree.barrier? place (last :: above) = none)
    (higher : left.hasDirectory (place ++ above.reverse))
    (absent : left.entry? (place ++ (last :: above).reverse) = none)
    (room : place.length + (last :: above).length ≤ limit) :
    IsMade limit tree place (last :: above)
      (.ok (), left.set (place ++ (last :: above).reverse) .directory) := by
  refine IsMade.free (grown.trans ?_) ?_ barrier ?_
  · refine (grown_set_directory absent).mono (fun other here => ?_) fun _ inside => inside
    rw [here, List.length_append, List.length_reverse]
    exact room
  · rw [List.reverse_cons, ← List.append_assoc]
    exact grounded.set higher (Or.inl rfl)
  · rw [hasDirectory_iff, entry?_set left (by simp), if_pos rfl]

end Results

/-- A path that is found is made, is a directory already, or is in the way. -/
theorem isMade_of_reached
    (grounded : tree.IsGrounded)
    {place reversed : Place}
    (located : tree.locate path = .ok (place ++ reversed.reverse))
    (higher : tree.hasDirectory (place ++ reversed.tail.reverse))
    (barrier : tree.barrier? place reversed =
      if tree.isOccupied (place ++ reversed.reverse) then some .alreadyExists else none)
    {limit : Nat}
    (room : place.length + reversed.length ≤ limit)
    (fuel : Nat) :
    IsMade limit tree place reversed (tree.makeDirectoriesWithin (fuel + 1) path) := by
  have nonempty : path ≠ [] := ((locate_eq_ok_iff ..).mp located).2.1
  cases found : tree.entry? (place ++ reversed.reverse) with
  | some entry =>
    have failed : tree.makeDirectory path = .error .alreadyExists := by
      rw [makeDirectory, located]
      simp only [found]
    have same : tree.isDirectory path = tree.hasDirectory (place ++ reversed.reverse) := by
      rw [isDirectory, located]
    rw [makeDirectoriesWithin_of_error nonempty failed (by simp), same]
    by_cases directory : tree.hasDirectory (place ++ reversed.reverse)
    · rw [isOccupied_of_hasDirectory directory] at barrier
      rw [if_pos directory]
      exact IsMade.free (Grown.refl tree) grounded barrier directory
    · have occupied : tree.isOccupied (place ++ reversed.reverse) = true := by
        simp [isOccupied, found, directory]
      rw [occupied] at barrier
      rw [if_neg directory]
      exact IsMade.blocked (Grown.refl tree) grounded barrier
  | none =>
    have done : tree.makeDirectory path =
        .ok (tree.set (place ++ reversed.reverse) .directory) := by
      rw [makeDirectory, located]
      simp only [found]
    rw [isOccupied_of_entry?_eq_none found] at barrier
    rw [makeDirectoriesWithin, if_neg (by simpa using nonempty), done]
    cases reversed with
    | nil =>
      rw [hasDirectory_iff] at higher
      cases found.symm.trans higher
    | cons last above =>
      exact IsMade.of_set (Grown.refl tree) grounded barrier higher found room

/-- A path is made in the directory that has been made for it, unless its name is too long. -/
theorem isMade_above
    {limit : Nat}
    {place above : Place}
    {last : Text}
    {left : FileTree}
    (grown : Grown (fun other => other.length ≤ limit) (fun _ => False) tree left)
    (grounded : left.IsGrounded)
    (free : tree.barrier? place above = none)
    (absent : tree.entry? (place ++ (last :: above).reverse) = none)
    (located : left.locate path =
      if nameLimit < byteLength last then .error .nameTooLong
      else .ok (place ++ (last :: above).reverse))
    (higher : left.hasDirectory (place ++ above.reverse))
    (room : place.length + (last :: above).length ≤ limit) :
    IsMade limit tree place (last :: above)
      (match left.makeDirectory path with
        | .ok made => (.ok (), made)
        | .error fault =>
          if left.isDirectory path then (.ok (), left) else (.error fault, left)) := by
  have barrier : tree.barrier? place (last :: above) =
      if nameLimit < byteLength last then some .nameTooLong else none := by
    rw [List.reverse_cons, ← List.append_assoc] at absent
    rw [barrier?, free, isOccupied_of_entry?_eq_none absent]
    rfl
  by_cases long : nameLimit < byteLength last
  · rw [if_pos long] at located barrier
    have failed : left.makeDirectory path = .error .nameTooLong := by rw [makeDirectory, located]
    have none : left.isDirectory path = false := by rw [isDirectory, located]
    rw [failed]
    simp only [none]
    exact IsMade.blocked grown grounded barrier
  · rw [if_neg long] at located barrier
    rcases grown.entry (place ++ (last :: above).reverse) with same | ⟨-, made, -⟩ | ⟨-, -, here⟩
    · rw [absent] at same
      have done : left.makeDirectory path =
          .ok (left.set (place ++ (last :: above).reverse) .directory) := by
        rw [makeDirectory, located]
        simp only [same]
      rw [done]
      exact IsMade.of_set grown grounded barrier higher same room
    · have failed : left.makeDirectory path = .error .alreadyExists := by
        rw [makeDirectory, located]
        simp only [made]
      have present := (hasDirectory_iff ..).mpr made
      have same : left.isDirectory path = true := by rw [isDirectory, located]; exact present
      rw [failed]
      simp only [same]
      exact IsMade.free grown grounded barrier present
    · exact absurd here id

theorem isSolid_of_mem_names
    (straight : "..".toList ∉ names path)
    {name : Text}
    (member : name ∈ names path) :
    isIdle name = false ∧ name ≠ "..".toList := by
  refine ⟨by simpa using (List.mem_filter.mp member).2, ?_⟩
  rintro rfl
  exact straight member

theorem followed_of_isSettled
    {reversed : Place}
    (grounded : tree.IsGrounded)
    (settled : path.IsSettled)
    (unended : '\x00' ∉ path)
    (named : names path = reversed.reverse)
    (straight : "..".toList ∉ names path) :
    Followed tree (tree.start path) reversed (tree.locate path) := by
  rw [locate_eq_follow_names grounded settled unended, named]
  refine followed grounded (hasDirectory_start grounded path) fun name member => ?_
  exact isSolid_of_mem_names straight (by rw [named]; exact List.mem_reverse.mpr member)

/-- The last name of a path, looked for in a directory that stands. -/
theorem locate_eq_of_hasDirectory
    {last : Text}
    {above : Place}
    (grounded : tree.IsGrounded)
    (settled : path.IsSettled)
    (unended : '\x00' ∉ path)
    (named : names path = (last :: above).reverse)
    (straight : "..".toList ∉ names path)
    (free : tree.barrier? (tree.start path) above = none)
    (directory : tree.hasDirectory (tree.start path ++ above.reverse)) :
    tree.locate path =
      if nameLimit < byteLength last then .error .nameTooLong
      else .ok (tree.start path ++ (last :: above).reverse) := by
  have solid : ∀ name ∈ last :: above, isIdle name = false ∧ name ≠ "..".toList :=
    fun name member =>
      isSolid_of_mem_names straight (by rw [named]; exact List.mem_reverse.mpr member)
  rcases List.forall_mem_cons.mp solid with ⟨⟨full, notUp⟩, others⟩
  rcases FilePath.ne_of_not_isIdle full with ⟨nonempty, notHere⟩
  have walk := followed grounded (hasDirectory_start grounded path) others
  rw [locate_eq_follow_names grounded settled unended, named, List.reverse_cons, follow_append]
  generalize tree.follow (tree.start path) above.reverse = answer at walk
  cases walk with
  | reached higher barrier =>
    simp only [follow_cons_of_hasDirectory directory nonempty, if_neg notHere, if_neg notUp]
    rw [follow, List.append_assoc]
  | missing absent barrier =>
    rw [hasDirectory_iff, absent] at directory
    cases directory
  | blocked fault present barrier inside =>
    rw [free] at barrier
    cases barrier

/-- When nothing is in the way above, a missing path is made last. -/
theorem isMade_of_missing
    {last : Text}
    {above : Place}
    (settled : path.IsSettled)
    (unended : '\x00' ∉ path)
    (named : names path = (last :: above).reverse)
    (straight : "..".toList ∉ names path)
    (absent : tree.entry? (tree.start path ++ (last :: above).reverse) = none)
    (barrier : tree.barrier? (tree.start path) (last :: above) = none ∨
      tree.barrier? (tree.start path) (last :: above) = some .nameTooLong)
    {limit : Nat}
    {result : Except FileFault Unit}
    {left : FileTree}
    (made : IsMade limit tree (tree.start path) above (result, left))
    (room : (tree.start path).length + (last :: above).length ≤ limit) :
    IsMade limit tree (tree.start path) (last :: above)
      (match (result, left) with
        | (.error fault, left) => (.error fault, left)
        | (.ok (), left) =>
          match left.makeDirectory path with
          | .ok made => (.ok (), made)
          | .error fault =>
            if left.isDirectory path then (.ok (), left) else (.error fault, left)) := by
  rcases made with ⟨answer, grown, grounded, directory⟩
  cases free : tree.barrier? (tree.start path) above with
  | none =>
    simp only [free] at answer
    simp only [answer]
    have begins := grown.start_eq path
    have located := locate_eq_of_hasDirectory grounded settled unended named straight
      (by rw [begins, grown.barrier?_eq fun _ _ => id, free])
      (by rw [begins]; exact directory free)
    rw [begins] at located
    exact isMade_above grown grounded free absent located (directory free) room
  | some fault =>
    simp only [free] at answer
    simp only [answer]
    refine IsMade.blocked grown grounded ?_
    rw [barrier?, free] at barrier ⊢
    by_cases file : fault = .alreadyExists
    · simp [file] at barrier
    · simp only [if_neg file]

/-- A path that is missing has a parent, which is found by the names above. -/
theorem exists_parent_of_missing
    {last : Text}
    {above : Place}
    (grounded : tree.IsGrounded)
    (settled : path.IsSettled)
    (unended : '\x00' ∉ path)
    (named : names path = (last :: above).reverse)
    (missing : tree.locate path = .error .notFound) :
    ∃ parent, path.parent? = some parent ∧ parent.IsSettled ∧ '\x00' ∉ parent ∧
      names parent = above.reverse ∧ tree.start parent = tree.start path := by
  have listed : names path = above.reverse ++ [last] := by rw [named, List.reverse_cons]
  rcases settled.exists_last (by simp [listed]) with ⟨name, pieces, split, solid, -⟩
  have more : pieces ≠ [] := by
    -- A single name is looked for in a directory, so it is not what is missing.
    rintro rfl
    have alone : names path = [name] := by
      rw [FilePath.names_eq_reverse_filter, split]
      simp [solid]
    rw [locate_eq_follow_names grounded settled unended, alone,
      follow_cons_of_hasDirectory (hasDirectory_start grounded path)
        (FilePath.ne_of_not_isIdle solid).1] at missing
    split_ifs at missing <;> simp [follow] at missing
  rcases FilePath.exists_parent? split solid more with
    ⟨parent, higher, calm, -, rooted, joined, whole⟩
  rw [listed] at joined
  exact ⟨parent, higher, calm, whole unended, (List.append_inj' joined rfl).1.symm,
    by rw [start, rooted, start]⟩

/-- Along a settled path that leads down, all directories are made, or something is in the way. -/
theorem isMade_makeDirectoriesWithin
    {reversed : Place}
    (grounded : tree.IsGrounded)
    (settled : path.IsSettled)
    (unended : '\x00' ∉ path)
    (named : names path = reversed.reverse)
    (straight : "..".toList ∉ names path)
    {fuel limit : Nat}
    (enough : reversed.length < fuel)
    (room : (tree.start path).length + reversed.length ≤ limit) :
    IsMade limit tree (tree.start path) reversed (tree.makeDirectoriesWithin fuel path) := by
  induction reversed generalizing path fuel with
  | nil =>
    have located : tree.locate path = .ok (tree.start path ++ [].reverse) := by
      rw [locate_eq_follow_names grounded settled unended, named]
      simp [follow]
    have directory := hasDirectory_start grounded path
    have higher : tree.hasDirectory (tree.start path ++ ([] : Place).tail.reverse) := by
      simpa using directory
    cases fuel with
    | zero => omega
    | succ fuel =>
      refine isMade_of_reached grounded located higher ?_ room fuel
      simp [barrier?, isOccupied_of_hasDirectory directory]
  | cons last above hypothesis =>
    have walk := followed_of_isSettled grounded settled unended named straight
    cases fuel with
    | zero => omega
    | succ fuel =>
      generalize answer : tree.locate path = found at walk
      cases walk with
      | reached higher barrier => exact isMade_of_reached grounded answer higher barrier room fuel
      | blocked fault present barrier inside =>
        have failed : tree.makeDirectory path = .error fault := by rw [makeDirectory, answer]
        have none : tree.isDirectory path = false := by rw [isDirectory, answer]
        rw [makeDirectoriesWithin_of_error settled.nonempty failed present, none]
        exact IsMade.blocked (Grown.refl tree) grounded barrier
      | missing absent barrier =>
        have failed : tree.makeDirectory path = .error .notFound := by rw [makeDirectory, answer]
        rcases exists_parent_of_missing grounded settled unended named answer with
          ⟨parent, higher, calm, whole, others, begins⟩
        have made := hypothesis calm whole others
          (fun inside => straight (by
            rw [named, List.reverse_cons, ← others]
            exact List.mem_append_left _ inside))
          (Nat.lt_of_succ_lt_succ enough)
          (by rw [begins]; exact Nat.le_trans (by simp) room)
        rw [begins] at made
        rw [makeDirectoriesWithin_of_missing settled.nonempty failed higher]
        generalize tree.makeDirectoriesWithin fuel parent = result at made ⊢
        rcases result with ⟨result, left⟩
        exact isMade_of_missing settled unended named straight absent barrier made room

theorem isMade_makeDirectories
    {reversed : Place}
    (grounded : tree.IsGrounded)
    (settled : path.IsSettled)
    (unended : '\x00' ∉ path)
    (named : names path = reversed.reverse)
    (straight : "..".toList ∉ names path)
    {limit : Nat}
    (room : (tree.start path).length + reversed.length ≤ limit) :
    IsMade limit tree (tree.start path) reversed (tree.makeDirectories path) := by
  refine isMade_makeDirectoriesWithin grounded settled unended named straight ?_ room
  have few := FilePath.length_names_le path
  rw [named, List.length_reverse] at few
  exact Nat.lt_succ_of_le few

/-- A settled path with nothing in its way is found where its directory stands. -/
theorem locate_of_hasDirectory
    {reversed : Place}
    (grounded : tree.IsGrounded)
    (settled : path.IsSettled)
    (unended : '\x00' ∉ path)
    (named : names path = reversed.reverse)
    (straight : "..".toList ∉ names path)
    (free : tree.barrier? (tree.start path) reversed = none)
    (directory : tree.hasDirectory (tree.start path ++ reversed.reverse)) :
    tree.locate path = .ok (tree.start path ++ reversed.reverse) := by
  have walk := followed_of_isSettled grounded settled unended named straight
  generalize tree.locate path = answer at walk
  cases walk with
  | reached higher barrier => rfl
  | missing absent barrier =>
    rw [hasDirectory_iff, absent] at directory
    cases directory
  | blocked fault present barrier inside =>
    rw [free] at barrier
    cases barrier

end Settled

end TechniquePages.FileTree
