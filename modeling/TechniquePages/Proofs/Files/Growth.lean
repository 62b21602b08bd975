import TechniquePages.Files.Tree
import Mathlib.Data.List.Induction
import Mathlib.Data.List.Nodup

/-!
# Trees that grow

Nothing that a run does to a file tree takes anything away.  Directories are
made where nothing stands, and files are written where no directory stands.  So
a later tree is compared with an earlier one place by place: an entry is as it
was, or a directory has been made for it, or a file has been written.

The comparison says at which places directories may have been made and files
may have been written.  Everything else is as it was.
-/

namespace TechniquePages

/-- A name that an entry can have. -/
structure IsName (name : Text) : Prop where
  nonempty : name ≠ []
  unslashed : '/' ∉ name
  unended : '\x00' ∉ name
  notHere : name ≠ ['.']
  notUp : name ≠ "..".toList
  short : FileTree.byteLength name ≤ FileTree.nameLimit

theorem isName_iff (name : Text) :
    IsName name ↔ name ≠ [] ∧ '/' ∉ name ∧ '\x00' ∉ name ∧ name ≠ ['.'] ∧
      name ≠ "..".toList ∧ FileTree.byteLength name ≤ FileTree.nameLimit :=
  ⟨fun ⟨nonempty, unslashed, unended, notHere, notUp, short⟩ =>
      ⟨nonempty, unslashed, unended, notHere, notUp, short⟩,
    fun ⟨nonempty, unslashed, unended, notHere, notUp, short⟩ =>
      ⟨nonempty, unslashed, unended, notHere, notUp, short⟩⟩

instance (name : Text) : Decidable (IsName name) :=
  decidable_of_iff _ (isName_iff name).symm

namespace FileTree

/-! ## Entries -/

@[simp]
theorem entry?_nil (tree : FileTree) : tree.entry? [] = some .directory := rfl

theorem hasDirectory_iff (tree : FileTree) (place : Place) :
    tree.hasDirectory place = true ↔ tree.entry? place = some .directory := by
  simp [hasDirectory]

theorem ne_nil_of_entry?_ne
    {tree : FileTree}
    {place : Place}
    (free : tree.entry? place ≠ some .directory) :
    place ≠ [] := by
  rintro rfl
  exact free (entry?_nil tree)

theorem lookup_put
    (place other : Place)
    (entry : Entry)
    (entries : List (Place × Entry)) :
    (put place entry entries).lookup other =
      if other = place then some entry else entries.lookup other := by
  induction entries with
  | nil =>
    by_cases same : other = place
    · simp [put, same]
    · simp [put, same, List.lookup_cons, beq_eq_false_iff_ne.mpr same]
  | cons first rest hypothesis =>
    rcases first with ⟨present, kept⟩
    rw [put]
    by_cases here : present = place
    · rw [if_pos here]
      by_cases same : other = place
      · simp [same]
      · have away : (other == present) = false := by simpa [here] using same
        have off : (other == place) = false := by simpa using same
        simp [List.lookup_cons, away, off, same]
    · rw [if_neg here]
      by_cases found : other = present
      · simp [found, here]
      · have away : (other == present) = false := by simpa using found
        simp [List.lookup_cons, away, hypothesis]

/-- Setting an entry changes it and no other; the root has no entry to set. -/
theorem entry?_set
    (tree : FileTree)
    {place : Place}
    (below : place ≠ [])
    (other : Place)
    (entry : Entry) :
    FileTree.entry? (tree.set place entry) other =
      if other = place then some entry else tree.entry? other := by
  cases other with
  | nil => simp [Ne.symm below]
  | cons name rest => exact lookup_put place (name :: rest) entry tree.entries

/-! ## Well-formed trees -/

/-- Every entry stands in a directory, and paths start in one. -/
structure IsGrounded (tree : FileTree) : Prop where
  above : ∀ place name, (tree.entry? (place ++ [name])).isSome → tree.hasDirectory place
  home : tree.hasDirectory tree.home

/-- A tree that a file system can hold: one entry for each place, with proper names. -/
structure IsWellFormed (tree : FileTree) : Prop extends IsGrounded tree where
  distinct : (tree.entries.map Prod.fst).Nodup
  named : ∀ present ∈ tree.entries, present.1 ≠ [] ∧ ∀ name ∈ present.1, IsName name

theorem IsGrounded.hasDirectory_of_append
    {tree : FileTree}
    (grounded : tree.IsGrounded)
    {place names : Place}
    (nonempty : names ≠ [])
    (present : (tree.entry? (place ++ names)).isSome) :
    tree.hasDirectory place := by
  induction names using List.reverseRecOn with
  | nil => exact absurd rfl nonempty
  | append_singleton front name hypothesis =>
    rw [← List.append_assoc] at present
    have above := grounded.above _ _ present
    cases front with
    | nil => simpa using above
    | cons first rest =>
      refine hypothesis (by simp) ?_
      rw [(hasDirectory_iff ..).mp above]
      rfl

theorem entry?_eq_none_of_append
    {tree : FileTree}
    (grounded : tree.IsGrounded)
    {place : Place}
    (absent : tree.entry? place = none)
    (names : Place) :
    tree.entry? (place ++ names) = none := by
  cases names with
  | nil => simpa using absent
  | cons name rest =>
    by_contra present
    have directory := grounded.hasDirectory_of_append (List.cons_ne_nil name rest)
      (Option.isSome_iff_ne_none.mpr present)
    rw [hasDirectory_iff, absent] at directory
    cases directory

theorem mem_of_lookup
    {entries : List (Place × Entry)}
    {place : Place}
    {entry : Entry}
    (found : entries.lookup place = some entry) :
    (place, entry) ∈ entries := by
  rcases List.lookup_eq_some_iff.mp found with ⟨before, after, rfl, -⟩
  exact List.mem_append_right _ (List.mem_cons_self ..)

theorem lookup_of_mem
    {entries : List (Place × Entry)}
    (distinct : (entries.map Prod.fst).Nodup)
    {place : Place}
    {entry : Entry}
    (member : (place, entry) ∈ entries) :
    entries.lookup place = some entry := by
  rcases List.append_of_mem member with ⟨before, after, rfl⟩
  refine List.lookup_eq_some_iff.mpr ⟨before, after, rfl, fun other earlier => ?_⟩
  rw [List.map_append, List.map_cons] at distinct
  have apart := (List.nodup_append.mp distinct).2.2 other.1 (List.mem_map_of_mem earlier) place
    (List.mem_cons_self ..)
  exact bne_iff_ne.mpr apart.symm

theorem IsWellFormed.mem_entries_iff
    {tree : FileTree}
    (wellFormed : tree.IsWellFormed)
    {place : Place}
    (below : place ≠ [])
    (entry : Entry) :
    (place, entry) ∈ tree.entries ↔ tree.entry? place = some entry := by
  have lookup : tree.entry? place = tree.entries.lookup place := by
    rw [FileTree.entry?, if_neg (by simpa using below)]
  rw [lookup]
  exact ⟨lookup_of_mem wellFormed.distinct, mem_of_lookup⟩

theorem IsWellFormed.isName_of_mem
    {tree : FileTree}
    (wellFormed : tree.IsWellFormed)
    {place : Place}
    (present : (tree.entry? place).isSome) :
    ∀ name ∈ place, IsName name := by
  cases place with
  | nil => simp
  | cons first rest =>
    rcases Option.isSome_iff_exists.mp present with ⟨entry, found⟩
    exact (wellFormed.named _ ((wellFormed.mem_entries_iff (by simp) entry).mpr found)).2

/-- Whether a tree is well formed is told by looking at its entries. -/
theorem isWellFormed_iff (tree : FileTree) :
    tree.IsWellFormed ↔
      (∀ present ∈ tree.entries, (present.1 ≠ [] ∧ ∀ name ∈ present.1, IsName name) ∧
        tree.hasDirectory present.1.dropLast) ∧
      (tree.entries.map Prod.fst).Nodup ∧ tree.hasDirectory tree.home := by
  constructor
  · intro wellFormed
    refine ⟨fun present member => ⟨wellFormed.named present member, ?_⟩, wellFormed.distinct,
      wellFormed.home⟩
    have below := (wellFormed.named present member).1
    have found := (wellFormed.mem_entries_iff below present.2).mp member
    refine wellFormed.above _ (present.1.getLast below) ?_
    rw [List.dropLast_append_getLast, found]
    rfl
  · rintro ⟨entries, distinct, home⟩
    refine ⟨⟨fun place name present => ?_, home⟩, distinct, fun present member =>
      (entries present member).1⟩
    rcases Option.isSome_iff_exists.mp present with ⟨entry, found⟩
    have lookup : tree.entries.lookup (place ++ [name]) = some entry := by
      rw [FileTree.entry?, if_neg (by simp)] at found
      exact found
    have above := (entries _ (mem_of_lookup lookup)).2
    rwa [List.dropLast_concat] at above

instance (tree : FileTree) : Decidable tree.IsWellFormed :=
  decidable_of_iff _ tree.isWellFormed_iff.symm

/-! ## Growth -/

/-- Directories are made at some places where nothing was, files written where none was one. -/
structure Grown (made written : Place → Prop) (before after : FileTree) : Prop where
  home : after.home = before.home
  entry : ∀ place, after.entry? place = before.entry? place ∨
    (before.entry? place = none ∧ after.entry? place = some .directory ∧ made place) ∨
    (before.entry? place ≠ some .directory ∧ (∃ text, after.entry? place = some (.file text)) ∧
      written place)

namespace Grown

variable {made written : Place → Prop} {before middle after : FileTree}

theorem refl (tree : FileTree) : Grown made written tree tree :=
  ⟨rfl, fun _ => Or.inl rfl⟩

theorem trans
    (first : Grown made written before middle)
    (second : Grown made written middle after) :
    Grown made written before after := by
  refine ⟨second.home.trans first.home, fun place => ?_⟩
  rcases second.entry place with same | ⟨absent, directory, here⟩ | ⟨none, file, here⟩
  · rw [same]
    exact first.entry place
  · rcases first.entry place with old | ⟨-, present, -⟩ | ⟨-, ⟨text, present⟩, -⟩
    · exact Or.inr (Or.inl ⟨old ▸ absent, directory, here⟩)
    · rw [absent] at present
      cases present
    · rw [absent] at present
      cases present
  · rcases first.entry place with old | ⟨-, present, -⟩ | ⟨blocked, -, -⟩
    · exact Or.inr (Or.inr ⟨old ▸ none, file, here⟩)
    · exact absurd present none
    · exact Or.inr (Or.inr ⟨blocked, file, here⟩)

theorem mono
    {makes writes : Place → Prop}
    (grown : Grown made written before after)
    (wider : ∀ place, made place → makes place)
    (more : ∀ place, written place → writes place) :
    Grown makes writes before after := by
  refine ⟨grown.home, fun place => ?_⟩
  rcases grown.entry place with same | ⟨absent, directory, here⟩ | ⟨none, file, here⟩
  · exact Or.inl same
  · exact Or.inr (Or.inl ⟨absent, directory, wider place here⟩)
  · exact Or.inr (Or.inr ⟨none, file, more place here⟩)

theorem hasDirectory
    (grown : Grown made written before after)
    {place : Place}
    (directory : before.hasDirectory place) :
    after.hasDirectory place := by
  rw [hasDirectory_iff] at directory ⊢
  rcases grown.entry place with same | ⟨absent, -, -⟩ | ⟨none, -, -⟩
  · rw [same, directory]
  · rw [directory] at absent
    cases absent
  · exact absurd directory none

/-- What stands at a place where nothing is written stays. -/
theorem entry?_eq
    (grown : Grown made written before after)
    {place : Place}
    (unwritten : ¬ written place)
    (present : (before.entry? place).isSome) :
    after.entry? place = before.entry? place := by
  rcases grown.entry place with same | ⟨absent, -, -⟩ | ⟨-, -, here⟩
  · exact same
  · rw [absent] at present
    cases present
  · exact absurd here unwritten

/-- No directory appears at a place where none is made. -/
theorem hasDirectory_eq
    (grown : Grown made written before after)
    {place : Place}
    (unmade : ¬ made place) :
    after.hasDirectory place = before.hasDirectory place := by
  rcases grown.entry place with same | ⟨-, -, here⟩ | ⟨none, ⟨text, file⟩, -⟩
  · rw [FileTree.hasDirectory, same, FileTree.hasDirectory]
  · exact absurd here unmade
  · rw [Bool.eq_iff_iff, hasDirectory_iff, hasDirectory_iff, file]
    exact ⟨nofun, fun directory => absurd directory none⟩

end Grown

/-- Making a directory where nothing is grows a tree. -/
theorem grown_set_directory
    {tree : FileTree}
    {place : Place}
    (absent : tree.entry? place = none) :
    Grown (· = place) (fun _ => False) tree (tree.set place .directory) := by
  have free : tree.entry? place ≠ some .directory := by simp [absent]
  refine ⟨rfl, fun other => ?_⟩
  rw [entry?_set tree (ne_nil_of_entry?_ne free)]
  by_cases same : other = place
  · exact Or.inr (Or.inl ⟨same ▸ absent, if_pos same, same⟩)
  · exact Or.inl (if_neg same)

/-- Writing a file where no directory is grows a tree. -/
theorem grown_set_file
    {tree : FileTree}
    {place : Place}
    (free : tree.entry? place ≠ some .directory)
    (text : Text) :
    Grown (fun _ => False) (· = place) tree (tree.set place (.file text)) := by
  refine ⟨rfl, fun other => ?_⟩
  rw [entry?_set tree (ne_nil_of_entry?_ne free)]
  by_cases same : other = place
  · exact Or.inr (Or.inr ⟨same ▸ free, ⟨text, if_pos same⟩, same⟩)
  · exact Or.inl (if_neg same)

/-- A tree stays grounded when an entry is set in a directory, in the stead of none. -/
theorem IsGrounded.set
    {tree : FileTree}
    (grounded : tree.IsGrounded)
    {place : Place}
    {name : Text}
    (directory : tree.hasDirectory place)
    {entry : Entry}
    (replaces : entry = .directory ∨ tree.entry? (place ++ [name]) ≠ some .directory) :
    (tree.set (place ++ [name]) entry).IsGrounded := by
  have below : place ++ [name] ≠ [] := by simp
  -- No directory is lost: where the entry is set, it is one or there was none.
  have kept : ∀ other, tree.hasDirectory other →
      (tree.set (place ++ [name]) entry).hasDirectory other := by
    intro other present
    rw [hasDirectory_iff, entry?_set tree below]
    split
    · rename_i same
      rcases replaces with rfl | free
      · rfl
      · rw [hasDirectory_iff, same] at present
        exact absurd present free
    · exact (hasDirectory_iff ..).mp present
  refine ⟨fun other next present => ?_, kept _ grounded.home⟩
  apply kept
  rw [entry?_set tree below] at present
  split at present
  · rename_i same
    rcases List.append_inj' same rfl with ⟨rfl, -⟩
    exact directory
  · exact grounded.above _ _ present

end FileTree

end TechniquePages
