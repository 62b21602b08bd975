import TechniquePages.Technique
import Mathlib.Data.List.Induction
import Mathlib.Data.List.Nodup

/-!
# Arguments keyed by name

An argument that is put among keyed ones takes the place of its name, so keyed
arguments built by insertion have different names.  And arguments that have
different names already are inserted in their order.

Arguments whose names repeat are settled by insertion: every name keeps the place of
its first argument and the value of its last one.  The last insertion decides, so
this is shown for one more argument at the end.
-/

namespace TechniquePages.Arguments

/-- The names of arguments in order. -/
def names (arguments : Arguments) : List Text :=
  arguments.entries.map Argument.name

theorem place_of_absent
    (argument : Argument)
    {entries : List Argument}
    (absent : argument.name ∉ entries.map Argument.name) :
    place argument entries = entries ++ [argument] := by
  induction entries with
  | nil => rfl
  | cons first rest hypothesis =>
    rw [List.map_cons, List.mem_cons, not_or] at absent
    rw [place, if_neg (Ne.symm absent.1), hypothesis absent.2, List.cons_append]

/-- Arguments with different names are keyed in their order. -/
theorem foldl_insert
    {present entries : List Argument}
    (distinct : ((present ++ entries).map Argument.name).Nodup) :
    entries.foldl insert ⟨.keyed, present⟩ = ⟨.keyed, present ++ entries⟩ := by
  induction entries generalizing present with
  | nil => simp
  | cons argument rest hypothesis =>
    have absent : argument.name ∉ present.map Argument.name := by
      rw [List.map_append, List.nodup_append] at distinct
      intro member
      exact distinct.2.2 _ member _ (by simp) rfl
    have shape : present ++ argument :: rest = (present ++ [argument]) ++ rest := by simp
    rw [shape] at distinct
    rw [List.foldl_cons, insert, place_of_absent argument absent,
      hypothesis distinct, shape]

/-- An argument whose name is there already takes over its place. -/
theorem map_name_place_of_present
    (argument : Argument)
    {entries : List Argument}
    (present : argument.name ∈ entries.map Argument.name) :
    (place argument entries).map Argument.name = entries.map Argument.name := by
  induction entries with
  | nil => simp at present
  | cons first rest hypothesis =>
    by_cases same : first.name = argument.name
    · simp [place, same]
    · rw [List.map_cons, List.mem_cons] at present
      have later := present.resolve_left (Ne.symm same)
      rw [place, if_neg same, List.map_cons, List.map_cons, hypothesis later]

/-- Insertion keeps keyed names different. -/
theorem nodup_insert
    {arguments : Arguments}
    (keyed : arguments.layout = .keyed)
    (distinct : arguments.names.Nodup)
    (argument : Argument) :
    (arguments.insert argument).layout = .keyed ∧ (arguments.insert argument).names.Nodup := by
  rcases arguments with ⟨layout, entries⟩
  subst keyed
  refine ⟨rfl, ?_⟩
  simp only [names, insert] at distinct ⊢
  by_cases present : argument.name ∈ entries.map Argument.name
  · rwa [map_name_place_of_present argument present]
  · rw [place_of_absent argument present, List.map_append, List.map_singleton,
      ← List.concat_eq_append]
    exact distinct.concat present

/-! ## Names that repeat -/

/-- The names of arguments in the order in which they first occur. -/
def firstNames (entries : List Argument) : List Text :=
  (entries.map Argument.name).eraseDups

/-- The last argument of a name. -/
def last? (entries : List Argument) (name : Text) : Option Argument :=
  entries.reverse.find? fun argument => argument.name == name

/-- Every name in its first place, with its last argument. -/
def settled (entries : List Argument) : List Argument :=
  (firstNames entries).filterMap (last? entries)

theorem firstNames_concat (entries : List Argument) (argument : Argument) :
    firstNames (entries ++ [argument]) =
      if argument.name ∈ entries.map Argument.name then firstNames entries
      else firstNames entries ++ [argument.name] := by
  rw [firstNames, List.map_append, List.map_singleton, List.eraseDups_append]
  by_cases present : argument.name ∈ entries.map Argument.name
  · simp only [List.removeAll, List.filter_singleton, List.elem_eq_mem, present, if_true]
    simp [firstNames]
  · simp only [List.removeAll, List.filter_singleton, List.elem_eq_mem, present, if_false]
    simp [firstNames, List.eraseDups_cons]

theorem nodup_firstNames (entries : List Argument) : (firstNames entries).Nodup := by
  induction entries using List.reverseRecOn with
  | nil => exact List.nodup_nil
  | append_singleton entries argument hypothesis =>
    rw [firstNames_concat]
    split
    · exact hypothesis
    · rename_i absent
      rw [← List.concat_eq_append]
      exact hypothesis.concat fun member => absent (List.mem_eraseDups.mp member)

theorem last?_concat (entries : List Argument) (argument : Argument) (name : Text) :
    last? (entries ++ [argument]) name =
      if argument.name = name then some argument else last? entries name := by
  rw [last?, List.reverse_append, List.reverse_singleton, List.singleton_append, List.find?_cons]
  split <;> simp_all [last?]

theorem name_of_last?
    {entries : List Argument}
    {name : Text}
    {argument : Argument}
    (found : last? entries name = some argument) :
    argument.name = name := by
  simpa using List.find?_some found

theorem last?_eq_none_iff (entries : List Argument) (name : Text) :
    last? entries name = none ↔ name ∉ entries.map Argument.name := by
  simp [last?, List.find?_eq_none]

/-- Every first name has a last argument. -/
theorem exists_last?_of_mem
    {entries : List Argument}
    {name : Text}
    (member : name ∈ firstNames entries) :
    ∃ argument, last? entries name = some argument ∧ argument.name = name := by
  cases found : last? entries name with
  | none => exact absurd (List.mem_eraseDups.mp member) ((last?_eq_none_iff _ _).mp found)
  | some argument => exact ⟨argument, rfl, name_of_last? found⟩

/-- Putting an argument among those of different names gives its name a new value. -/
theorem place_filterMap
    {argument : Argument}
    {names : List Text}
    (distinct : names.Nodup)
    {value? later? : Text → Option Argument}
    (known : ∀ name ∈ names, ∃ found, value? name = some found ∧ found.name = name)
    (own : later? argument.name = some argument)
    (others : ∀ name, name ≠ argument.name → later? name = value? name) :
    place argument (names.filterMap value?) =
      (if argument.name ∈ names then names else names ++ [argument.name]).filterMap later? := by
  induction names with
  | nil => simp [place, own]
  | cons first rest hypothesis =>
    rw [List.nodup_cons] at distinct
    rcases known first (List.mem_cons_self ..) with ⟨found, value, rfl⟩
    have later :=
      hypothesis distinct.2 fun name member => known name (List.mem_cons_of_mem _ member)
    rw [List.filterMap_cons_some value, place]
    by_cases same : found.name = argument.name
    · -- The names that follow are other ones, so nothing else is overwritten.
      have kept : rest.filterMap later? = rest.filterMap value? :=
        List.filterMap_congr fun name member =>
          others name fun equal => distinct.1 (same ▸ equal ▸ member)
      rw [if_pos same, if_pos (same ▸ List.mem_cons_self ..), same, List.filterMap_cons_some own,
        kept]
    · have value : later? found.name = some found := (others _ same).trans value
      rw [if_neg same, later]
      by_cases present : argument.name ∈ rest
      · rw [if_pos present, if_pos (List.mem_cons_of_mem _ present), List.filterMap_cons_some value]
      · have absent : argument.name ∉ found.name :: rest := by
          rw [List.mem_cons, not_or]
          exact ⟨Ne.symm same, present⟩
        rw [if_neg present, if_neg absent, List.cons_append, List.filterMap_cons_some value]

/-- One more argument is put among the settled ones. -/
theorem settled_concat (entries : List Argument) (argument : Argument) :
    settled (entries ++ [argument]) = place argument (settled entries) := by
  have known : ∀ name ∈ firstNames entries,
      ∃ found, last? entries name = some found ∧ found.name = name :=
    fun _ member => exists_last?_of_mem member
  have own : last? (entries ++ [argument]) argument.name = some argument := by
    rw [last?_concat, if_pos rfl]
  have others : ∀ name, name ≠ argument.name →
      last? (entries ++ [argument]) name = last? entries name := by
    intro name other
    rw [last?_concat, if_neg (Ne.symm other)]
  have names : argument.name ∈ firstNames entries ↔ argument.name ∈ entries.map Argument.name :=
    List.mem_eraseDups
  rw [settled, settled, place_filterMap (nodup_firstNames entries) known own others,
    firstNames_concat]
  simp only [names]

theorem mem_of_mem_settled
    {entries : List Argument}
    {argument : Argument}
    (member : argument ∈ settled entries) :
    argument ∈ entries := by
  rcases List.mem_filterMap.mp member with ⟨name, -, found⟩
  exact List.mem_reverse.mp (List.mem_of_find?_eq_some found)

/-- The names of the settled arguments are those of all, each in its first place. -/
theorem map_name_settled (entries : List Argument) :
    (settled entries).map Argument.name = firstNames entries := by
  have named : ∀ name ∈ firstNames entries,
      (last? entries name).map Argument.name = some name := by
    intro name member
    rcases exists_last?_of_mem member with ⟨argument, found, same⟩
    rw [found, Option.map_some, same]
  rw [settled, List.map_filterMap, List.filterMap_congr named, List.filterMap_some]

theorem foldl_insert_empty (entries : List Argument) :
    entries.foldl insert .empty = ⟨.keyed, settled entries⟩ := by
  induction entries using List.reverseRecOn with
  | nil => rfl
  | append_singleton entries argument hypothesis =>
    rw [List.foldl_append, hypothesis, List.foldl_cons, List.foldl_nil, insert, settled_concat]

theorem find?_filterMap_name
    {value? : Text → Option Argument}
    (named : ∀ name found, value? name = some found → found.name = name)
    (names : List Text)
    (name : Text) :
    (names.filterMap value?).find? (fun argument => argument.name == name) =
      if name ∈ names then value? name else none := by
  induction names with
  | nil => rfl
  | cons first rest hypothesis =>
    cases value : value? first with
    | none =>
      rw [List.filterMap_cons_none value, hypothesis]
      by_cases same : name = first
      · simp [same, value]
      · simp [same]
    | some found =>
      have own := named first found value
      rw [List.filterMap_cons_some value]
      by_cases same : name = first
      · rw [List.find?_cons_of_pos (by simp [own, same]), if_pos (by simp [same]), same, value]
      · rw [List.find?_cons_of_neg (by simp [own, Ne.symm same]), hypothesis]
        simp [same]

/-- Among settled arguments the last argument of a name is found, and no other. -/
theorem get?_settled (entries : List Argument) (name : Text) :
    (⟨.keyed, settled entries⟩ : Arguments).get? name = last? entries name := by
  rw [get?, settled, find?_filterMap_name (fun _ _ => name_of_last?)]
  by_cases present : name ∈ firstNames entries
  · rw [if_pos present]
  · have absent : name ∉ entries.map Argument.name := fun member =>
      present (List.mem_eraseDups.mpr member)
    rw [if_neg present, (last?_eq_none_iff entries name).mpr absent]

end TechniquePages.Arguments
