import TechniquePages.Proofs.Files.Order
import TechniquePages.Proofs.Json.Reread
import TechniquePages.Schema.Violation

/-!
# Canonical values

A reader of plain values keeps one member a key, in key order.  What such a reader
sees of a value is told place by place: the same texts, numbers and words, lists of
the same items, and objects of the same keys, where the last member of a key
counts.  Together with the order of keys this leaves no choice, and the canonical
form is it.

A value without numbers that is not nested too deep is parsed from its own text,
in any layout, as its canonical form.
-/

namespace TechniquePages.Json

/-! ## Members in key order -/

/-- The keys of members increase, so that no key is there twice. -/
def AreSorted (members : List (Text × Json)) : Prop :=
  (members.map Prod.fst).Pairwise fun first second => Text.precedes first second = true

theorem areSorted_nil : AreSorted [] := List.Pairwise.nil

theorem lookup_cons
    (key other : Text)
    (value : Json)
    (rest : List (Text × Json)) :
    ((other, value) :: rest).lookup key = if key = other then some value else rest.lookup key := by
  rw [List.lookup_cons]
  by_cases same : key = other
  · simp [same]
  · rw [beq_eq_false_iff_ne.mpr same, if_neg same]

theorem lookup_insertMember
    (key other : Text)
    (value : Json)
    (sorted : List (Text × Json)) :
    (insertMember key value sorted).lookup other =
      if other = key then some value else sorted.lookup other := by
  induction sorted with
  | nil => exact lookup_cons ..
  | cons first rest hypothesis =>
    rcases first with ⟨present, kept⟩
    rw [insertMember]
    split
    · rename_i found
      rw [lookup_cons, lookup_cons, ← found]
      split <;> rfl
    · rename_i apart
      split
      · exact lookup_cons ..
      · rw [lookup_cons, lookup_cons, hypothesis]
        by_cases same : other = key
        · rw [if_neg (by rwa [same]), if_pos same, if_pos same]
        · rw [if_neg same, if_neg same]

theorem mem_keys_insertMember
    {key other : Text}
    {value : Json}
    {sorted : List (Text × Json)}
    (member : other ∈ (insertMember key value sorted).map Prod.fst) :
    other = key ∨ other ∈ sorted.map Prod.fst := by
  induction sorted with
  | nil => exact Or.inl (List.mem_singleton.mp member)
  | cons first rest hypothesis =>
    rcases first with ⟨present, kept⟩
    rw [insertMember] at member
    split at member
    · exact (List.mem_cons.mp member).imp_right (List.mem_cons_of_mem _)
    · split at member
      · exact List.mem_cons.mp member
      · rcases List.mem_cons.mp member with rfl | later
        · exact Or.inr (List.mem_cons_self ..)
        · exact (hypothesis later).imp_right (List.mem_cons_of_mem _)

theorem AreSorted.insertMember
    {sorted : List (Text × Json)}
    (ordered : AreSorted sorted)
    (key : Text)
    (value : Json) :
    AreSorted (insertMember key value sorted) := by
  induction sorted with
  | nil => exact List.pairwise_singleton ..
  | cons first rest hypothesis =>
    rcases first with ⟨present, kept⟩
    rcases List.pairwise_cons.mp ordered with ⟨below, others⟩
    rw [Json.insertMember]
    split
    · rename_i found
      subst found
      exact List.pairwise_cons.mpr ⟨below, others⟩
    · rename_i apart
      split
      · rename_i earlier
        refine List.pairwise_cons.mpr ⟨fun other member => ?_, ordered⟩
        rcases List.mem_cons.mp member with rfl | later
        · exact earlier
        · exact trans_of (fun left right => Text.precedes left right = true) earlier
            (below other later)
      · rename_i notEarlier
        refine List.pairwise_cons.mpr ⟨fun other member => ?_, hypothesis others⟩
        rcases mem_keys_insertMember member with rfl | later
        · rcases trichotomous_of (fun left right => Text.precedes left right = true)
            present other with lower | same | higher
          · exact lower
          · exact absurd same.symm apart
          · exact absurd higher notEarlier
        · exact below other later

theorem AreSorted.sortMembers
    {sorted : List (Text × Json)}
    (ordered : AreSorted sorted)
    (members : List (Text × Json)) :
    AreSorted (sortMembers sorted members) := by
  induction members generalizing sorted with
  | nil => exact ordered
  | cons first rest hypothesis => exact hypothesis (ordered.insertMember first.1 first.2)

/-- Of the members of a key the last one is kept. -/
theorem lookup_sortMembers
    (sorted members : List (Text × Json))
    (key : Text) :
    (sortMembers sorted members).lookup key = (members.reverse ++ sorted).lookup key := by
  induction members generalizing sorted with
  | nil => rfl
  | cons first rest hypothesis =>
    rcases first with ⟨other, value⟩
    rw [sortMembers, hypothesis, List.reverse_cons, List.append_assoc, List.lookup_append,
      List.lookup_append, lookup_insertMember, List.singleton_append, lookup_cons]

theorem lookup_eq_none_of_below
    {key : Text}
    {members : List (Text × Json)}
    (below : ∀ other ∈ members.map Prod.fst, Text.precedes key other = true) :
    members.lookup key = none := by
  rw [List.lookup_eq_none_iff]
  intro member inside
  have later := below member.1 (List.mem_map_of_mem inside)
  refine bne_iff_ne.mpr fun same => ?_
  rw [← same] at later
  exact irrefl (r := fun left right => Text.precedes left right = true) key later

/-- Sorted members have nothing under a key that comes before their first. -/
theorem AreSorted.lookup_eq_none
    {key : Text}
    {first : Text × Json}
    {rest : List (Text × Json)}
    (ordered : AreSorted (first :: rest))
    (earlier : Text.precedes key first.1 = true) :
    (first :: rest).lookup key = none := by
  refine lookup_eq_none_of_below fun other inside => ?_
  rcases List.mem_cons.mp inside with rfl | further
  · exact earlier
  · exact trans_of (fun left right => Text.precedes left right = true) earlier
      ((List.pairwise_cons.mp ordered).1 other further)

/-- Where no key is there twice, the last member of a key is the first one. -/
theorem AreSorted.lookup_reverse
    {members : List (Text × Json)}
    (ordered : AreSorted members)
    (key : Text) :
    members.reverse.lookup key = members.lookup key := by
  induction members with
  | nil => rfl
  | cons first rest hypothesis =>
    rcases first with ⟨other, value⟩
    rcases List.pairwise_cons.mp ordered with ⟨below, others⟩
    rw [List.reverse_cons, List.lookup_append, hypothesis others, lookup_cons, lookup_cons]
    by_cases same : key = other
    · subst same
      simp [lookup_eq_none_of_below below]
    · simp [same]

/-- Sorted members are told by what they have under each key. -/
theorem AreSorted.ext
    {first second : List (Text × Json)}
    (ordered : AreSorted first)
    (others : AreSorted second)
    (agree : ∀ key, first.lookup key = second.lookup key) :
    first = second := by
  induction first generalizing second with
  | nil =>
    cases second with
    | nil => rfl
    | cons member rest =>
      have found := agree member.1
      rw [lookup_cons, if_pos rfl] at found
      cases found
  | cons head front hypothesis =>
    rcases head with ⟨key, value⟩
    cases second with
    | nil =>
      have found := agree key
      rw [lookup_cons, if_pos rfl] at found
      cases found
    | cons member rest =>
      rcases member with ⟨other, present⟩
      rcases List.pairwise_cons.mp ordered with ⟨below, sortedFront⟩
      rcases List.pairwise_cons.mp others with ⟨under, sortedRest⟩
      -- The smaller of two different first keys would be missing on the other side.
      have same : key = other := by
        rcases trichotomous_of (fun left right => Text.precedes left right = true)
          key other with earlier | same | later
        · have found := agree key
          rw [lookup_cons, if_pos rfl, others.lookup_eq_none earlier] at found
          cases found
        · exact same
        · have found := agree other
          rw [lookup_cons other other, if_pos rfl, ordered.lookup_eq_none later] at found
          cases found
      subst same
      have values := agree key
      rw [lookup_cons, lookup_cons, if_pos rfl, if_pos rfl] at values
      have remaining : front = rest := by
        refine hypothesis sortedFront sortedRest fun next => ?_
        by_cases same : next = key
        · rw [same, lookup_eq_none_of_below below, lookup_eq_none_of_below under]
        · have found := agree next
          rwa [lookup_cons, lookup_cons, if_neg same, if_neg same] at found
      rw [remaining, Option.some.inj values]

/-! ## Parts of a value -/

/-- The part of a value that a step leads to; of the members of a key the last one counts. -/
def step? : Schema.PointerStep → Json → Option Json
  | .member key, .object members => member? key members.reverse
  | .item index, .array items => items[index]?
  | _, _ => none

/-- The part of a value that a pointer leads to. -/
def part? : Schema.Pointer → Json → Option Json
  | [], value => some value
  | step :: rest, value => (step? step value).bind (part? rest)

/-- The keys of every object in the value increase. -/
def HasSortedKeys (value : Json) : Prop :=
  ∀ pointer members, part? pointer value = some (.object members) → AreSorted members

/-- Two values are the same, or two lists, or two objects. -/
inductive Resembles : Json → Json → Prop where
  | null : Resembles .null .null
  | boolean (value : Bool) : Resembles (.boolean value) (.boolean value)
  | number (value : Number) : Resembles (.number value) (.number value)
  | string (value : Text) : Resembles (.string value) (.string value)
  | array (items others : List Json) : Resembles (.array items) (.array others)
  | object (members others : List (Text × Json)) : Resembles (.object members) (.object others)

/--
What a reader sees of a value who keeps one member a key, in key order: it has the
same parts, of the members of a key the last one, and its keys increase.
-/
structure IsSeenAs (value seen : Json) : Prop where
  sorted : seen.HasSortedKeys
  part : ∀ pointer, Option.Rel Resembles (part? pointer value) (part? pointer seen)

theorem sizeOf_lt_of_step?
    {step : Schema.PointerStep}
    {value inside : Json}
    (found : step? step value = some inside) :
    sizeOf inside < sizeOf value := by
  cases step with
  | member key =>
    cases value with
    | object members =>
      rcases List.lookup_eq_some_iff.mp found with ⟨before, after, split, -⟩
      have member : (key, inside) ∈ members := by
        rw [← List.mem_reverse, split]
        exact List.mem_append_right _ (List.mem_cons_self ..)
      have smaller := List.sizeOf_lt_of_mem member
      simp only [Prod.mk.sizeOf_spec, object.sizeOf_spec] at smaller ⊢
      omega
    | _ => cases found
  | item index =>
    cases value with
    | array items =>
      have smaller := List.sizeOf_lt_of_mem (List.mem_of_getElem? found)
      simp only [array.sizeOf_spec]
      omega
    | _ => cases found

theorem IsSeenAs.step
    {value seen : Json}
    (view : IsSeenAs value seen)
    (step : Schema.PointerStep) :
    Option.Rel IsSeenAs (step? step value) (step? step seen) := by
  have head := view.part [step]
  simp only [part?] at head
  cases before : step? step value with
  | none =>
    rw [before] at head
    cases after : step? step seen with
    | none => exact .none
    | some inside =>
      rw [after] at head
      cases head
  | some original =>
    rw [before] at head
    cases after : step? step seen with
    | none =>
      rw [after] at head
      cases head
    | some inside =>
      refine .some ⟨fun pointer members found => ?_, fun pointer => ?_⟩
      · exact view.sorted (step :: pointer) members (by rw [part?, after]; exact found)
      · have further := view.part (step :: pointer)
        rw [part?, part?, before, after] at further
        exact further

/-! ## The canonical form -/

theorem canonicalItems_eq_map (items : List Json) :
    canonicalItems items = items.map canonical := by
  induction items with
  | nil => rfl
  | cons item rest hypothesis => rw [canonicalItems, hypothesis, List.map_cons]

theorem canonicalMembers_append (first second : List (Text × Json)) :
    canonicalMembers (first ++ second) = canonicalMembers first ++ canonicalMembers second := by
  induction first with
  | nil => rfl
  | cons member rest hypothesis =>
    rcases member with ⟨key, value⟩
    rw [List.cons_append, canonicalMembers, canonicalMembers, hypothesis, List.cons_append]

theorem canonicalMembers_reverse (members : List (Text × Json)) :
    (canonicalMembers members).reverse = canonicalMembers members.reverse := by
  induction members with
  | nil => rfl
  | cons member rest hypothesis =>
    rcases member with ⟨key, value⟩
    rw [canonicalMembers, List.reverse_cons, hypothesis, List.reverse_cons,
      canonicalMembers_append]
    rfl

theorem lookup_canonicalMembers
    (members : List (Text × Json))
    (key : Text) :
    (canonicalMembers members).lookup key = (members.lookup key).map canonical := by
  induction members with
  | nil => rfl
  | cons member rest hypothesis =>
    rcases member with ⟨other, value⟩
    rw [canonicalMembers, lookup_cons, lookup_cons, hypothesis]
    split <;> rfl

/-- The canonical form of an object: increasing keys, each with the last value it had. -/
theorem exists_canonical_object (members : List (Text × Json)) :
    ∃ sorted, canonical (.object members) = .object sorted ∧ AreSorted sorted ∧
      ∀ key, sorted.lookup key = (members.reverse.lookup key).map canonical := by
  refine ⟨_, rfl, areSorted_nil.sortMembers _, fun key => ?_⟩
  rw [lookup_sortMembers, List.append_nil, canonicalMembers_reverse, lookup_canonicalMembers]

theorem step?_canonical
    (step : Schema.PointerStep)
    (value : Json) :
    step? step value.canonical = (step? step value).map canonical := by
  cases step with
  | member key =>
    cases value with
    | object members =>
      rcases exists_canonical_object members with ⟨sorted, shape, ordered, found⟩
      rw [shape]
      exact (ordered.lookup_reverse key).trans (found key)
    | _ => rfl
  | item index =>
    cases value with
    | array items =>
      rw [canonical, step?, step?, canonicalItems_eq_map, List.getElem?_map]
    | _ => rfl

/-- The canonical form has everywhere the canonical form of what the value has there. -/
theorem part?_canonical
    (pointer : Schema.Pointer)
    (value : Json) :
    part? pointer value.canonical = (part? pointer value).map canonical := by
  induction pointer generalizing value with
  | nil => rfl
  | cons step rest hypothesis =>
    rw [part?, part?, step?_canonical]
    cases step? step value with
    | none => rfl
    | some inside => exact hypothesis inside

theorem resembles_canonical (value : Json) : Resembles value value.canonical := by
  cases value <;> constructor

theorem isSeenAs_canonical (value : Json) : IsSeenAs value value.canonical := by
  refine ⟨fun pointer members found => ?_, fun pointer => ?_⟩
  · rw [part?_canonical] at found
    rcases Option.map_eq_some_iff.mp found with ⟨inside, -, shape⟩
    cases inside with
    | object raw =>
      rcases exists_canonical_object raw with ⟨sorted, known, ordered, -⟩
      rw [shape] at known
      cases known
      exact ordered
    | _ => cases shape
  · rw [part?_canonical]
    cases part? pointer value with
    | none => exact .none
    | some inside => exact .some (resembles_canonical inside)

/-- Nothing else is seen of a value than its canonical form. -/
theorem IsSeenAs.eq_canonical
    {value seen : Json}
    (view : IsSeenAs value seen) :
    seen = value.canonical := by
  -- Parts of the two are compared step by step, each of a smaller value.
  have parts : ∀ step, step? step seen = (step? step value).map canonical := by
    intro step
    have inside := view.step step
    cases found : step? step value with
    | none =>
      rw [found] at inside
      cases other : step? step seen with
      | none => rfl
      | some present =>
        rw [other] at inside
        cases inside
    | some original =>
      have smaller := sizeOf_lt_of_step? found
      rw [found] at inside
      cases other : step? step seen with
      | none =>
        rw [other] at inside
        cases inside
      | some present =>
        rw [other] at inside
        cases inside with
        | some deeper => exact congrArg some deeper.eq_canonical
  have head := view.part []
  cases head with
  | some alike =>
    cases alike with
    | array items others =>
      rw [canonical, canonicalItems_eq_map]
      refine congrArg array (List.ext_getElem? fun index => ?_)
      rw [List.getElem?_map]
      exact parts (.item index)
    | object members others =>
      rcases exists_canonical_object members with ⟨sorted, shape, ordered, found⟩
      have increasing : AreSorted others := view.sorted [] others rfl
      rw [shape]
      refine congrArg object (increasing.ext ordered fun key => ?_)
      rw [found, ← increasing.lookup_reverse]
      exact parts (.member key)
    | _ => rfl
termination_by sizeOf value

/-! ## Reading values of any kind -/

mutual

/-- How many lists and objects are open at once in a value. -/
def depth : Json → Nat
  | .null => 0
  | .boolean _ => 0
  | .number _ => 0
  | .string _ => 0
  | .array items => depthOfItems items + 1
  | .object members => depthOfMembers members + 1

/-- How many are open at once in one of the items. -/
def depthOfItems : List Json → Nat
  | [] => 0
  | item :: rest => max (depth item) (depthOfItems rest)

/-- How many are open at once in one of the members. -/
def depthOfMembers : List (Text × Json) → Nat
  | [] => 0
  | (_, value) :: rest => max (depth value) (depthOfMembers rest)

end

mutual

/-- The tree of a value is read as the value, if it may be opened deep enough. -/
theorem toJson_source :
    (value : Json) → ∀ budget, value.depth ≤ budget → (source value).toJson budget = .ok value
  | .null, _, _ => rfl
  | .boolean _, _, _ => rfl
  | .number _, _, _ => rfl
  | .string _, _, _ => rfl
  | .array items, budget, shallow => by
    cases budget with
    | zero => simp [depth] at shallow
    | succ budget =>
      have inside := toJson_sourceItems items budget (Nat.le_of_succ_le_succ shallow)
      rw [source, Source.toJson, inside]
      rfl
  | .object members, budget, shallow => by
    cases budget with
    | zero => simp [depth] at shallow
    | succ budget =>
      have inside := toJson_sourceMembers members budget (Nat.le_of_succ_le_succ shallow)
      rw [source, Source.toJson, inside]
      rfl

theorem toJson_sourceItems :
    (items : List Json) → ∀ budget, depthOfItems items ≤ budget →
      (sourceItems items).toJson budget = .ok items
  | [], _, _ => rfl
  | item :: rest, budget, shallow => by
    rw [depthOfItems] at shallow
    have head := toJson_source item budget (Nat.le_trans (Nat.le_max_left ..) shallow)
    have tail := toJson_sourceItems rest budget (Nat.le_trans (Nat.le_max_right ..) shallow)
    rw [sourceItems, Items.toJson, head, tail]
    rfl

theorem toJson_sourceMembers :
    (members : List (Text × Json)) → ∀ budget, depthOfMembers members ≤ budget →
      (sourceMembers members).toJson budget = .ok members
  | [], _, _ => rfl
  | (key, value) :: rest, budget, shallow => by
    rw [depthOfMembers] at shallow
    have head := toJson_source value budget (Nat.le_trans (Nat.le_max_left ..) shallow)
    have tail := toJson_sourceMembers rest budget (Nat.le_trans (Nat.le_max_right ..) shallow)
    rw [sourceMembers, Members.toJson]
    simp only [head, tail]
    rfl

end

/-- A written value is parsed as its canonical form, blanks around and after it or not. -/
theorem parse_writeAt
    {layout : Layout}
    (blank : layout.IsBlank)
    {value : Json}
    (numberFree : IsNumberFree value)
    (shallow : value.depth ≤ depthLimit)
    (level : Nat)
    {rest : Text}
    (spaces : IsBlank rest) :
    parse (writeAt layout level value ++ rest) = .ok value.canonical := by
  have read : readAll Source.toJson (writeAt layout level value ++ rest) = .ok value :=
    readAll_writeAt blank numberFree level spaces (toJson_source value depthLimit shallow)
  rw [parse, read]
  rfl

end TechniquePages.Json
