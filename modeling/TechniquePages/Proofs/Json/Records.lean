import TechniquePages.Proofs.Json.Reread

/-!
# Lists and records

What is proved of every list and every record, whatever their parts are.

Where the items of a list are read back, so is the list; where the members of an
object are read into a draft, the record is the finished draft.  And a property
that readers of the parts establish is kept until the whole is read: a record may
be written as an object with its members in any order or as a list, and in both
an invariant of the draft holds at the end if it holds of the blank draft and
every field keeps it.
-/

namespace TechniquePages.Json

/-! ## Reading back -/

theorem readEach_sourceItems
    {α : Type}
    {read : Reader α}
    {toJson : α → Json}
    {budget : Nat}
    {values : List α}
    (each : ∀ value ∈ values, read budget (source (toJson value)) = .ok value) :
    readEach read budget (sourceItems (values.map toJson)) = .ok values := by
  induction values with
  | nil => rfl
  | cons value rest hypothesis =>
    have later := hypothesis fun other member => each other (List.mem_cons_of_mem _ member)
    rw [List.map_cons, sourceItems, readEach, each value (List.mem_cons_self ..)]
    simp only [later]
    rfl

/-- A list is read back if each of its items is. -/
theorem readList_source
    {α : Type}
    {read : Reader α}
    {toJson : α → Json}
    {budget : Nat}
    {values : List α}
    (each : ∀ value ∈ values, read budget (source (toJson value)) = .ok value) :
    readList read (budget + 1) (source (.array (values.map toJson))) = .ok values :=
  readEach_sourceItems each

/-- A list that is there is read as if it had to be. -/
theorem readOr_list
    {α : Type}
    (fallback : α)
    (read : Reader α)
    (budget : Nat)
    (items : Items) :
    readOr fallback read budget (.list items) = read budget (.list items) := by
  change ((read budget (.list items)).map some).map (·.getD fallback) = read budget (.list items)
  cases read budget (.list items) <;> rfl

/-- A member of a record is read into its field. -/
theorem readObject_member
    {δ α β : Type}
    {shape : RecordShape δ β}
    {key : String}
    {required : Bool}
    {read : Reader α}
    {get : δ → Option α}
    {set : δ → α → δ}
    {name : Text}
    {draft : δ}
    {budget : Nat}
    {value : Source}
    {result : α}
    (found : shape.fields.find? (·.accepts name) = some (.of key required read get set))
    (unset : (get draft).isSome = false)
    (known : read budget value = .ok result)
    (skipped : Except Fault Unit)
    (tail : Members) :
    shape.readObject budget draft (.member (.ok name) skipped value tail) =
      shape.readObject budget (set draft result) tail := by
  have absent : (FieldShape.of key required read get set).isSet draft = false := unset
  have taken : (FieldShape.of key required read get set).read budget value draft =
      .ok (set draft result) := by
    change (read budget value).map (set draft) = .ok (set draft result)
    rw [known]
    rfl
  rw [RecordShape.readObject]
  simp only [found, absent, taken]
  rfl

/-- An object whose members are read into a draft is read as the finished draft. -/
theorem read_object
    {δ α : Type}
    {shape : RecordShape δ α}
    {budget : Nat}
    {members : Members}
    {draft : δ}
    {result : α}
    (drafted : shape.readObject budget shape.blank members = .ok draft)
    (finished : shape.finish draft = .ok result) :
    shape.read (budget + 1) (.object members) = .ok result := by
  change (shape.readObject budget shape.blank members).bind shape.finish = .ok result
  rw [drafted]
  exact finished

/-! ## Keeping an invariant -/

/-- All values that a reader gives have a property. -/
def Ensures
    {α : Type}
    (read : Reader α)
    (property : α → Prop) : Prop :=
  ∀ budget source value, read budget source = .ok value → property value

theorem opening_eq_ok
    {α : Type}
    {budget : Nat}
    {inside : Nat → Except Fault α}
    {value : α}
    (read : opening budget inside = .ok value) :
    ∃ smaller, inside smaller = .ok value := by
  cases budget with
  | zero => cases read
  | succ smaller => exact ⟨smaller, read⟩

/-- A mapped outcome is a value only if there was one. -/
theorem map_eq_ok
    {α β : Type}
    {outcome : Except Fault α}
    {function : α → β}
    {result : β}
    (known : outcome.map function = .ok result) :
    ∃ value, outcome = .ok value ∧ function value = result := by
  cases outcome with
  | error fault => cases known
  | ok value =>
    cases known
    exact ⟨value, rfl, rfl⟩

theorem bind_eq_ok
    {α β : Type}
    {outcome : Except Fault α}
    {next : α → Except Fault β}
    {result : β}
    (known : outcome >>= next = .ok result) :
    ∃ value, outcome = .ok value ∧ next value = .ok result := by
  cases outcome with
  | error fault => cases known
  | ok value => exact ⟨value, rfl, known⟩

theorem require_eq_ok
    {α : Type}
    {name : String}
    {present : Option α}
    {value : α}
    (known : require name present = .ok value) :
    present = some value := by
  cases present with
  | none => cases known
  | some present =>
    cases known
    rfl

/-- Every item of a list that is read has been read itself. -/
theorem forall_mem_of_readEach
    {α : Type}
    {read : Reader α}
    {property : α → Prop}
    (ensures : Ensures read property)
    {budget : Nat}
    {items : Items}
    {values : List α}
    (known : readEach read budget items = .ok values) :
    ∀ value ∈ values, property value := by
  fun_induction readEach read budget items generalizing values with
  | case1 ending =>
    rcases map_eq_ok known with ⟨_, -, rfl⟩
    simp
  | case2 head tail fault failed => cases known
  | case3 head tail first read hypothesis =>
    rcases map_eq_ok known with ⟨rest, later, rfl⟩
    exact List.forall_mem_cons.mpr ⟨ensures _ _ _ read, hypothesis later⟩

theorem Ensures.list
    {α : Type}
    {read : Reader α}
    {property : α → Prop}
    (ensures : Ensures read property) :
    Ensures (readList read) fun values => ∀ value ∈ values, property value := by
  intro budget source values known
  cases source with
  | list items =>
    rcases opening_eq_ok known with ⟨smaller, inside⟩
    exact forall_mem_of_readEach ensures inside
  | _ => cases known

/-- Every field keeps an invariant of drafts. -/
def Keep
    {δ : Type}
    (fields : List (FieldShape δ))
    (invariant : δ → Prop) : Prop :=
  ∀ field ∈ fields, ∀ budget source draft next,
    invariant draft → field.read budget source draft = .ok next → invariant next

theorem keep_nil
    {δ : Type}
    (invariant : δ → Prop) :
    Keep [] invariant := by
  simp [Keep]

/-- A field keeps an invariant if storing what it reads does. -/
theorem Keep.cons
    {δ α : Type}
    {key : String}
    {required : Bool}
    {read : Reader α}
    {get : δ → Option α}
    {set : δ → α → δ}
    {fields : List (FieldShape δ)}
    {invariant : δ → Prop}
    {property : α → Prop}
    (ensures : Ensures read property)
    (stored : ∀ draft value, invariant draft → property value → invariant (set draft value))
    (keep : Keep fields invariant) :
    Keep (.of key required read get set :: fields) invariant := by
  intro field member budget source draft next holds known
  rcases List.mem_cons.mp member with rfl | later
  · rcases map_eq_ok known with ⟨value, read, rfl⟩
    exact stored draft value holds (ensures _ _ _ read)
  · exact keep field later budget source draft next holds known

/-- A field that the invariant does not mention keeps it. -/
theorem Keep.ignore
    {δ α : Type}
    {key : String}
    {required : Bool}
    {read : Reader α}
    {get : δ → Option α}
    {set : δ → α → δ}
    {fields : List (FieldShape δ)}
    {invariant : δ → Prop}
    (stored : ∀ draft value, invariant draft → invariant (set draft value))
    (keep : Keep fields invariant) :
    Keep (.of key required read get set :: fields) invariant :=
  have anything : Ensures read fun _ => True := fun _ _ _ _ => trivial
  Keep.cons anything (fun draft value holds _ => stored draft value holds) keep

section Records

variable {δ α : Type} {shape : RecordShape δ α}

theorem readObject_keeps
    {invariant : δ → Prop}
    (keep : Keep shape.fields invariant)
    {budget : Nat}
    {draft next : δ}
    {members : Members}
    (holds : invariant draft)
    (known : shape.readObject budget draft members = .ok next) :
    invariant next := by
  fun_induction RecordShape.readObject shape budget draft members with
  | case1 draft ending =>
    rcases map_eq_ok known with ⟨_, -, rfl⟩
    exact holds
  | case2 => cases known
  | case3 => cases known
  | case4 draft _ _ _ _ _ _ hypothesis => exact hypothesis holds known
  | case5 => cases known
  | case6 => cases known
  | case7 draft _ _ _ _ field found _ _ read hypothesis =>
    exact hypothesis (keep field (List.mem_of_find?_eq_some found) _ _ _ _ holds read) known

theorem readFields_keeps
    {invariant : δ → Prop}
    {fields : List (FieldShape δ)}
    (keep : Keep fields invariant)
    {budget position : Nat}
    {draft next : δ}
    {items : Items}
    (holds : invariant draft)
    (known : shape.readFields budget position fields items draft = .ok next) :
    invariant next := by
  fun_induction RecordShape.readFields shape budget position fields items draft with
  | case1 _ ending draft =>
    rcases map_eq_ok known with ⟨_, -, rfl⟩
    exact holds
  | case2 => cases known
  | case3 => cases known
  | case4 _ field fields _ _ draft _ read hypothesis =>
    exact hypothesis (fun other member => keep other (List.mem_cons_of_mem _ member))
      (keep field (List.mem_cons_self ..) _ _ _ _ holds read) known
  | case5 => cases known
  | case6 => cases known
  | case7 _ field fields _ draft _ _ hypothesis =>
    exact hypothesis (fun other member => keep other (List.mem_cons_of_mem _ member)) holds known

/-- What finishing makes of an invariant holds of every record that is read. -/
theorem Ensures.record
    {property : α → Prop}
    (invariant : δ → Prop)
    (keep : Keep shape.fields invariant)
    (start : invariant shape.blank)
    (finished : ∀ draft value,
      invariant draft → shape.finish draft = .ok value → property value) :
    Ensures shape.read property := by
  intro budget source value known
  cases source with
  | object members =>
    rcases opening_eq_ok known with ⟨smaller, inside⟩
    rcases bind_eq_ok inside with ⟨draft, drafted, ending⟩
    exact finished draft value (readObject_keeps keep start drafted) ending
  | list items =>
    rcases opening_eq_ok known with ⟨smaller, inside⟩
    rcases bind_eq_ok inside with ⟨draft, drafted, ending⟩
    exact finished draft value (readFields_keeps keep start drafted) ending
  | _ => cases known

end Records

/-- What the whole text of a value is read as has been read from its tree. -/
theorem Ensures.all
    {α : Type}
    {read : Reader α}
    {property : α → Prop}
    (ensures : Ensures read property)
    {text : Text}
    {value : α}
    (known : readAll read text = .ok value) :
    property value := by
  rw [readAll] at known
  cases outcome : read depthLimit (Source.read text).1 with
  | error fault => simp [outcome] at known
  | ok result =>
    simp only [outcome] at known
    split at known
    · cases known
      exact ensures _ _ _ outcome
    · cases known

end TechniquePages.Json
