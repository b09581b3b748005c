/-! A dictionary maps names to values and lists them sorted by name. The order is part of the type, so two
dictionaries that look up alike are equal (`Dictionary.ext_get?`). -/

namespace FormEditor

structure Dictionary (α : Type) where
  entries : List (String × α)
  sorted : entries.Pairwise (fun left right => left.1 < right.1)
  deriving DecidableEq

namespace Dictionary

variable {α : Type}

def empty : Dictionary α :=
  ⟨[], .nil⟩

instance : Inhabited (Dictionary α) := ⟨empty⟩

instance : EmptyCollection (Dictionary α) := ⟨empty⟩

theorem lt_of_not_lt {left right : String} (notLess : ¬ left < right) (differ : left ≠ right) :
    right < left := by
  have notGreater : right ≤ left := String.not_lt.mp notLess
  cases Decidable.em (right < left) with
  | inl less => exact less
  | inr notLess' => exact absurd (String.le_antisymm (String.not_lt.mp notLess') notGreater) differ

/-- The value of a name in a list of entries. -/
def lookup (name : String) : List (String × α) → Option α
  | [] => none
  | (key, value) :: entries => if key = name then some value else lookup name entries

/-- Puts an entry at its place, over an entry of the same name if there is one. -/
def place (name : String) (value : α) : List (String × α) → List (String × α)
  | [] => [(name, value)]
  | (key, old) :: entries =>
    if name < key then (name, value) :: (key, old) :: entries
    else if name = key then (name, value) :: entries
    else (key, old) :: place name value entries

theorem mem_place {name : String} {value : α} {entries : List (String × α)} {entry : String × α}
    (member : entry ∈ place name value entries) : entry = (name, value) ∨ entry ∈ entries := by
  induction entries with
  | nil => exact Or.inl (List.mem_singleton.mp member)
  | cons head entries ih =>
    obtain ⟨key, old⟩ := head
    rw [place] at member
    split at member
    · exact List.mem_cons.mp member
    · split at member
      · exact (List.mem_cons.mp member).imp_right (List.mem_cons_of_mem _)
      · cases List.mem_cons.mp member with
        | inl same => exact Or.inr (same ▸ List.mem_cons_self)
        | inr rest => exact (ih rest).imp_right (List.mem_cons_of_mem _)

theorem sorted_place (name : String) (value : α) {entries : List (String × α)}
    (sorted : entries.Pairwise (fun left right => left.1 < right.1)) :
    (place name value entries).Pairwise (fun left right => left.1 < right.1) := by
  induction entries with
  | nil => exact List.pairwise_singleton _ _
  | cons head entries ih =>
    obtain ⟨key, old⟩ := head
    have below := (List.pairwise_cons.mp sorted).1
    have rest := (List.pairwise_cons.mp sorted).2
    rw [place]
    split
    · rename_i less
      refine List.pairwise_cons.mpr ⟨fun entry member => ?_, sorted⟩
      cases List.mem_cons.mp member with
      | inl same => exact same ▸ less
      | inr later => exact String.lt_trans less (below entry later)
    · rename_i notLess
      split
      · rename_i same
        exact List.pairwise_cons.mpr ⟨fun entry member => same ▸ below entry member, rest⟩
      · rename_i differ
        refine List.pairwise_cons.mpr ⟨fun entry member => ?_, ih rest⟩
        cases mem_place member with
        | inl same => exact same ▸ lt_of_not_lt notLess differ
        | inr later => exact below entry later

def get? (dictionary : Dictionary α) (name : String) : Option α :=
  lookup name dictionary.entries

def insert (dictionary : Dictionary α) (name : String) (value : α) : Dictionary α :=
  ⟨place name value dictionary.entries, sorted_place name value dictionary.sorted⟩

def erase (dictionary : Dictionary α) (name : String) : Dictionary α :=
  ⟨dictionary.entries.filter (·.1 ≠ name), dictionary.sorted.filter _⟩

def isEmpty (dictionary : Dictionary α) : Bool :=
  dictionary.entries.isEmpty

def size (dictionary : Dictionary α) : Nat :=
  dictionary.entries.length

/-- Of several entries of one name the last is kept. -/
def ofList (entries : List (String × α)) : Dictionary α :=
  entries.foldl (fun dictionary entry => dictionary.insert entry.1 entry.2) empty

theorem lookup_place (name other : String) (value : α) (entries : List (String × α)) :
    lookup other (place name value entries)
      = if name = other then some value else lookup other entries := by
  induction entries with
  | nil => rfl
  | cons head entries ih =>
    obtain ⟨key, old⟩ := head
    rw [place]
    split
    · rfl
    · split
      · rename_i same
        subst same
        by_cases found : name = other <;> simp [lookup, found]
      · rename_i differ
        simp only [lookup, ih]
        by_cases found : key = other
        · have : name ≠ other := fun same => differ (same.trans found.symm)
          simp [found, this]
        · simp [found]

theorem get?_insert (dictionary : Dictionary α) (name other : String) (value : α) :
    (dictionary.insert name value).get? other
      = if name = other then some value else dictionary.get? other :=
  lookup_place name other value dictionary.entries

theorem get?_erase (dictionary : Dictionary α) (name other : String) :
    (dictionary.erase name).get? other
      = if name = other then none else dictionary.get? other := by
  unfold get? erase
  simp only
  induction dictionary.entries with
  | nil => simp [lookup]
  | cons head entries ih =>
    obtain ⟨key, value⟩ := head
    by_cases same : key = name
    · subst same
      by_cases found : key = other <;> simp_all [lookup]
    · by_cases found : key = other
      · subst found
        have : ¬ name = key := fun h => same h.symm
        simp [lookup, same, this]
      · simp_all [lookup]

theorem lookup_eq_none_of_lt {name : String} {entries : List (String × α)}
    (below : ∀ entry ∈ entries, name < entry.1) : lookup name entries = none := by
  induction entries with
  | nil => rfl
  | cons head entries ih =>
    obtain ⟨key, value⟩ := head
    have less : name < key := below _ List.mem_cons_self
    have differ : ¬ key = name := fun same => String.lt_irrefl name (same ▸ less)
    rw [lookup, if_neg differ]
    exact ih (fun entry member => below entry (List.mem_cons_of_mem _ member))

theorem ext_lookup : ∀ {left right : List (String × α)},
    left.Pairwise (fun first second => first.1 < second.1) →
    right.Pairwise (fun first second => first.1 < second.1) →
    (∀ name, lookup name left = lookup name right) → left = right
  | [], [], _, _, _ => rfl
  | [], (key, value) :: right, _, _, same => by simpa [lookup] using same key
  | (key, value) :: left, [], _, _, same => by simpa [lookup] using same key
  | (key, value) :: left, (key', value') :: right, sortedLeft, sortedRight, same => by
    have belowLeft := (List.pairwise_cons.mp sortedLeft).1
    have belowRight := (List.pairwise_cons.mp sortedRight).1
    have keys : key = key' := by
      cases Decidable.em (key < key') with
      | inl less =>
        have absent : lookup key ((key', value') :: right) = none := by
          refine lookup_eq_none_of_lt (fun entry member => ?_)
          cases List.mem_cons.mp member with
          | inl head => exact head ▸ less
          | inr later => exact String.lt_trans less (belowRight entry later)
        have present := same key
        rw [absent] at present
        simp [lookup] at present
      | inr notLess =>
        cases Decidable.em (key = key') with
        | inl equal => exact equal
        | inr differ =>
          have less := lt_of_not_lt notLess differ
          have absent : lookup key' ((key, value) :: left) = none := by
            refine lookup_eq_none_of_lt (fun entry member => ?_)
            cases List.mem_cons.mp member with
            | inl head => exact head ▸ less
            | inr later => exact String.lt_trans less (belowLeft entry later)
          have present := same key'
          rw [absent] at present
          simp [lookup] at present
    subst keys
    have values : value = value' := by simpa [lookup] using same key
    subst values
    have rest : left = right := by
      refine ext_lookup (List.pairwise_cons.mp sortedLeft).2 (List.pairwise_cons.mp sortedRight).2
        (fun name => ?_)
      cases Decidable.em (key = name) with
      | inl equal =>
        subst equal
        rw [lookup_eq_none_of_lt belowLeft, lookup_eq_none_of_lt belowRight]
      | inr differ => simpa [lookup, differ] using same name
    rw [rest]

/-- A dictionary is determined by what it looks up. -/
theorem ext_get? {left right : Dictionary α} (same : ∀ name, left.get? name = right.get? name) :
    left = right := by
  obtain ⟨left, sortedLeft⟩ := left
  obtain ⟨right, sortedRight⟩ := right
  have entries : left = right := ext_lookup sortedLeft sortedRight same
  subst entries
  rfl

end Dictionary

end FormEditor
