import FormEditor.EditError
import FormEditor.ElementType

/-! A registry defines the element types that a document may use: the palette category and icon of each and the
properties of a new element. A type has at most one definition, and the definitions have an order, in
which the palette shows them. -/

namespace FormEditor

/-- What the value of a field has to match, and what is said when it does not. -/
structure Validation where
  regex : String
  message : String
  deriving DecidableEq

/-- The properties of a new element. -/
structure DefaultProps where
  type : Option ElementType := none
  label : Option String := none
  content : Option String := none
  placeholder : Option String := none
  options : Option (List String) := none
  mask : Option String := none
  validation : Option Validation := none
  subtitle : Option String := none
  description : Option String := none
  photo : Option String := none
  icon : Option String := none
  deriving DecidableEq

structure Definition where
  category : String
  icon : String
  defaultProps : DefaultProps
  deriving DecidableEq

structure Registry where
  entries : List (ElementType × Definition)
  distinct : (entries.map (·.1)).Nodup
  deriving DecidableEq

namespace Registry

def empty : Registry :=
  ⟨[], .nil⟩

instance : Inhabited Registry := ⟨empty⟩

/-- Puts a definition in the place of the one of the same type, or after all others. -/
def place (type : ElementType) (definition : Definition) :
    List (ElementType × Definition) → List (ElementType × Definition)
  | [] => [(type, definition)]
  | (other, old) :: entries =>
    if other = type then (type, definition) :: entries else (other, old) :: place type definition entries

theorem types_place (type : ElementType) (definition : Definition)
    (entries : List (ElementType × Definition)) :
    (place type definition entries).map (·.1)
      = if type ∈ entries.map (·.1) then entries.map (·.1) else entries.map (·.1) ++ [type] := by
  induction entries with
  | nil => rfl
  | cons entry entries ih =>
    obtain ⟨other, old⟩ := entry
    by_cases same : other = type
    · simp [place, same]
    · have differ : ¬ type = other := fun h => same h.symm
      simp only [place, same, if_false, List.map_cons, ih, List.mem_cons, differ, false_or]
      split <;> rfl

theorem distinct_place (type : ElementType) (definition : Definition)
    {entries : List (ElementType × Definition)} (distinct : (entries.map (·.1)).Nodup) :
    ((place type definition entries).map (·.1)).Nodup := by
  rw [types_place]
  split
  · exact distinct
  · rename_i absent
    refine List.nodup_append.mpr ⟨distinct, by simp, fun other member added addedMember => ?_⟩
    rw [List.mem_singleton.mp addedMember]
    exact fun equal => absent (equal ▸ member)

def insert (registry : Registry) (type : ElementType) (definition : Definition) : Registry :=
  ⟨place type definition registry.entries, distinct_place type definition registry.distinct⟩

def erase (registry : Registry) (type : ElementType) : Registry :=
  ⟨registry.entries.filter (·.1 ≠ type),
    registry.distinct.sublist (List.filter_sublist.map _)⟩

/-- The definition of a type; a type without one cannot be used for new elements. -/
def get? (registry : Registry) (type : ElementType) : Option Definition :=
  (registry.entries.find? (·.1 = type)).map (·.2)

/-- The definition of a type, or the error that there is none. -/
def get (registry : Registry) (type : ElementType) : Except EditError Definition :=
  (registry.get? type).elim (throw (.unknownType type.tag)) pure

def types (registry : Registry) : List ElementType :=
  registry.entries.map (·.1)

def size (registry : Registry) : Nat :=
  registry.entries.length

def isEmpty (registry : Registry) : Bool :=
  registry.entries.isEmpty

/-- Whether two registries define the same types alike, in whatever order. -/
def sameContent (left right : Registry) : Bool :=
  left.size == right.size && left.entries.all fun (type, definition) => right.get? type == some definition

end Registry

end FormEditor
