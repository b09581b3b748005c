/-! A number is an integer of 64 bits or a double: these are the two kinds that survive reading. The
members of an object are listed in the order in which they are written out. Documents list them in the
order of their declaration and free-form data sorted by name, so one type of value serves both. -/

namespace FormEditor

/-- An integer, signed or unsigned, of 64 bits, or else a double. -/
inductive Number where
  | integer (value : Int) (fits : -0x8000000000000000 ≤ value ∧ value < 0x10000000000000000)
  | double (value : Float)
  deriving DecidableEq

/-- The integers of a JSON text are those that 64 bits hold. -/
def Number.ofInt? (value : Int) : Option Number :=
  if fits : -0x8000000000000000 ≤ value ∧ value < 0x10000000000000000 then some (.integer value fits) else none

theorem Number.ofInt?_eq {value : Int} (fits : -0x8000000000000000 ≤ value ∧ value < 0x10000000000000000) :
    Number.ofInt? value = some (.integer value fits) :=
  dif_pos fits

/-- A 64-bit word as a number. -/
def Number.ofWord (word : UInt64) : Number :=
  .integer word.toNat (by have := word.toNat_lt; omega)

inductive Json where
  | null
  | bool (value : Bool)
  | number (value : Number)
  | string (text : String)
  | array (items : List Json)
  | object (members : List (String × Json))
  deriving Inhabited

namespace Json

mutual

/-- Equality of values is decided by comparing them part by part. -/
def decideEq : (left right : Json) → Decidable (left = right)
  | .null, .null => isTrue rfl
  | .bool left, .bool right =>
    if same : left = right then isTrue (congrArg _ same) else isFalse (fun h => same (Json.bool.inj h))
  | .number left, .number right =>
    if same : left = right then isTrue (congrArg _ same) else isFalse (fun h => same (Json.number.inj h))
  | .string left, .string right =>
    if same : left = right then isTrue (congrArg _ same) else isFalse (fun h => same (Json.string.inj h))
  | .array left, .array right =>
    match decideItems left right with
    | isTrue same => isTrue (congrArg _ same)
    | isFalse differ => isFalse (fun h => differ (Json.array.inj h))
  | .object left, .object right =>
    match decideMembers left right with
    | isTrue same => isTrue (congrArg _ same)
    | isFalse differ => isFalse (fun h => differ (Json.object.inj h))
  | .null, .bool _ | .null, .number _ | .null, .string _ | .null, .array _ | .null, .object _
  | .bool _, .null | .bool _, .number _ | .bool _, .string _ | .bool _, .array _ | .bool _, .object _
  | .number _, .null | .number _, .bool _ | .number _, .string _ | .number _, .array _ | .number _, .object _
  | .string _, .null | .string _, .bool _ | .string _, .number _ | .string _, .array _ | .string _, .object _
  | .array _, .null | .array _, .bool _ | .array _, .number _ | .array _, .string _ | .array _, .object _
  | .object _, .null | .object _, .bool _ | .object _, .number _ | .object _, .string _
  | .object _, .array _ => isFalse nofun

def decideItems : (left right : List Json) → Decidable (left = right)
  | [], [] => isTrue rfl
  | [], _ :: _ | _ :: _, [] => isFalse nofun
  | first :: left, second :: right =>
    match decideEq first second, decideItems left right with
    | isTrue head, isTrue tail => isTrue (by rw [head, tail])
    | isFalse differ, _ => isFalse (fun h => differ (List.cons.inj h).1)
    | _, isFalse differ => isFalse (fun h => differ (List.cons.inj h).2)

def decideMembers : (left right : List (String × Json)) → Decidable (left = right)
  | [], [] => isTrue rfl
  | [], _ :: _ | _ :: _, [] => isFalse nofun
  | (name, first) :: left, (other, second) :: right =>
    if names : name = other then
      match decideEq first second, decideMembers left right with
      | isTrue head, isTrue tail => isTrue (by rw [names, head, tail])
      | isFalse differ, _ => isFalse (fun h => differ (Prod.mk.inj (List.cons.inj h).1).2)
      | _, isFalse differ => isFalse (fun h => differ (List.cons.inj h).2)
    else isFalse (fun h => names (Prod.mk.inj (List.cons.inj h).1).1)

end

instance : DecidableEq Json := decideEq

/-- An object member that is written only when it has a value. -/
def optional (name : String) (write : α → Json) : Option α → List (String × Json)
  | none => []
  | some value => [(name, write value)]

end Json

end FormEditor
