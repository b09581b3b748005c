import FormEditor.Dictionary
import FormEditor.Json.Fault
import FormEditor.Json.Node

/-! A decoder takes a node for a value of a type or says why it does not. The shape of a structure is described
once, field by field, and serves two spellings: an object with the fields as members, in any order and
among members of other names, or an array with the fields as items in the order of their declaration. Of
several faults in an object the one that stands first in the text is reported, and a field that is missing
comes after all of them. -/

namespace FormEditor.Json

abbrev Decoder (α : Type) := Node → Except Fault α

/-- The value that a whole text holds. What follows the value counts only once the value is read. -/
def decodeText (decoder : Decoder α) (text : String) : Except Fault α := do
  let (root, whole) := Node.read text
  let value ← decoder root
  if whole then pure value else throw .malformed

namespace Node

def text : Decoder String
  | .string (some text) => pure text
  | _ => throw .malformed

/-- An unsigned integer of 64 bits, spelled without a sign, a fraction or an exponent. -/
def word : Decoder UInt64
  | .number numeral =>
    match numeral.number? with
    | some (.integer value _) => if 0 ≤ value then pure (UInt64.ofNat value.natAbs) else throw .malformed
    | _ => throw .malformed
  | _ => throw .malformed

def nullable (decoder : Decoder α) : Decoder (Option α)
  | .null => pure none
  | node => some <$> decoder node

/-- The items of an array. -/
def list (decoder : Decoder α) : Decoder (List α)
  | .array items closed => do
    let values ← items.mapM decoder
    if closed then pure values else throw .malformed
  | _ => throw .malformed

/-- A variant of an enumeration: its tag, or an object with its tag as the only member and no value. -/
def variant (ofTag? : String → Option α) : Decoder α
  | .string (some tag) => (ofTag? tag).elim (throw (.unknownVariant tag)) pure
  | .object ((some tag, value) :: members) closed =>
    match ofTag? tag, value, members, closed with
    | none, _, _, _ => throw (.unknownVariant tag)
    | some variant, .null, [], true => pure variant
    | _, _, _, _ => throw .malformed
  | _ => throw .malformed

mutual

/-- A free-form value. Containers may be nested as deep as there is room for them. -/
def json? (room : Nat) : Node → Option Json
  | .null => some .null
  | .bool value => some (.bool value)
  | .number numeral => numeral.number?.map .number
  | .string text => text.map .string
  | .array items closed =>
    match room with
    | 0 => none
    | room + 1 => if closed then (jsonItems? room items).map .array else none
  | .object members closed =>
    match room with
    | 0 => none
    | room + 1 =>
      if closed then (jsonMembers? room members).map fun members => .object (Dictionary.ofList members).entries
      else none
  | .fault => none

def jsonItems? (room : Nat) : List Node → Option (List Json)
  | [] => some []
  | item :: items =>
    match json? room item with
    | none => none
    | some item => (jsonItems? room items).map (item :: ·)

def jsonMembers? (room : Nat) : List (Option String × Node) → Option (List (String × Json))
  | [] => some []
  | (key, value) :: members =>
    match key, json? room value with
    | some key, some value => (jsonMembers? room members).map ((key, value) :: ·)
    | _, _ => none

end

/-- How many containers may stand inside one another in a text. -/
def maxDepth : Nat := 127

/-- A free-form value that stands inside the given number of containers. -/
def json (outer : Nat) : Decoder Json := fun node =>
  (json? (maxDepth - outer) node).elim (throw .malformed) pure

/-- The members of a free-form object that stands inside the given number of containers. -/
def dictionary (outer : Nat) : Decoder (Dictionary Json)
  | .object members closed =>
    if closed ∧ outer < maxDepth then
      (jsonMembers? (maxDepth - outer - 1) members).elim (throw .malformed) (pure ∘ Dictionary.ofList)
    else throw .malformed
  | _ => throw .malformed

end Node

/-- A fault and its place in an object: the number of members before it. -/
structure Located where
  place : Nat
  fault : Fault

/-- The nodes of the members of one name, with their places. -/
def occurrences (name : String) (place : Nat) : List (Option String × Node) → List (Nat × Node)
  | [] => []
  | (key, node) :: members =>
    if key = some name then (place, node) :: occurrences name (place + 1) members
    else occurrences name (place + 1) members

structure Field (α : Type) where
  name : String
  decoder : Decoder α
  /-- What an object without the member means. -/
  absent : Option α
  /-- What an array that ends before the item means. -/
  short : Option α

namespace Field

def required (name : String) (decoder : Decoder α) : Field α :=
  ⟨name, decoder, none, none⟩

/-- A member that may be left out of an object. -/
def optional (name : String) (decoder : Decoder α) : Field (Option α) :=
  ⟨name, Node.nullable decoder, some none, none⟩

/-- A member that has a default in both spellings. -/
def defaulted (name : String) (decoder : Decoder α) (value : α) : Field α :=
  ⟨name, decoder, some value, some value⟩

def omissible (name : String) (decoder : Decoder α) : Field (Option α) :=
  defaulted name (Node.nullable decoder) none

def ofMembers (field : Field α) (members : List (Option String × Node)) : Except Located α :=
  match occurrences field.name 0 members with
  | [] =>
    match field.absent with
    | some value => pure value
    | none => throw ⟨members.length + 1, .missingField field.name⟩
  | (place, node) :: again =>
    match field.decoder node, again with
    | .error fault, _ => throw ⟨place, fault⟩
    | .ok value, [] => pure value
    | .ok _, (second, _) :: _ => throw ⟨second, .duplicateField field.name⟩

def ofItems (field : Field α) (closed : Bool) : List Node → Except Fault (α × List Node)
  | node :: items => do pure (← field.decoder node, items)
  | [] =>
    match field.short, closed with
    | some value, true => pure (value, [])
    | _, _ => throw .malformed

end Field

/-- The fields of a structure and what they make. -/
structure Shape (α : Type) where
  names : List String
  ofMembers : List (Option String × Node) → Except Located α
  ofItems : Bool → List Node → Except Fault (α × List Node)

namespace Shape

/-- The structure without fields. -/
def make (value : α) : Shape α :=
  ⟨[], fun _ => pure value, fun _ items => pure (value, items)⟩

/-- The earlier of two faults. -/
def earliest (first second : Located) : Located :=
  if second.place < first.place then second else first

/-- One more field. -/
def field (shape : Shape (α → β)) (field : Field α) : Shape β where
  names := shape.names ++ [field.name]
  ofMembers members :=
    match shape.ofMembers members, field.ofMembers members with
    | .ok make, .ok value => pure (make value)
    | .error first, .error second => throw (earliest first second)
    | .error first, .ok _ => throw first
    | .ok _, .error second => throw second
  ofItems closed items := do
    let (make, items) ← shape.ofItems closed items
    let (value, items) ← field.ofItems closed items
    pure (make value, items)

/-- The place of the first member that no field takes and that is not sound: its name cannot be told or
its value breaks off. An object that is not closed breaks off after its members. -/
def stray? (names : List String) (closed : Bool) (place : Nat) :
    List (Option String × Node) → Option Nat
  | [] => if closed then none else some place
  | (key, node) :: members =>
    match key with
    | none => some place
    | some key =>
      if names.contains key || node.intact then stray? names closed (place + 1) members
      else some place

def decode (shape : Shape α) : Decoder α
  | .object members closed =>
    match shape.ofMembers members, stray? shape.names closed 0 members with
    | .ok value, none => pure value
    | .ok _, some _ => throw .malformed
    | .error located, none => throw located.fault
    | .error located, some place => throw (earliest located ⟨place, .malformed⟩).fault
  | .array items closed => do
    let (value, rest) ← shape.ofItems closed items
    if closed && rest.isEmpty then pure value else throw .malformed
  | _ => throw .malformed

end Shape

end FormEditor.Json
