import FormEditor.Json.Printer
import FormEditor.Json.Shape

/-! A record is what one submission of a form left: an id and the values of the fields. Its text is an object
with the id first and the values after it, sorted by name. In the text the name `id` is taken, so a record
that was read has no value of that name. -/

namespace FormEditor

open Json (Decoder)

abbrev RecordId := UInt64

def RecordId.text (id : RecordId) : String :=
  Decimal.string id.toNat

structure Record where
  id : RecordId
  fields : Dictionary Json
  deriving DecidableEq

namespace Record

def toJson (record : Record) : Json :=
  .object (("id", .number (.ofWord record.id)) :: record.fields.entries)

/-- A record on one line. -/
def summary (record : Record) : String :=
  record.toJson.compact

/-- The text of a record, over several lines. -/
def text (record : Record) : String :=
  record.toJson.pretty

/-- Reads the members of a record that stands inside the given number of containers. -/
def ofMembers (outer : Nat) (closed : Bool) (id : Option RecordId) (fields : Dictionary Json) :
    List (Option String × Json.Node) → Except Fault Record
  | [] =>
    if closed then id.elim (throw (.missingField "id")) (fun id => pure ⟨id, fields⟩)
    else throw .malformed
  | (key, node) :: members => do
    let some name := key | throw .malformed
    if name = "id" then
      if id.isSome then throw (.duplicateField "id")
      else ofMembers outer closed (some (← Json.Node.word node)) fields members
    else ofMembers outer closed id (fields.insert name (← Json.Node.json (outer + 1) node)) members

def decoder (outer : Nat) : Decoder Record
  | .object members closed => ofMembers outer closed none .empty members
  | _ => throw .malformed

def ofText (text : String) : Except Fault Record :=
  Json.decodeText (decoder 0) text

/-- The records of an array. -/
def listOfText (text : String) : Except Fault (List Record) :=
  Json.decodeText (Json.Node.list (decoder 1)) text

def listText (records : List Record) : String :=
  (Json.array (records.map toJson)).pretty

end Record

end FormEditor
