import FormEditor.EditError
import FormEditor.Record.Basic

/-! The submitted records in the order of their submission, and the one that is selected. A new record gets the
id after the largest one. -/

namespace FormEditor

structure RecordStore where
  records : List Record
  selectedId : Option RecordId
  deriving DecidableEq

namespace RecordStore

def empty : RecordStore :=
  ⟨[], none⟩

/-- A store of given records, none of which is selected. -/
def ofList (records : List Record) : RecordStore :=
  ⟨records, none⟩

def ids (store : RecordStore) : List RecordId :=
  store.records.map (·.id)

/-- The first record with an id. -/
def get? (store : RecordStore) (id : RecordId) : Option Record :=
  store.records.find? (·.id = id)

def selected (store : RecordStore) : Option Record :=
  store.selectedId.bind store.get?

/-- The id of the next record. -/
def nextId (store : RecordStore) : RecordId :=
  match store.ids.max? with
  | some largest => largest + 1
  | none => 1

def insert (store : RecordStore) (fields : Dictionary Json) : RecordId × RecordStore :=
  (store.nextId, { store with records := store.records ++ [⟨store.nextId, fields⟩] })

/-- Gives the first record with an id other fields. -/
def replaceFields (id : RecordId) (fields : Dictionary Json) : List Record → List Record
  | [] => []
  | record :: records =>
    if record.id = id then { record with fields } :: records
    else record :: replaceFields id fields records

def update (store : RecordStore) (id : RecordId) (fields : Dictionary Json) :
    Except EditError RecordStore :=
  if (store.get? id).isSome then
    pure { store with records := replaceFields id fields store.records }
  else throw (.missingTarget .record id.text)

/-- Replaces the stored record that has the id of the given one. -/
def replace (store : RecordStore) (record : Record) : Except EditError RecordStore :=
  store.update record.id record.fields

/-- Removes the first record with an id, and the selection if it is that id. -/
def delete (store : RecordStore) (id : RecordId) : Option (Record × RecordStore) :=
  (store.get? id).map fun record =>
    (record, ⟨store.records.eraseP (·.id = id), if store.selectedId = some id then none else store.selectedId⟩)

def select (store : RecordStore) (id : RecordId) : Except EditError (Record × RecordStore) :=
  match store.get? id with
  | some record => pure (record, { store with selectedId := some id })
  | none => throw (.missingTarget .record id.text)

def clearSelection (store : RecordStore) : RecordStore :=
  { store with selectedId := none }

end RecordStore

end FormEditor
