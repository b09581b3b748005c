import FormEditor.Form.Basic

/-! The structural edits of a form. An edit that needs ids of its own takes them as arguments, so what it does
depends on nothing else. An edit that fails leaves no form behind. -/

namespace FormEditor

/-- What happens to the rest of a row when one of its elements is deleted. -/
inductive DeletePolicy where
  /-- The whole row goes. -/
  | wholeRow
  /-- Only the column goes, and the row with it if nothing is left in it. -/
  | columnOnly
  deriving DecidableEq

inductive MoveDirection where
  | up
  | down
  deriving DecidableEq

/-- Changes the first item that a partial change applies to. -/
def updateFirst? (change : α → Option α) : List α → Option (List α)
  | [] => none
  | item :: items =>
    match change item with
    | some changed => some (changed :: items)
    | none => (updateFirst? change items).map (item :: ·)

namespace Row

/-- Changes the elements of a row in place. -/
def mapElements (change : Element → Element) (row : Row) : Row :=
  { row with columns := row.columns.map fun column => { column with element := change column.element } }

def withoutElement (elementId : String) (row : Row) : Row :=
  { row with columns := row.columns.filter (·.element.id ≠ elementId) }

/-- Puts a copy of the first element with an id right after it, in a column of the same width. -/
def duplicateIn (elementId newId columnId : String) : List Column → Option (List Column)
  | [] => none
  | column :: columns =>
    if column.element.id = elementId then
      some (column :: ⟨columnId, column.width, column.element.withId newId⟩ :: columns)
    else (duplicateIn elementId newId columnId columns).map (column :: ·)

def duplicate? (elementId newId columnId : String) (row : Row) : Option Row :=
  (duplicateIn elementId newId columnId row.columns).map fun columns => { row with columns }

/-- Swaps the first row with an id and the row before it. -/
def raise? (rowId : String) : List Row → Option (List Row)
  | first :: second :: rows =>
    if first.id = rowId then none
    else if second.id = rowId then some (second :: first :: rows)
    else (raise? rowId (second :: rows)).map (first :: ·)
  | _ => none

/-- Swaps the first row with an id and the row after it. -/
def lower? (rowId : String) : List Row → Option (List Row)
  | first :: second :: rows =>
    if first.id = rowId then some (second :: first :: rows)
    else (lower? rowId (second :: rows)).map (first :: ·)
  | _ => none

end Row

namespace Section

def mapElements (change : Element → Element) (part : Section) : Section :=
  { part with rows := part.rows.map (Row.mapElements change) }

/-- The rows that are left when an element is deleted. -/
def deleteElement (policy : DeletePolicy) (elementId : String) (part : Section) : Section :=
  match policy with
  | .wholeRow => { part with rows := part.rows.filter (!·.holds elementId) }
  | .columnOnly =>
    { part with rows := (part.rows.map (Row.withoutElement elementId)).filter (!·.columns.isEmpty) }

/-- Where a row lands that is put in at an index: past the last row it is appended. -/
def landing (part : Section) (index : Nat) : Nat :=
  min index part.rows.length

def insertRow (index : Nat) (row : Row) (part : Section) : Section :=
  { part with rows := part.rows.insertIdx (part.landing index) row }

def holdsRow (rowId : String) (part : Section) : Bool :=
  part.rows.any (·.id = rowId)

def moveRow? (rowId : String) (direction : MoveDirection) (part : Section) : Option Section :=
  let moved :=
    match direction with
    | .up => Row.raise? rowId part.rows
    | .down => Row.lower? rowId part.rows
  moved.map fun rows => { part with rows }

/-- Moves a row in the first section that holds it, and says whether anything moved. -/
def moveRowIn (rowId : String) (direction : MoveDirection) : List Section → Option (Bool × List Section)
  | [] => none
  | part :: parts =>
    if part.holdsRow rowId then
      match part.moveRow? rowId direction with
      | some moved => some (true, moved :: parts)
      | none => some (false, part :: parts)
    else (moveRowIn rowId direction parts).map fun (moved, parts) => (moved, part :: parts)

end Section

namespace Form

def rename (form : Form) (name : String) : Form :=
  { form with config := { form.config with name } }

def withSections (form : Form) (sections : List Section) : Form :=
  { form with sections }

/-- A new element of a type that the registry defines. -/
def newElement (form : Form) (id : String) (type : ElementType) : Except EditError Element := do
  let definition ← form.registry.get type
  pure (.ofDefinition definition type id)

/-- Puts an element into a row of its own in the first section with an id, and returns where it landed. -/
def insertRow (form : Form) (sectionId : String) (index : Nat) (rowId columnId : String)
    (element : Element) : Except EditError (Nat × Form) := do
  let some part := form.findSection sectionId | throw (.missingTarget .formSection sectionId)
  let some sections := updateFirst?
      (fun part =>
        if part.id = sectionId then some (part.insertRow index (.single rowId columnId element)) else none)
      form.sections
    | throw (.missingTarget .formSection sectionId)
  pure (part.landing index, form.withSections sections)

/-- Deletes every element with an id, and returns how many rows went. -/
def deleteElement (form : Form) (policy : DeletePolicy) (elementId : String) : Nat × Form :=
  let rest := form.withSections (form.sections.map (Section.deleteElement policy elementId))
  (form.rows.length - rest.rows.length, rest)

/-- Puts a copy of the first element with an id beside it. -/
def duplicateElement (form : Form) (elementId newId columnId : String) : Except EditError Form :=
  let inRow : Row → Option Row := Row.duplicate? elementId newId columnId
  let inSection (part : Section) : Option Section :=
    (updateFirst? inRow part.rows).map fun rows => { part with rows }
  match updateFirst? inSection form.sections with
  | some sections => pure (form.withSections sections)
  | none => throw (.missingTarget .element elementId)

/-- Replaces every element that has the id of the given one. -/
def updateElement (form : Form) (element : Element) : Except EditError Form :=
  if (form.findElement element.id).isSome then
    pure (form.withSections (form.sections.map
      (.mapElements fun old => if old.id = element.id then element else old)))
  else throw (.missingTarget .element element.id)

/-- The element that another one becomes as a type that the registry defines. -/
def morph (form : Form) (element : Element) (type : ElementType) : Except EditError Element := do
  let definition ← form.registry.get type
  pure (element.morph definition type)

def morphElement (form : Form) (elementId : String) (type : ElementType) : Except EditError Form := do
  let some element := form.findElement elementId | throw (.missingTarget .element elementId)
  form.updateElement (← form.morph element type)

/-- Swaps a row with its neighbour, and says whether it had one on that side. -/
def moveRow (form : Form) (rowId : String) (direction : MoveDirection) : Except EditError (Bool × Form) :=
  match Section.moveRowIn rowId direction form.sections with
  | some (moved, sections) => pure (moved, form.withSections sections)
  | none => throw (.missingTarget .row rowId)

end Form

end FormEditor
