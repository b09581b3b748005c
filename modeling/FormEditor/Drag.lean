import FormEditor.Dictionary
import FormEditor.Form.Fresh
import FormEditor.Text.Blank

/-! An element type is dragged from the palette to a drop zone, which lies before a row or at the end of a
section. A drop makes a new element of the type that its data names, or else of the type that is being
dragged, and ends the drag whatever comes of it. -/

namespace FormEditor

/-- The place before the row of an index, or after the last row. -/
structure DropZone where
  sectionId : String
  rowIndex : Nat
  deriving DecidableEq

namespace Form

def dropZones (form : Form) : List DropZone :=
  form.sections.flatMap fun part => (List.range (part.rows.length + 1)).map (DropZone.mk part.id)

end Form

/-- The data that goes with a drag, in named slots. -/
abbrev TransferData := Dictionary String

namespace TransferData

def typeSlot : String := "application/x-xforms-element-type"

/-- The slot for those who can only carry plain text. -/
def textSlot : String := "text/plain"

/-- The data of a type that is dragged from the palette. -/
def ofType (type : ElementType) : TransferData :=
  (Dictionary.empty.insert typeSlot type.tag).insert textSlot type.tag

/-- The tag of the dragged type: the first of the two slots that is not blank. -/
def elementTag? (data : TransferData) : Option String :=
  (([typeSlot, textSlot].filterMap data.get?).map Text.trim).find? (· ≠ "")

end TransferData

structure Drag where
  /-- The type that is being dragged. -/
  dragging : Option ElementType
  hovered : Option DropZone
  deriving DecidableEq

/-- What came of a drop. -/
inductive DropOutcome where
  | ignored
  | placed (elementId sectionId : String) (rowIndex : Nat)
  deriving DecidableEq

namespace Drag

def idle : Drag :=
  ⟨none, none⟩

def isDragging (drag : Drag) : Bool :=
  drag.dragging.isSome

def start (_drag : Drag) (type : ElementType) : Drag :=
  ⟨some type, none⟩

/-- A zone is only marked during a drag. -/
def hover (drag : Drag) (zone : DropZone) : Drag :=
  if drag.isDragging then { drag with hovered := some zone } else drag

def leave (drag : Drag) (zone : DropZone) : Drag :=
  if drag.hovered = some zone then { drag with hovered := none } else drag

/-- The type that a drop with some data makes an element of. -/
def dropType (drag : Drag) (data : TransferData) : Except EditError (Option ElementType) :=
  match TransferData.elementTag? data with
  | some tag => some <$> ElementType.ofName tag
  | none => pure drag.dragging

/-- Makes an element of a type in a row of its own at a zone. -/
def place (form : Form) (ids : IdSupply) (zone : DropZone) (type : ElementType) :
    Except EditError (DropOutcome × Form × IdSupply) := do
  let (element, ids) ← form.create ids type
  let (rowIndex, form, ids) ← form.insert ids zone.sectionId zone.rowIndex element
  pure (.placed element.id zone.sectionId rowIndex, form, ids)

/-- A drop on a zone. Without a type to drop, or on a section that is not there, it does nothing. -/
def drop (drag : Drag) (form : Form) (ids : IdSupply) (zone : DropZone) (data : TransferData) :
    Drag × Except EditError (DropOutcome × Form × IdSupply) :=
  (idle, do
    let some type ← drag.dropType data | pure (.ignored, form, ids)
    if (form.findSection zone.sectionId).isNone then pure (.ignored, form, ids)
    else place form ids zone type)

/-- A drop outside all zones is one on the end of the first section. -/
def dropOnCanvas (drag : Drag) (form : Form) (ids : IdSupply) (data : TransferData) :
    Drag × Except EditError (DropOutcome × Form × IdSupply) :=
  match form.sections with
  | [] => (idle, pure (.ignored, form, ids))
  | first :: _ => drag.drop form ids ⟨first.id, first.rows.length⟩ data

end Drag

end FormEditor
