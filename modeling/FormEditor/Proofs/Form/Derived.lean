import FormEditor.Proofs.Form.Sound

/-! Forms that come about by reading and editing. Each edit moves, drops, copies or replaces parts of a
form that was sound, and what it adds is sound, so every form that is derived in this way is sound. -/

namespace FormEditor

variable {α : Type}

/-- What the first item that a change applies to becomes, and all others stay. -/
theorem exists_of_updateFirst? {change : α → Option α} {items : List α} :
    ∀ {updated : List α}, updateFirst? change items = some updated →
      ∃ before item changed after, items = before ++ item :: after ∧ change item = some changed ∧
        updated = before ++ changed :: after := by
  induction items with
  | nil => nofun
  | cons item items ih =>
      intro updated hupdated
      unfold updateFirst? at hupdated
      split at hupdated
      · rename_i changed hchanged
        cases hupdated
        exact ⟨[], item, changed, items, rfl, hchanged, rfl⟩
      · obtain ⟨others, hrest, rfl⟩ := Option.map_eq_some_iff.mp hupdated
        obtain ⟨before, old, changed, after, rfl, hchanged, rfl⟩ := ih hrest
        exact ⟨item :: before, old, changed, after, rfl, hchanged, rfl⟩

/-- A change that applies to no item before the given one applies to that one. -/
theorem updateFirst?_append {change : α → Option α} {before after : List α} {item changed : α}
    (hbefore : ∀ other ∈ before, change other = none) (hitem : change item = some changed) :
    updateFirst? change (before ++ item :: after) = some (before ++ changed :: after) := by
  induction before with
  | nil => rw [List.nil_append, List.nil_append, updateFirst?, hitem]
  | cons other before ih =>
      obtain ⟨hother, hbefore⟩ := List.forall_mem_cons.mp hbefore
      rw [List.cons_append, List.cons_append, updateFirst?, hother, ih hbefore]
      rfl

theorem isSome_updateFirst?_iff {change : α → Option α} {items : List α} :
    (updateFirst? change items).isSome ↔ ∃ item ∈ items, (change item).isSome := by
  induction items with
  | nil => simp [updateFirst?]
  | cons item items ih =>
      cases hchange : change item with
      | none => simp [updateFirst?, hchange, ih]
      | some changed => simp [updateFirst?, hchange]

/-- A partial change that keeps a property of the item it applies to keeps it of the whole list. -/
theorem forall_mem_updateFirst? {change : α → Option α} {holds : α → Prop}
    (hchange : ∀ item changed, change item = some changed → holds item → holds changed) {items updated : List α}
    (hupdated : updateFirst? change items = some updated) (hitems : ∀ item ∈ items, holds item) :
    ∀ item ∈ updated, holds item := by
  obtain ⟨before, item, changed, after, rfl, hchanged, rfl⟩ := exists_of_updateFirst? hupdated
  obtain ⟨hbefore, hrest⟩ := List.forall_mem_append.mp hitems
  obtain ⟨hitem, hafter⟩ := List.forall_mem_cons.mp hrest
  refine List.forall_mem_append.mpr ⟨hbefore, List.forall_mem_cons.mpr ⟨?_, hafter⟩⟩
  exact hchange item changed hchanged hitem

namespace Row

theorem isSound_single (rowId columnId : String) {element : Element} (helement : element.IsOfItsKind) :
    (single rowId columnId element).IsSound := by
  refine ⟨?_, nofun⟩
  intro column hcolumn
  rw [List.mem_singleton.mp hcolumn]
  exact helement

theorem IsSound.mapElements {row : Row} (hrow : row.IsSound) {change : Element → Element}
    (hchange : ∀ element, element.IsOfItsKind → (change element).IsOfItsKind) :
    (row.mapElements change).IsSound := by
  refine ⟨?_, hrow.condition⟩
  intro column hcolumn
  obtain ⟨old, hold, rfl⟩ := List.mem_map.mp hcolumn
  exact hchange old.element (hrow.elements old hold)

theorem IsSound.withoutElement {row : Row} (hrow : row.IsSound) (elementId : String) :
    (row.withoutElement elementId).IsSound :=
  ⟨fun column hcolumn => hrow.elements column (List.mem_filter.mp hcolumn).1, hrow.condition⟩

/-- A copy comes into a row that has all its columns otherwise. -/
theorem exists_of_duplicateIn {elementId newId columnId : String} {columns : List Column} :
    ∀ {copied : List Column}, duplicateIn elementId newId columnId columns = some copied →
      ∃ column ∈ columns,
        copied.Perm (⟨columnId, column.width, column.element.withId newId⟩ :: columns) := by
  induction columns with
  | nil => nofun
  | cons column columns ih =>
      intro copied hcopied
      unfold duplicateIn at hcopied
      split at hcopied
      · cases hcopied
        exact ⟨column, List.mem_cons_self, List.Perm.swap _ _ _⟩
      · obtain ⟨others, hrest, rfl⟩ := Option.map_eq_some_iff.mp hcopied
        obtain ⟨original, hmem, hperm⟩ := ih hrest
        exact ⟨original, List.mem_cons_of_mem _ hmem, (hperm.cons column).trans (List.Perm.swap _ _ _)⟩

theorem IsSound.duplicate {row copied : Row} (hrow : row.IsSound) {elementId newId columnId : String}
    (hcopied : row.duplicate? elementId newId columnId = some copied) : copied.IsSound := by
  obtain ⟨columns, hcolumns, rfl⟩ := Option.map_eq_some_iff.mp hcopied
  obtain ⟨original, hmem, hperm⟩ := exists_of_duplicateIn hcolumns
  refine ⟨?_, hrow.condition⟩
  intro column hcolumn
  rcases List.mem_cons.mp (hperm.subset hcolumn) with rfl | hold
  · exact Element.isOfItsKind_withId.mpr (hrow.elements original hmem)
  · exact hrow.elements column hold

/-- A row that moves up changes places with another one. -/
theorem perm_raise? {rowId : String} {rows : List Row} :
    ∀ {moved : List Row}, raise? rowId rows = some moved → moved.Perm rows := by
  induction rows with
  | nil => nofun
  | cons first rows ih =>
      intro moved hmoved
      cases rows with
      | nil => cases hmoved
      | cons second rows =>
          unfold raise? at hmoved
          split at hmoved
          · cases hmoved
          · split at hmoved
            · cases hmoved
              exact List.Perm.swap first second rows
            · obtain ⟨rest, hrest, rfl⟩ := Option.map_eq_some_iff.mp hmoved
              exact (ih hrest).cons first

theorem perm_lower? {rowId : String} {rows : List Row} :
    ∀ {moved : List Row}, lower? rowId rows = some moved → moved.Perm rows := by
  induction rows with
  | nil => nofun
  | cons first rows ih =>
      intro moved hmoved
      cases rows with
      | nil => cases hmoved
      | cons second rows =>
          unfold lower? at hmoved
          split at hmoved
          · cases hmoved
            exact List.Perm.swap first second rows
          · obtain ⟨rest, hrest, rfl⟩ := Option.map_eq_some_iff.mp hmoved
            exact (ih hrest).cons first

end Row

namespace Section

theorem IsSound.mapElements {part : Section} (hpart : part.IsSound) {change : Element → Element}
    (hchange : ∀ element, element.IsOfItsKind → (change element).IsOfItsKind) :
    (part.mapElements change).IsSound := by
  intro row hrow
  obtain ⟨old, hold, rfl⟩ := List.mem_map.mp hrow
  exact (hpart old hold).mapElements hchange

theorem IsSound.deleteElement {part : Section} (hpart : part.IsSound) (policy : DeletePolicy)
    (elementId : String) : (part.deleteElement policy elementId).IsSound := by
  intro row hrow
  cases policy with
  | wholeRow => exact hpart row (List.mem_filter.mp hrow).1
  | columnOnly =>
      obtain ⟨old, hold, rfl⟩ := List.mem_map.mp (List.mem_filter.mp hrow).1
      exact (hpart old hold).withoutElement elementId

theorem IsSound.insertRow {part : Section} (hpart : part.IsSound) (index : Nat) {row : Row}
    (hrow : row.IsSound) : (part.insertRow index row).IsSound := by
  intro other hother
  have hlanding : part.landing index ≤ part.rows.length := Nat.min_le_right _ _
  rcases (List.mem_insertIdx hlanding).mp hother with hsame | hold
  · exact hsame ▸ hrow
  · exact hpart other hold

/-- A section has the same rows in another order. -/
structure Reorders (part moved : Section) : Prop where
  id : moved.id = part.id
  title : moved.title = part.title
  rows : moved.rows.Perm part.rows

theorem Reorders.refl (part : Section) : part.Reorders part :=
  ⟨rfl, rfl, List.Perm.refl _⟩

theorem Reorders.trans {part moved last : Section} (hmoved : part.Reorders moved) (hlast : moved.Reorders last) :
    part.Reorders last :=
  ⟨hlast.id.trans hmoved.id, hlast.title.trans hmoved.title, hlast.rows.trans hmoved.rows⟩

theorem IsSound.of_reorders {part moved : Section} (hpart : part.IsSound) (hreorders : part.Reorders moved) :
    moved.IsSound :=
  fun row hrow => hpart row (hreorders.rows.mem_iff.mp hrow)

theorem reorders_moveRow? {part moved : Section} {rowId : String} {direction : MoveDirection}
    (hmoved : part.moveRow? rowId direction = some moved) : part.Reorders moved := by
  cases direction with
  | up =>
      obtain ⟨rows, hrows, rfl⟩ := Option.map_eq_some_iff.mp hmoved
      exact ⟨rfl, rfl, Row.perm_raise? hrows⟩
  | down =>
      obtain ⟨rows, hrows, rfl⟩ := Option.map_eq_some_iff.mp hmoved
      exact ⟨rfl, rfl, Row.perm_lower? hrows⟩

/-- Where a row is told to move, one section is reordered if it does, and all others stay. -/
theorem exists_of_moveRowIn {rowId : String} {direction : MoveDirection} {parts : List Section} :
    ∀ {moved : Bool × List Section}, moveRowIn rowId direction parts = some moved →
      ∃ before part changed after, parts = before ++ part :: after ∧ part.Reorders changed ∧
        (moved.1 = false → changed = part) ∧ moved.2 = before ++ changed :: after := by
  induction parts with
  | nil => nofun
  | cons part parts ih =>
      intro moved hmoved
      unfold moveRowIn at hmoved
      split at hmoved
      · split at hmoved
        · rename_i changed hchanged
          cases hmoved
          exact ⟨[], part, changed, parts, rfl, reorders_moveRow? hchanged, nofun, rfl⟩
        · cases hmoved
          exact ⟨[], part, part, parts, rfl, .refl part, fun _ => rfl, rfl⟩
      · obtain ⟨⟨_, others⟩, hrest, rfl⟩ := Option.map_eq_some_iff.mp hmoved
        obtain ⟨before, old, changed, after, rfl, hreorders, hsame, rfl⟩ := ih hrest
        exact ⟨part :: before, old, changed, after, rfl, hreorders, hsame, rfl⟩

end Section

namespace Form

variable {form next : Form}

theorem isOfItsKind_of_create {ids rest : IdSupply} {type : ElementType} {element : Element}
    (hcreated : form.create ids type = .ok (element, rest)) : element.IsOfItsKind := by
  obtain ⟨made, hmade, hcreated⟩ := eq_ok_of_bind hcreated
  cases hcreated
  obtain ⟨definition, -, hmade⟩ := eq_ok_of_bind hmade
  cases hmade
  exact Element.isOfItsKind_ofDefinition definition type _

theorem IsSound.insertRow (hform : form.IsSound) {sectionId rowId columnId : String} {index landed : Nat}
    {element : Element} (helement : element.IsOfItsKind)
    (hinserted : form.insertRow sectionId index rowId columnId element = .ok (landed, next)) :
    next.IsSound := by
  unfold Form.insertRow at hinserted
  split at hinserted
  · split at hinserted
    · rename_i hsections
      cases hinserted
      refine ⟨hform.registry, forall_mem_updateFirst? ?_ hsections hform.sections⟩
      intro part changed hchanged hpart
      split at hchanged
      · cases hchanged
        exact hpart.insertRow index (Row.isSound_single rowId columnId helement)
      · cases hchanged
    · cases hinserted
  · cases hinserted

theorem IsSound.insert (hform : form.IsSound) {ids rest : IdSupply} {sectionId : String}
    {index landed : Nat} {element : Element} (helement : element.IsOfItsKind)
    (hinserted : form.insert ids sectionId index element = .ok (landed, next, rest)) : next.IsSound := by
  obtain ⟨⟨rowIndex, grown⟩, hrow, hinserted⟩ := eq_ok_of_bind hinserted
  cases hinserted
  exact hform.insertRow helement hrow

theorem IsSound.deleteElement (hform : form.IsSound) (policy : DeletePolicy) (elementId : String) :
    (form.deleteElement policy elementId).2.IsSound := by
  refine ⟨hform.registry, ?_⟩
  intro part hpart
  obtain ⟨old, hold, rfl⟩ := List.mem_map.mp hpart
  exact (hform.sections old hold).deleteElement policy elementId

theorem IsSound.duplicateElement (hform : form.IsSound) {elementId newId columnId : String}
    (hcopied : form.duplicateElement elementId newId columnId = .ok next) : next.IsSound := by
  unfold Form.duplicateElement at hcopied
  simp only at hcopied
  split at hcopied
  · rename_i hsections
    cases hcopied
    refine ⟨hform.registry, forall_mem_updateFirst? ?_ hsections hform.sections⟩
    intro part changed hchanged hpart
    obtain ⟨rows, hrows, rfl⟩ := Option.map_eq_some_iff.mp hchanged
    exact forall_mem_updateFirst? (fun _ _ hcopy hrow => hrow.duplicate hcopy) hrows hpart
  · cases hcopied

theorem IsSound.duplicate (hform : form.IsSound) {ids rest : IdSupply} {elementId newId : String}
    (hcopied : form.duplicate ids elementId = .ok (newId, next, rest)) : next.IsSound := by
  unfold Form.duplicate at hcopied
  split at hcopied
  · obtain ⟨copied, hcopy, hcopied⟩ := eq_ok_of_bind hcopied
    cases hcopied
    exact hform.duplicateElement hcopy
  · cases hcopied

theorem IsSound.updateElement (hform : form.IsSound) {element : Element} (helement : element.IsOfItsKind)
    (hupdated : form.updateElement element = .ok next) : next.IsSound := by
  unfold Form.updateElement at hupdated
  split at hupdated
  · cases hupdated
    refine ⟨hform.registry, ?_⟩
    intro part hpart
    obtain ⟨old, hold, rfl⟩ := List.mem_map.mp hpart
    refine (hform.sections old hold).mapElements ?_
    intro other hother
    split
    · exact helement
    · exact hother
  · cases hupdated

theorem IsSound.morphElement (hform : form.IsSound) {elementId : String} {type : ElementType}
    (hmorphed : form.morphElement elementId type = .ok next) : next.IsSound := by
  unfold Form.morphElement at hmorphed
  split at hmorphed
  · obtain ⟨morphed, hmorph, hupdated⟩ := eq_ok_of_bind hmorphed
    obtain ⟨definition, -, hmorph⟩ := eq_ok_of_bind hmorph
    cases hmorph
    exact hform.updateElement (Element.isOfItsKind_morph _ definition type) hupdated
  · cases hmorphed

theorem IsSound.moveRow (hform : form.IsSound) {rowId : String} {direction : MoveDirection} {moved : Bool}
    (hmoved : form.moveRow rowId direction = .ok (moved, next)) : next.IsSound := by
  unfold Form.moveRow at hmoved
  split at hmoved
  · rename_i hsections
    cases hmoved
    obtain ⟨before, part, changed, after, hold, hreorders, -, rfl⟩ := Section.exists_of_moveRowIn hsections
    obtain ⟨hbefore, hrest⟩ := List.forall_mem_append.mp (hold ▸ hform.sections)
    obtain ⟨hpart, hafter⟩ := List.forall_mem_cons.mp hrest
    refine ⟨hform.registry, List.forall_mem_append.mpr ⟨hbefore, List.forall_mem_cons.mpr ⟨?_, hafter⟩⟩⟩
    exact hpart.of_reorders hreorders
  · cases hmoved

/-- Forms that are new or were read, and what becomes of them by any sequence of edits. An element that
is put in may have been made by any form. -/
inductive Derived : Form → Prop where
  | blank (uid : String) : Derived (blank uid)
  | read {text : String} {form : Form} (hread : ofText text = .ok form) : Derived form
  | insert {form maker next : Form} {ids made used rest : IdSupply} {type : ElementType}
      {element : Element} {sectionId : String} {index landed : Nat} (hform : Derived form)
      (hcreated : maker.create ids type = .ok (element, made))
      (hinserted : form.insert used sectionId index element = .ok (landed, next, rest)) : Derived next
  | delete {form : Form} (policy : DeletePolicy) (elementId : String) (hform : Derived form) :
      Derived (form.deleteElement policy elementId).2
  | duplicate {form next : Form} {ids rest : IdSupply} {elementId newId : String} (hform : Derived form)
      (hcopied : form.duplicate ids elementId = .ok (newId, next, rest)) : Derived next
  | update {form next : Form} {element : Element} (hform : Derived form)
      (helement : element.IsOfItsKind) (hupdated : form.updateElement element = .ok next) : Derived next
  | morph {form next : Form} {elementId : String} {type : ElementType} (hform : Derived form)
      (hmorphed : form.morphElement elementId type = .ok next) : Derived next
  | moveRow {form next : Form} {rowId : String} {direction : MoveDirection} {moved : Bool}
      (hform : Derived form) (hmoved : form.moveRow rowId direction = .ok (moved, next)) : Derived next
  | rename {form : Form} (name : String) (hform : Derived form) : Derived (form.rename name)

theorem Derived.isSound (hderived : form.Derived) : form.IsSound := by
  induction hderived with
  | blank uid => exact isSound_blank uid
  | read hread => exact isSound_of_ofText hread
  | insert _ hcreated hinserted ih => exact ih.insert (isOfItsKind_of_create hcreated) hinserted
  | delete policy elementId _ ih => exact ih.deleteElement policy elementId
  | duplicate _ hcopied ih => exact ih.duplicate hcopied
  | update _ helement hupdated ih => exact ih.updateElement helement hupdated
  | morph _ hmorphed ih => exact ih.morphElement hmorphed
  | moveRow _ hmoved ih => exact ih.moveRow hmoved
  | rename name _ ih => exact ⟨ih.registry, ih.sections⟩

end Form

end FormEditor
