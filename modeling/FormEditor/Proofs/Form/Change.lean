import FormEditor.Proofs.Form.Parts

/-! What one edit does to a form. Its new parts have ids that the supply has just made, so an edit of a form
whose ids are distinct leaves them distinct as long as the supply makes none that is in use. The elements
that an edit brings in are made, copied or changed from others, or saved from a draft; all of them are of
the kind of their type. -/

namespace FormEditor

/-! ### Ids that are made -/

/-- What a supply makes on the way to another one: ids of its own numbers, each once. -/
structure IdSupply.Makes (supply : IdSupply) (made : List String) (rest : IdSupply) : Prop where
  advances : supply.next ≤ rest.next
  distinct : made.Nodup
  numbered : ∀ id ∈ made, ∃ kind number, id = IdSupply.id kind number ∧ supply.next ≤ number ∧ number < rest.next

/-- None of the ids that a supply can still make is in use. -/
def IdSupply.IsFreshFor (supply : IdSupply) (form : Form) : Prop :=
  ∀ kind number, supply.next ≤ number → IdSupply.id kind number ∉ form.ids

namespace IdSupply

variable {supply rest : IdSupply} {made : List String}

theorem lt_length_id (kind : String) (number : Nat) : 32 < (IdSupply.id kind number).length := by
  simp only [IdSupply.id, paddedHex, String.length_ofList, List.length_append, List.length_cons,
    List.length_replicate]
  omega

/-- Short ids are never made. -/
theorem isFreshFor_of_length_le {form : Form} (hshort : ∀ id ∈ form.ids, id.length ≤ 32) (supply : IdSupply) :
    supply.IsFreshFor form :=
  fun kind number _ hmem => Nat.not_lt_of_le (hshort _ hmem) (lt_length_id kind number)

theorem makes_nothing (supply : IdSupply) : supply.Makes [] supply :=
  ⟨Nat.le_refl _, List.nodup_nil, nofun⟩

/-- The next id has a number that none of those before has. -/
theorem Makes.take (hmakes : supply.Makes made rest) (kind : String) :
    supply.Makes ((rest.take kind).1 :: made) (rest.take kind).2 := by
  have hrest : rest.next < (rest.take kind).2.next := Nat.lt_succ_self rest.next
  refine ⟨Nat.le_trans hmakes.advances (Nat.le_of_lt hrest), List.nodup_cons.mpr ⟨?_, hmakes.distinct⟩, ?_⟩
  · intro hmem
    obtain ⟨other, number, hsame, -, hbefore⟩ := hmakes.numbered _ hmem
    exact Nat.ne_of_lt hbefore (id_injective hsame).symm
  · refine List.forall_mem_cons.mpr ⟨⟨kind, rest.next, rfl, hmakes.advances, hrest⟩, ?_⟩
    intro id hmem
    obtain ⟨other, number, hid, hafter, hbefore⟩ := hmakes.numbered id hmem
    exact ⟨other, number, hid, hafter, Nat.lt_trans hbefore hrest⟩

/-- A form with distinct ids that takes in new ones keeps them distinct, and the supply stays fresh for it. -/
theorem Makes.distinct_of_subperm (hmakes : supply.Makes made rest) {form next : Form}
    (hsubperm : next.ids.Subperm (made ++ form.ids)) (hdistinct : form.ids.Nodup)
    (hfresh : supply.IsFreshFor form) : next.ids.Nodup ∧ rest.IsFreshFor next := by
  refine ⟨?_, ?_⟩
  · have hboth : (made ++ form.ids).Nodup := by
      refine List.nodup_append.mpr ⟨hmakes.distinct, hdistinct, ?_⟩
      rintro id hmade other hold rfl
      obtain ⟨kind, number, rfl, hafter, -⟩ := hmakes.numbered id hmade
      exact hfresh kind number hafter hold
    obtain ⟨ids, hperm, hsublist⟩ := hsubperm
    exact hperm.nodup_iff.mp (hboth.sublist hsublist)
  · intro kind number hnumber hmem
    rcases List.mem_append.mp (hsubperm.subset hmem) with hmade | hold
    · obtain ⟨other, made, hsame, -, hbefore⟩ := hmakes.numbered _ hmade
      exact Nat.ne_of_lt (Nat.lt_of_lt_of_le hbefore hnumber) (id_injective hsame).symm
    · exact hfresh kind number (Nat.le_trans hmakes.advances hnumber) hold

end IdSupply

namespace Form

/-- One edit of a form that takes its ids from a supply. A draft that is saved takes the place of the elements
of its id. -/
inductive Change (form : Form) (supply : IdSupply) (draft : Option Element) : Form → IdSupply → Prop where
  | keep : Change form supply draft form supply
  | insert {next : Form} {made rest : IdSupply} {type : ElementType} {element : Element} {sectionId : String}
      {index landed : Nat} (hcreated : form.create supply type = .ok (element, made))
      (hinserted : form.insert made sectionId index element = .ok (landed, next, rest)) :
      Change form supply draft next rest
  | delete (policy : DeletePolicy) (elementId : String) :
      Change form supply draft (form.deleteElement policy elementId).2 supply
  | duplicate {next : Form} {rest : IdSupply} {elementId newId : String}
      (hcopied : form.duplicate supply elementId = .ok (newId, next, rest)) :
      Change form supply draft next rest
  | save {next : Form} {element : Element} (hdraft : draft = some element)
      (hupdated : form.updateElement element = .ok next) : Change form supply draft next supply
  | morph {next : Form} {elementId : String} {type : ElementType}
      (hmorphed : form.morphElement elementId type = .ok next) : Change form supply draft next supply
  | moveRow {next : Form} {rowId : String} {direction : MoveDirection} {moved : Bool}
      (hmoved : form.moveRow rowId direction = .ok (moved, next)) : Change form supply draft next supply
  | rename (name : String) : Change form supply draft (form.rename name) supply

variable {form next : Form} {supply rest : IdSupply}

/-! ### Edits that make something new -/

theorem create_eq_ok {type : ElementType} {element : Element}
    (hcreated : form.create supply type = .ok (element, rest)) :
    element.id = (supply.take type.tag).1 ∧ rest = (supply.take type.tag).2 := by
  obtain ⟨made, hmade, hcreated⟩ := eq_ok_of_bind hcreated
  cases hcreated
  obtain ⟨definition, -, hmade⟩ := eq_ok_of_bind hmade
  cases hmade
  exact ⟨Element.id_ofDefinition _ _ _, rfl⟩

theorem growsBy_insert {sectionId : String} {index landed : Nat} {element : Element}
    (hinserted : form.insert supply sectionId index element = .ok (landed, next, rest)) :
    let row := supply.take "row"
    let column := row.2.take "col"
    form.GrowsBy [row.1] [⟨column.1, .full, element⟩] next ∧ rest = column.2 := by
  obtain ⟨⟨rowIndex, grown⟩, hrow, hinserted⟩ := eq_ok_of_bind hinserted
  cases hinserted
  exact ⟨growsBy_insertRow hrow, rfl⟩

theorem growsBy_duplicate {elementId newId : String}
    (hcopied : form.duplicate supply elementId = .ok (newId, next, rest)) :
    ∃ kind, ∃ column ∈ form.columns,
      let copy := supply.take kind
      let beside := copy.2.take "col"
      form.GrowsBy [] [⟨beside.1, column.width, column.element.withId copy.1⟩] next ∧ rest = beside.2 := by
  unfold duplicate at hcopied
  split at hcopied
  · obtain ⟨copied, hcopy, hcopied⟩ := eq_ok_of_bind hcopied
    cases hcopied
    obtain ⟨column, hcolumn, hgrows⟩ := growsBy_duplicateElement hcopy
    exact ⟨_, column, hcolumn, hgrows, rfl⟩
  · cases hcopied

/-- An element that changes its type keeps its id, so it takes the place of itself. -/
theorem morphElement_eq_ok {elementId : String} {type : ElementType}
    (hmorphed : form.morphElement elementId type = .ok next) :
    ∃ (element : Element) (definition : Definition), next = form.put (element.morph definition type) := by
  unfold morphElement at hmorphed
  split at hmorphed
  · rename_i element _
    obtain ⟨morphed, hmorph, hupdated⟩ := eq_ok_of_bind hmorphed
    obtain ⟨definition, -, hmorph⟩ := eq_ok_of_bind hmorph
    cases hmorph
    exact ⟨element, definition, updateElement_eq_ok hupdated⟩
  · cases hmorphed

namespace Change

variable {draft : Option Element}

/-- What an edit can do without a draft, it can do beside one. -/
theorem of_none (hchange : form.Change supply none next rest) : form.Change supply draft next rest := by
  cases hchange with
  | keep => exact .keep
  | insert hcreated hinserted => exact .insert hcreated hinserted
  | delete policy elementId => exact .delete policy elementId
  | duplicate hcopied => exact .duplicate hcopied
  | save hdraft _ => cases hdraft
  | morph hmorphed => exact .morph hmorphed
  | moveRow hmoved => exact .moveRow hmoved
  | rename name => exact .rename name

/-- Every edit has only ids that were there before or were just made. -/
theorem exists_makes (hchange : form.Change supply draft next rest) :
    ∃ made, supply.Makes made rest ∧ next.ids.Subperm (made ++ form.ids) := by
  have hnothing := supply.makes_nothing
  cases hchange with
  | keep | rename => exact ⟨[], hnothing, List.Subperm.refl _⟩
  | insert hcreated hinserted =>
      obtain ⟨hid, rfl⟩ := create_eq_ok hcreated
      obtain ⟨hgrows, rfl⟩ := growsBy_insert hinserted
      refine ⟨_, ((hnothing.take _).take "row").take "col", hgrows.ids_subperm.trans (List.Perm.subperm ?_)⟩
      simp only [Column.ids, List.flatMap_cons, List.flatMap_nil, List.append_nil, hid]
      exact (List.Perm.swap _ _ _).append_right _
  | delete policy elementId => exact ⟨[], hnothing, (form.growsBy_deleteElement policy elementId).ids_subperm⟩
  | duplicate hcopied =>
      obtain ⟨kind, column, -, hgrows, rfl⟩ := growsBy_duplicate hcopied
      refine ⟨_, (hnothing.take kind).take "col", ?_⟩
      have hids := hgrows.ids_subperm
      simp only [Column.ids, List.flatMap_cons, List.flatMap_nil, List.append_nil, Element.id_withId] at hids
      exact hids
  | save _ hupdated =>
      rw [updateElement_eq_ok hupdated, ids_put]
      exact ⟨[], hnothing, List.Subperm.refl _⟩
  | morph hmorphed =>
      obtain ⟨element, definition, rfl⟩ := morphElement_eq_ok hmorphed
      rw [ids_put]
      exact ⟨[], hnothing, List.Subperm.refl _⟩
  | moveRow hmoved => exact ⟨[], hnothing, (growsBy_moveRow hmoved).ids_subperm⟩

/-- Every edit leaves elements of their kind, if those before and the draft are. -/
theorem isOfItsKind (hchange : form.Change supply draft next rest)
    (hform : ∀ element ∈ form.elements, element.IsOfItsKind)
    (hdraft : ∀ element, draft = some element → element.IsOfItsKind) :
    ∀ element ∈ next.elements, element.IsOfItsKind := by
  intro element helement
  cases hchange with
  | keep | rename => exact hform element helement
  | insert hcreated hinserted =>
      rcases (growsBy_insert hinserted).1.mem_elements helement with hold | ⟨column, hcolumn, rfl⟩
      · exact hform element hold
      · rw [List.mem_singleton.mp hcolumn]
        exact isOfItsKind_of_create hcreated
  | delete policy elementId =>
      rcases (form.growsBy_deleteElement policy elementId).mem_elements helement with hold | ⟨column, hcolumn, -⟩
      · exact hform element hold
      · exact absurd hcolumn List.not_mem_nil
  | duplicate hcopied =>
      obtain ⟨kind, original, horiginal, hgrows, -⟩ := growsBy_duplicate hcopied
      rcases hgrows.mem_elements helement with hold | ⟨column, hcolumn, rfl⟩
      · exact hform element hold
      · rw [List.mem_singleton.mp hcolumn]
        exact Element.isOfItsKind_withId.mpr (hform original.element (List.mem_map_of_mem horiginal))
  | save hsaved hupdated =>
      rw [updateElement_eq_ok hupdated] at helement
      rcases mem_elements_put helement with rfl | hold
      · exact hdraft element hsaved
      · exact hform element hold
  | morph hmorphed =>
      obtain ⟨old, definition, rfl⟩ := morphElement_eq_ok hmorphed
      rcases mem_elements_put helement with rfl | hold
      · exact Element.isOfItsKind_morph old definition _
      · exact hform element hold
  | moveRow hmoved =>
      rcases (growsBy_moveRow hmoved).mem_elements helement with hold | ⟨column, hcolumn, -⟩
      · exact hform element hold
      · exact absurd hcolumn List.not_mem_nil

theorem isSound (hchange : form.Change supply draft next rest) (hform : form.IsSound)
    (hdraft : ∀ element, draft = some element → element.IsOfItsKind) : next.IsSound := by
  cases hchange with
  | keep => exact hform
  | insert hcreated hinserted => exact hform.insert (isOfItsKind_of_create hcreated) hinserted
  | delete policy elementId => exact hform.deleteElement policy elementId
  | duplicate hcopied => exact hform.duplicate hcopied
  | save hsaved hupdated => exact hform.updateElement (hdraft _ hsaved) hupdated
  | morph hmorphed => exact hform.morphElement hmorphed
  | moveRow hmoved => exact hform.moveRow hmoved
  | rename name => exact ⟨hform.registry, hform.sections⟩

end Change

end Form

end FormEditor
