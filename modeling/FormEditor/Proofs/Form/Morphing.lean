import FormEditor.Proofs.Form.Change

/-! Elements that change their type again and again. An element takes along its identity, what is shown around it
and its text. Everything else comes from the definition of the new type, and nothing is left of the types in
between, whether they are fields or not. So a chain of changes ends where the last of them alone ends, both
for an element by itself and for one that is changed in its place in a form. -/

namespace FormEditor

namespace Element

/-- What an element is as another type: it keeps its identity and its text, and has the rest from the
definition. -/
structure Becomes (old : Element) (definition : Definition) (type : ElementType) (new : Element) : Prop where
  base : new.base = { old.base with icon := definition.defaultProps.icon }
  text : new.primaryText = old.primaryText
  kind : new.kind = type.kind
  type : new.type = type
  field : ∀ field, new.field? = some field →
    field.placeholder = definition.defaultProps.placeholder ∧ field.options = definition.defaultProps.options ∧
      field.mask = definition.defaultProps.mask ∧ field.validation = definition.defaultProps.validation

variable {old middle new : Element} {definition between : Definition} {type through : ElementType}

theorem morph_of_display (hkind : type.kind = .display) :
    old.morph definition type =
      .display ⟨type, { old.base with icon := definition.defaultProps.icon }, old.primaryText⟩ := by
  simp only [morph, ofDefinition, hkind]
  rfl

theorem morph_of_field (hkind : type.kind = .field) :
    old.morph definition type =
      .input ⟨type, { old.base with icon := definition.defaultProps.icon }, old.primaryText,
        definition.defaultProps.placeholder, definition.defaultProps.options, definition.defaultProps.mask,
        definition.defaultProps.validation⟩ := by
  simp only [morph, ofDefinition, hkind]
  rfl

theorem becomes_morph (old : Element) (definition : Definition) (type : ElementType) :
    old.Becomes definition type (old.morph definition type) := by
  cases hkind : type.kind with
  | display =>
      rw [morph_of_display hkind]
      refine ⟨rfl, rfl, hkind.symm, rfl, ?_⟩
      intro field hnone
      cases hnone
  | field =>
      rw [morph_of_field hkind]
      refine ⟨rfl, rfl, hkind.symm, rfl, ?_⟩
      rintro field ⟨rfl⟩
      exact ⟨rfl, rfl, rfl, rfl⟩

/-- Nothing is free in what an element becomes. -/
theorem Becomes.eq_morph (hnew : old.Becomes definition type new) : new = old.morph definition type := by
  obtain ⟨hbase, htext, hkind, htype, hfield⟩ := hnew
  cases new with
  | display block =>
      obtain ⟨_, _, _⟩ := block
      cases hbase
      cases htext
      cases htype
      exact (morph_of_display hkind.symm).symm
  | input field =>
      obtain ⟨hplaceholder, hoptions, hmask, hvalidation⟩ := hfield field rfl
      obtain ⟨_, _, _, _, _, _, _⟩ := field
      cases hbase
      cases htext
      cases htype
      cases hplaceholder
      cases hoptions
      cases hmask
      cases hvalidation
      exact (morph_of_field hkind.symm).symm

theorem becomes_iff : old.Becomes definition type new ↔ new = old.morph definition type :=
  ⟨Becomes.eq_morph, fun hnew => hnew ▸ old.becomes_morph definition type⟩

/-- What an element was in between leaves no trace. -/
theorem Becomes.trans (hfirst : old.Becomes between through middle) (hlast : middle.Becomes definition type new) :
    old.Becomes definition type new where
  base := by rw [hlast.base, hfirst.base]
  text := hlast.text.trans hfirst.text
  kind := hlast.kind
  type := hlast.type
  field := hlast.field

theorem morph_morph (old : Element) (between definition : Definition) (through type : ElementType) :
    (old.morph between through).morph definition type = old.morph definition type :=
  ((old.becomes_morph between through).trans (becomes_morph _ definition type)).eq_morph

end Element

namespace Form

variable {form : Form} {element : Element} {elementId : String} {definition : Definition} {type : ElementType}

/-! ### One change -/

theorem morph_of_defined (hdefined : form.registry.get? type = some definition) (element : Element) :
    form.morph element type = .ok (element.morph definition type) := by
  rw [morph, Registry.get, hdefined]
  rfl

theorem findElement_put (hfound : (form.findElement element.id).isSome) :
    (form.put element).findElement element.id = some element := by
  obtain ⟨old, hold⟩ := Option.isSome_iff_exists.mp hfound
  have hpred : ((fun other : Element => decide (other.id = element.id)) ∘
      fun old => if old.id = element.id then element else old) = fun old => decide (old.id = element.id) := by
    funext other
    by_cases hsame : other.id = element.id <;> simp [hsame]
  have hid : old.id = element.id := by simpa using List.find?_some hold
  rw [findElement, put, elements_mapElements, List.find?_map, hpred]
  rw [findElement] at hold
  rw [hold, Option.map_some, if_pos hid]

/-- Of two elements with one id that is there, each leaves a form of its own behind. -/
theorem put_inj {other : Element} (hid : element.id = other.id)
    (hfound : (form.findElement other.id).isSome) : form.put element = form.put other ↔ element = other := by
  refine ⟨fun hsame => ?_, congrArg form.put⟩
  have helement : (form.put element).findElement other.id = some element := by
    rw [← hid] at hfound ⊢
    exact findElement_put hfound
  have hother := findElement_put hfound
  rw [← hsame, helement] at hother
  exact Option.some.inj hother

theorem mapElements_mapElements (form : Form) (first last : Element → Element) :
    (form.mapElements first).mapElements last = form.mapElements (last ∘ first) := by
  simp [mapElements, withSections, Section.mapElements, Row.mapElements, Function.comp_def]

theorem put_put {other : Element} (hsame : element.id = other.id) :
    (form.put element).put other = form.put other := by
  rw [put, put, mapElements_mapElements, put]
  congr 1
  funext old
  by_cases hold : old.id = other.id <;> simp [hsame, hold]

theorem updateElement_of_isSome (hfound : (form.findElement element.id).isSome) :
    form.updateElement element = .ok (form.put element) := by
  rw [updateElement, if_pos hfound]
  rfl

theorem morphElement_of_none (hnone : form.findElement elementId = none) :
    form.morphElement elementId type = .error (.missingTarget .element elementId) := by
  rw [morphElement, hnone]
  rfl

/-- An element keeps its id with its new type, so it takes the place of all that have it. -/
theorem morphElement_of_some (hfound : form.findElement elementId = some element) (type : ElementType) :
    form.morphElement elementId type =
      (fun definition => form.put (element.morph definition type)) <$> form.registry.get type := by
  have hid : element.id = elementId := by simpa using List.find?_some hfound
  rw [morphElement, hfound]
  cases hget : form.registry.get type with
  | error cause => simp [morph, hget, bind, Except.bind]
  | ok definition =>
      have hsome : (form.findElement (element.morph definition type).id).isSome := by
        rw [Element.id_morph, hid, hfound]
        rfl
      simp only [morph, hget, bind, Except.bind, pure, Except.pure]
      exact updateElement_of_isSome hsome

/-- A change in place that follows on another one undoes it. -/
theorem morphElement_put (hfound : form.findElement elementId = some element) (between : Definition)
    (through type : ElementType) :
    (form.put (element.morph between through)).morphElement elementId type = form.morphElement elementId type := by
  have hid : (element.morph between through).id = elementId := by
    rw [Element.id_morph]
    simpa using List.find?_some hfound
  have hthere : (form.put (element.morph between through)).findElement elementId =
      some (element.morph between through) := by
    rw [← hid]
    apply findElement_put
    rw [hid, hfound]
    rfl
  have hput : ∀ definition : Definition,
      (form.put (element.morph between through)).put ((element.morph between through).morph definition type) =
        form.put (element.morph definition type) := by
    intro definition
    rw [Element.morph_morph]
    apply put_put
    rw [Element.id_morph, Element.id_morph]
  rw [morphElement_of_some hthere, morphElement_of_some hfound]
  simp only [hput]
  rfl

/-! ### Chains of changes -/

variable {through : List ElementType}

theorem foldlM_morph (hdefined : ∀ type ∈ through, (form.registry.get? type).isSome) (last : ElementType) :
    ∀ element : Element, (through ++ [last]).foldlM form.morph element = form.morph element last := by
  induction through with
  | nil => exact fun element => bind_pure _
  | cons type through ih =>
      intro element
      obtain ⟨hfirst, hrest⟩ := List.forall_mem_cons.mp hdefined
      obtain ⟨definition, hdefinition⟩ := Option.isSome_iff_exists.mp hfirst
      calc (type :: through ++ [last]).foldlM form.morph element
          = (through ++ [last]).foldlM form.morph (element.morph definition type) := by
            rw [List.cons_append, List.foldlM_cons, morph_of_defined hdefinition]
            rfl
        _ = form.morph (element.morph definition type) last := ih hrest _
        _ = form.morph element last := by simp only [morph, Element.morph_morph]

/-- A chain of changes in place ends where the last of them ends, also where there is nothing to change. -/
theorem foldlM_morphElement (elementId : String) (last : ElementType) :
    ∀ {form : Form}, (∀ type ∈ through, (form.registry.get? type).isSome) →
      (through ++ [last]).foldlM (fun form type => form.morphElement elementId type) form =
        form.morphElement elementId last := by
  induction through with
  | nil => exact fun _ => bind_pure _
  | cons type through ih =>
      intro form hdefined
      obtain ⟨hfirst, hrest⟩ := List.forall_mem_cons.mp hdefined
      obtain ⟨definition, hdefinition⟩ := Option.isSome_iff_exists.mp hfirst
      rw [List.cons_append, List.foldlM_cons]
      cases hfound : form.findElement elementId with
      | none =>
          rw [morphElement_of_none hfound, morphElement_of_none hfound]
          rfl
      | some element =>
          have hstep : form.morphElement elementId type = .ok (form.put (element.morph definition type)) := by
            rw [morphElement_of_some hfound, Registry.get, hdefinition]
            rfl
          rw [hstep]
          exact (@ih (form.put (element.morph definition type)) hrest).trans
            (morphElement_put hfound definition type last)

/-- **Changes of the type forget the way.** An element that takes one type after the other, all of them defined,
fields or not, ends as what the last type alone makes of it. That has the identity, the subtitle, the description,
the photo and the text of the element, also if it comes back to the type it had, and everything else from the
definition of the last type, the icon too. An element that changes in its place in the form leaves the same
form behind in either way. -/
theorem morphs_forget_the_way (form : Form) (element : Element) (through : List ElementType) {last : ElementType}
    (hdefined : ∀ type ∈ through ++ [last], (form.registry.get? type).isSome) :
    (∃ definition morphed, form.registry.get? last = some definition ∧
      (through ++ [last]).foldlM form.morph element = .ok morphed ∧ form.morph element last = .ok morphed ∧
      element.Becomes definition last morphed) ∧
    ∀ elementId, (through ++ [last]).foldlM (fun form type => form.morphElement elementId type) form =
      form.morphElement elementId last := by
  obtain ⟨hthrough, hlast⟩ := List.forall_mem_append.mp hdefined
  obtain ⟨definition, hdefinition⟩ := Option.isSome_iff_exists.mp (hlast last (List.mem_singleton_self last))
  have hmorphed := morph_of_defined hdefinition element
  refine ⟨⟨definition, element.morph definition last, hdefinition, ?_, hmorphed, ?_⟩, ?_⟩
  · rw [foldlM_morph hthrough, hmorphed]
  · exact element.becomes_morph definition last
  · exact fun elementId => foldlM_morphElement elementId last hthrough

/-- A field becomes a title, a choice and a field of its old type again: its own placeholder is lost. -/
theorem morphed_away_and_back :
    let form := blank "u"
    let element : Element :=
      .input ⟨.text, ⟨"e", some "S", none, some "P", some "I"⟩, "Name", some "mine", none, none, none⟩
    let through : List ElementType := [.title, .select]
    (∀ type ∈ through ++ [ElementType.text], (form.registry.get? type).isSome) ∧
    (through ++ [ElementType.text]).foldlM form.morph element = form.morph element .text ∧
    form.morph element .text = .ok
      (.input ⟨.text, ⟨"e", some "S", none, some "P", none⟩, "Name", some "Enter text", none, none, none⟩) := by
  intro form element through
  have hdefined : ∀ type ∈ through ++ [ElementType.text], (form.registry.get? type).isSome := by decide +kernel
  obtain ⟨⟨definition, morphed, -, hchain, hmorphed, -⟩, -⟩ :=
    morphs_forget_the_way form element through hdefined
  exact ⟨hdefined, hchain.trans hmorphed.symm, by decide +kernel⟩

end Form

end FormEditor
