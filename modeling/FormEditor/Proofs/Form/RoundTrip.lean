import FormEditor.Proofs.Form.Derived
import FormEditor.Proofs.Json.Shape

/-! The text of a form is read back as the form. Each structure is read back from the object it is written
as, field by field; an element must be of its kind for that, the value of a condition must fit, and the
registry must define something, or the built-in one would take its place. Sound forms are all that, and
the numbers in their conditions must be integers. -/

namespace FormEditor

open Json (Field Shape)

/-! ### The registry -/

@[simp] theorem Validation.members_toJson (validation : Validation) :
    validation.toJson.members =
      [("regex", .string validation.regex), ("message", .string validation.message)] := rfl

theorem Validation.decode_toJson (validation : Validation) :
    shape.decode validation.toJson.toNode = .ok validation := by
  have hregex : (Field.required "regex" Json.Node.text).Reads validation.toJson.members validation.regex :=
    Field.reads_text (by simp)
  have hmessage : (Field.required "message" Json.Node.text).Reads validation.toJson.members
      validation.message :=
    Field.reads_text (by simp)
  exact (((Shape.reads_make Validation.mk _).field hregex).field hmessage).decode rfl

theorem Json.list_ofTexts (texts : List String) :
    Json.Node.list Json.Node.text (ofTexts texts).toNode = .ok texts :=
  Json.Node.list_toNode fun _ _ => rfl

@[simp] theorem DefaultProps.members_toJson (props : DefaultProps) :
    props.toJson.members =
      Json.optional "type" ElementType.toJson props.type ++ Json.optional "label" .string props.label
        ++ Json.optional "content" .string props.content ++ Json.optional "placeholder" .string props.placeholder
        ++ Json.optional "options" Json.ofTexts props.options ++ Json.optional "mask" .string props.mask
        ++ Json.optional "validation" Validation.toJson props.validation
        ++ Json.optional "subtitle" .string props.subtitle
        ++ Json.optional "description" .string props.description ++ Json.optional "photo" .string props.photo
        ++ Json.optional "icon" .string props.icon := rfl

theorem DefaultProps.decode_toJson (props : DefaultProps) :
    shape.decode props.toJson.toNode = .ok props := by
  have htype : (Field.optional "type" ElementType.decoder).Reads props.toJson.members props.type :=
    Field.reads_optional ElementType.toJson (by simp) nofun
      fun type _ => Json.Node.variant_toNode (ElementType.ofTag?_tag type)
  have hlabel : (Field.optional "label" Json.Node.text).Reads props.toJson.members props.label :=
    Field.reads_optional .string (by simp) nofun fun _ _ => rfl
  have hcontent : (Field.optional "content" Json.Node.text).Reads props.toJson.members props.content :=
    Field.reads_optional .string (by simp) nofun fun _ _ => rfl
  have hplaceholder : (Field.optional "placeholder" Json.Node.text).Reads props.toJson.members
      props.placeholder :=
    Field.reads_optional .string (by simp) nofun fun _ _ => rfl
  have hoptions : (Field.optional "options" (Json.Node.list Json.Node.text)).Reads props.toJson.members
      props.options :=
    Field.reads_optional Json.ofTexts (by simp) nofun
      fun options _ => Json.list_ofTexts options
  have hmask : (Field.optional "mask" Json.Node.text).Reads props.toJson.members props.mask :=
    Field.reads_optional .string (by simp) nofun fun _ _ => rfl
  have hvalidation : (Field.optional "validation" Validation.shape.decode).Reads props.toJson.members
      props.validation :=
    Field.reads_optional Validation.toJson (by simp) nofun
      fun validation _ => validation.decode_toJson
  have hsubtitle : (Field.optional "subtitle" Json.Node.text).Reads props.toJson.members props.subtitle :=
    Field.reads_optional .string (by simp) nofun fun _ _ => rfl
  have hdescription : (Field.optional "description" Json.Node.text).Reads props.toJson.members
      props.description :=
    Field.reads_optional .string (by simp) nofun fun _ _ => rfl
  have hphoto : (Field.optional "photo" Json.Node.text).Reads props.toJson.members props.photo :=
    Field.reads_optional .string (by simp) nofun fun _ _ => rfl
  have hicon : (Field.optional "icon" Json.Node.text).Reads props.toJson.members props.icon :=
    Field.reads_optional .string (by simp) nofun fun _ _ => rfl
  have hreads := (Shape.reads_make DefaultProps.mk _).field htype |>.field hlabel |>.field hcontent
    |>.field hplaceholder |>.field hoptions |>.field hmask |>.field hvalidation |>.field hsubtitle
    |>.field hdescription |>.field hphoto |>.field hicon
  exact hreads.decode rfl

@[simp] theorem Definition.members_toJson (definition : Definition) :
    definition.toJson.members =
      [("category", .string definition.category), ("icon", .string definition.icon),
        ("defaultProps", definition.defaultProps.toJson)] := rfl

theorem Definition.decode_toJson (definition : Definition) :
    shape.decode definition.toJson.toNode = .ok definition := by
  have hcategory : (Field.required "category" Json.Node.text).Reads definition.toJson.members
      definition.category :=
    Field.reads_text (by simp)
  have hicon : (Field.required "icon" Json.Node.text).Reads definition.toJson.members definition.icon :=
    Field.reads_text (by simp)
  have hprops : (Field.required "defaultProps" DefaultProps.shape.decode).Reads definition.toJson.members
      definition.defaultProps :=
    Field.reads_required DefaultProps.toJson (by simp)
      definition.defaultProps.decode_toJson
  exact ((((Shape.reads_make Definition.mk _).field hcategory).field hicon).field hprops).decode rfl

namespace Registry

theorem place_of_not_mem {type : ElementType} (definition : Definition)
    {entries : List (ElementType × Definition)} (hnew : type ∉ entries.map (·.1)) :
    place type definition entries = entries ++ [(type, definition)] := by
  induction entries with
  | nil => rfl
  | cons entry entries ih =>
      rw [List.map_cons, List.mem_cons, not_or] at hnew
      rw [place, if_neg (Ne.symm hnew.1), ih hnew.2, List.cons_append]

theorem eq_of_entries_eq {left right : Registry} (hentries : left.entries = right.entries) :
    left = right := by
  cases left
  cases right
  cases hentries
  rfl

/-- Definitions of further types are read to the end of a registry, in their order. -/
theorem ofMembers_toJson (entries : List (ElementType × Definition)) :
    ∀ registry : Registry, ((registry.entries ++ entries).map (·.1)).Nodup →
      ∃ read, ofMembers registry
          (Json.memberNodes (entries.map fun (type, definition) => (type.tag, definition.toJson))) =
            .ok read ∧
        read.entries = registry.entries ++ entries := by
  induction entries with
  | nil => exact fun registry _ => ⟨registry, rfl, (List.append_nil _).symm⟩
  | cons entry entries ih =>
      obtain ⟨type, definition⟩ := entry
      intro registry hdistinct
      have hnew : type ∉ registry.entries.map (·.1) := by
        rw [List.map_append, List.nodup_append] at hdistinct
        exact fun hold => hdistinct.2.2 type hold type List.mem_cons_self rfl
      have hinsert : (registry.insert type definition).entries = registry.entries ++ [(type, definition)] :=
        place_of_not_mem definition hnew
      have hentries : (registry.insert type definition).entries ++ entries =
          registry.entries ++ (type, definition) :: entries := by
        rw [hinsert, List.append_assoc, List.singleton_append]
      obtain ⟨read, hread, hresult⟩ := ih (registry.insert type definition) (hentries ▸ hdistinct)
      refine ⟨read, ?_, hresult.trans hentries⟩
      simp only [List.map_cons, Json.memberNodes, ofMembers, ElementType.ofTag?_tag,
        definition.decode_toJson]
      exact hread

theorem decode_toJson (registry : Registry) : decoder registry.toJson.toNode = .ok registry := by
  obtain ⟨read, hread, hentries⟩ := ofMembers_toJson registry.entries .empty registry.distinct
  rw [toJson, Json.toNode, decoder, hread, eq_of_entries_eq hentries]
  rfl

end Registry

/-! ### Elements -/

/-- The members that an element is written with. -/
def Element.written : Element → ElementMembers
  | .display block =>
    { id := block.base.id, type := block.type, label := none, content := some block.content
      placeholder := none, options := none, mask := none, validation := none
      subtitle := block.base.subtitle, description := block.base.description
      photo := block.base.photo, icon := block.base.icon }
  | .input field =>
    { id := field.base.id, type := field.type, label := some field.label, content := none
      placeholder := field.placeholder, options := field.options, mask := field.mask
      validation := field.validation, subtitle := field.base.subtitle
      description := field.base.description, photo := field.base.photo, icon := field.base.icon }

/-- An element of its kind is what its members make. -/
theorem Element.toElement_written {element : Element} (hkind : element.IsOfItsKind) :
    element.written.toElement = .ok element := by
  cases element with
  | display block =>
      have htype : block.type.kind = .display := hkind.symm
      simp only [written, ElementMembers.toElement, htype]
      rfl
  | input field =>
      have htype : field.type.kind = .field := hkind.symm
      simp only [written, ElementMembers.toElement, htype]
      rfl

/-- The members of both kinds in one order: an element leaves out those of the other kind. -/
@[simp] theorem Element.members_toJson (element : Element) :
    element.toJson.members =
      [("id", .string element.written.id), ("type", element.written.type.toJson)]
        ++ Json.optional "label" .string element.written.label
        ++ Json.optional "content" .string element.written.content
        ++ Json.optional "placeholder" .string element.written.placeholder
        ++ Json.optional "options" Json.ofTexts element.written.options
        ++ Json.optional "mask" .string element.written.mask
        ++ Json.optional "validation" Validation.toJson element.written.validation
        ++ Json.optional "subtitle" .string element.written.subtitle
        ++ Json.optional "description" .string element.written.description
        ++ Json.optional "photo" .string element.written.photo
        ++ Json.optional "icon" .string element.written.icon := by
  cases element <;> rfl

/-- Every member of an element is found where it is written, in elements of either kind. -/
theorem Element.reads_written (element : Element) :
    ElementMembers.shape.Reads element.toJson.members element.written := by
  have hid : (Field.required "id" Json.Node.text).Reads element.toJson.members element.written.id :=
    Field.reads_text (by simp)
  have htype : (Field.required "type" ElementType.decoder).Reads element.toJson.members
      element.written.type :=
    Field.reads_required ElementType.toJson
      (by simp)
      (Json.Node.variant_toNode (ElementType.ofTag?_tag element.written.type))
  have hlabel : (Field.omissible "label" Json.Node.text).Reads element.toJson.members
      element.written.label :=
    Field.reads_omissible .string
      (by simp) nofun
      fun _ _ => rfl
  have hcontent : (Field.omissible "content" Json.Node.text).Reads element.toJson.members
      element.written.content :=
    Field.reads_omissible .string
      (by simp) nofun
      fun _ _ => rfl
  have hplaceholder : (Field.omissible "placeholder" Json.Node.text).Reads element.toJson.members
      element.written.placeholder :=
    Field.reads_omissible .string
      (by simp) nofun
      fun _ _ => rfl
  have hoptions : (Field.omissible "options" (Json.Node.list Json.Node.text)).Reads element.toJson.members
      element.written.options :=
    Field.reads_omissible Json.ofTexts
      (by simp) nofun
      fun options _ => Json.list_ofTexts options
  have hmask : (Field.omissible "mask" Json.Node.text).Reads element.toJson.members
      element.written.mask :=
    Field.reads_omissible .string
      (by simp) nofun
      fun _ _ => rfl
  have hvalidation : (Field.omissible "validation" Validation.shape.decode).Reads element.toJson.members
      element.written.validation :=
    Field.reads_omissible Validation.toJson
      (by simp) nofun
      fun validation _ => validation.decode_toJson
  have hsubtitle : (Field.omissible "subtitle" Json.Node.text).Reads element.toJson.members
      element.written.subtitle :=
    Field.reads_omissible .string
      (by simp) nofun
      fun _ _ => rfl
  have hdescription : (Field.omissible "description" Json.Node.text).Reads element.toJson.members
      element.written.description :=
    Field.reads_omissible .string
      (by simp) nofun
      fun _ _ => rfl
  have hphoto : (Field.omissible "photo" Json.Node.text).Reads element.toJson.members
      element.written.photo :=
    Field.reads_omissible .string
      (by simp) nofun
      fun _ _ => rfl
  have hicon : (Field.omissible "icon" Json.Node.text).Reads element.toJson.members
      element.written.icon :=
    Field.reads_omissible .string
      (by simp) nofun
      fun _ _ => rfl
  exact (Shape.reads_make ElementMembers.mk _).field hid |>.field htype |>.field hlabel |>.field hcontent
    |>.field hplaceholder |>.field hoptions |>.field hmask |>.field hvalidation |>.field hsubtitle
    |>.field hdescription |>.field hphoto |>.field hicon

theorem Element.decode_toJson {element : Element} (hkind : element.IsOfItsKind) :
    decoder element.toJson.toNode = .ok element := by
  have hread : ElementMembers.shape.decode element.toJson.toNode = .ok element.written :=
    element.reads_written.decode rfl
  rw [decoder, hread]
  exact toElement_written hkind

/-! ### Rows and sections -/

@[simp] theorem Column.members_toJson (column : Column) :
    column.toJson.members =
      [("id", .string column.id), ("width", .string column.width.text),
        ("element", column.element.toJson)] := rfl

theorem Column.decode_toJson {column : Column} (hkind : column.element.IsOfItsKind) :
    shape.decode column.toJson.toNode = .ok column := by
  have hid : (Field.required "id" Json.Node.text).Reads column.toJson.members column.id :=
    Field.reads_text (by simp)
  have hwidth : (Field.required "width" (Json.Node.variant ColumnWidth.ofText?)).Reads
      column.toJson.members column.width :=
    Field.reads_required (fun width => .string width.text) (by simp)
      (Json.Node.variant_toNode column.width.ofText?_text)
  have helement : (Field.required "element" Element.decoder).Reads column.toJson.members column.element :=
    Field.reads_required Element.toJson (by simp) (Element.decode_toJson hkind)
  exact ((((Shape.reads_make Column.mk _).field hid).field hwidth).field helement).decode rfl

@[simp] theorem RowCondition.members_toJson (condition : RowCondition) :
    condition.toJson.members =
      [("fieldId", .string condition.fieldId), ("operator", .string condition.operator.text),
        ("value", condition.value)] := rfl

theorem RowCondition.decode_toJson {condition : RowCondition} (hfits : Json.Fits room condition.value)
    (hintegral : condition.value.isIntegral) : shape.decode condition.toJson.toNode = .ok condition := by
  have hfieldId : (Field.required "fieldId" Json.Node.text).Reads condition.toJson.members
      condition.fieldId :=
    Field.reads_text (by simp)
  have hoperator : (Field.required "operator" (Json.Node.variant ConditionOperator.ofText?)).Reads
      condition.toJson.members condition.operator :=
    Field.reads_required (fun operator => .string operator.text) (by simp)
      (Json.Node.variant_toNode condition.operator.ofText?_text)
  have hread : Json.Node.json containers condition.value.toNode = .ok condition.value :=
    Json.json_toNode hfits hintegral
  have hvalue : (Field.required "value" (Json.Node.json containers)).Reads condition.toJson.members
      condition.value :=
    Field.reads_required id (by simp) hread
  exact ((((Shape.reads_make RowCondition.mk _).field hfieldId).field hoperator).field hvalue).decode rfl

/-- The numbers in the condition of a row are integers. -/
def Row.IsIntegral (row : Row) : Prop :=
  ∀ condition, row.condition = some condition → condition.value.isIntegral

@[simp] theorem Row.members_toJson (row : Row) :
    row.toJson.members =
      [("id", .string row.id), ("columns", .array (row.columns.map Column.toJson))]
        ++ Json.optional "condition" RowCondition.toJson row.condition := rfl

theorem Row.decode_toJson {row : Row} (hsound : row.IsSound) (hintegral : row.IsIntegral) :
    shape.decode row.toJson.toNode = .ok row := by
  have hid : (Field.required "id" Json.Node.text).Reads row.toJson.members row.id :=
    Field.reads_text (by simp)
  have hcolumns : (Field.required "columns" (Json.Node.list Column.shape.decode)).Reads row.toJson.members
      row.columns :=
    Field.reads_required (fun columns => .array (columns.map Column.toJson)) (by simp)
      (Json.Node.list_toNode fun column hcolumn => Column.decode_toJson (hsound.elements column hcolumn))
  have hcondition : (Field.omissible "condition" RowCondition.shape.decode).Reads row.toJson.members
      row.condition :=
    Field.reads_omissible RowCondition.toJson (by simp) nofun fun condition hsome =>
      RowCondition.decode_toJson (hsound.condition condition hsome) (hintegral condition hsome)
  exact ((((Shape.reads_make Row.mk _).field hid).field hcolumns).field hcondition).decode rfl

@[simp] theorem Section.members_toJson (part : Section) :
    part.toJson.members =
      [("id", .string part.id), ("title", .string part.title),
        ("rows", .array (part.rows.map Row.toJson))] := rfl

theorem Section.decode_toJson {part : Section} (hsound : part.IsSound)
    (hintegral : ∀ row ∈ part.rows, row.IsIntegral) : shape.decode part.toJson.toNode = .ok part := by
  have hid : (Field.required "id" Json.Node.text).Reads part.toJson.members part.id :=
    Field.reads_text (by simp)
  have htitle : (Field.required "title" Json.Node.text).Reads part.toJson.members part.title :=
    Field.reads_text (by simp)
  have hrows : (Field.required "rows" (Json.Node.list Row.shape.decode)).Reads part.toJson.members
      part.rows :=
    Field.reads_required (fun rows => .array (rows.map Row.toJson)) (by simp)
      (Json.Node.list_toNode fun row hrow => Row.decode_toJson (hsound row hrow) (hintegral row hrow))
  exact ((((Shape.reads_make Section.mk _).field hid).field htitle).field hrows).decode rfl

/-! ### Integers -/

@[simp] theorem Json.isIntegral_ofTexts (texts : List String) : (ofTexts texts).isIntegral := by
  simp [ofTexts, isIntegral]

@[simp] theorem DefaultProps.isIntegral_toJson (props : DefaultProps) : props.toJson.isIntegral := by
  simp [toJson, Json.isIntegral, Json.optionalText, ElementType.toJson, Validation.toJson,
    Json.membersAreIntegral]

@[simp] theorem Definition.isIntegral_toJson (definition : Definition) : definition.toJson.isIntegral := by
  simp [toJson, Json.isIntegral, Json.membersAreIntegral]

@[simp] theorem Element.isIntegral_toJson (element : Element) : element.toJson.isIntegral := by
  cases element <;>
    simp [toJson, ownMembers, Json.isIntegral, Json.optionalText, ElementType.toJson, Validation.toJson,
      Json.membersAreIntegral]

@[simp] theorem Column.isIntegral_toJson (column : Column) : column.toJson.isIntegral := by
  simp [toJson, Json.isIntegral, Json.membersAreIntegral]

theorem RowCondition.isIntegral_toJson {condition : RowCondition} (hintegral : condition.value.isIntegral) :
    condition.toJson.isIntegral := by
  simp [toJson, Json.isIntegral, Json.membersAreIntegral, hintegral]

theorem Row.isIntegral_toJson {row : Row} (hintegral : row.IsIntegral) : row.toJson.isIntegral := by
  have hcondition : (row.condition.all fun condition => condition.toJson.isIntegral) = true :=
    (Option.all_eq_true _ _).mpr fun condition hsome => RowCondition.isIntegral_toJson (hintegral condition hsome)
  simp [toJson, Json.isIntegral, Json.membersAreIntegral, hcondition]

theorem Section.isIntegral_toJson {part : Section} (hintegral : ∀ row ∈ part.rows, row.IsIntegral) :
    part.toJson.isIntegral := by
  have hrows : (part.rows.all fun row => row.toJson.isIntegral) = true :=
    List.all_eq_true.mpr fun row hrow => Row.isIntegral_toJson (hintegral row hrow)
  simp [toJson, Json.isIntegral, Json.membersAreIntegral, hrows]

/-! ### Forms -/

@[simp] theorem FormConfig.members_toJson (config : FormConfig) :
    config.toJson.members =
      [("uid", .string config.uid), ("version", .string config.version), ("name", .string config.name)] :=
  rfl

theorem FormConfig.decode_toJson (config : FormConfig) :
    shape.decode config.toJson.toNode = .ok config := by
  have huid : (Field.required "uid" Json.Node.text).Reads config.toJson.members config.uid :=
    Field.reads_text (by simp)
  have hversion : (Field.required "version" Json.Node.text).Reads config.toJson.members config.version :=
    Field.reads_text (by simp)
  have hname : (Field.required "name" Json.Node.text).Reads config.toJson.members config.name :=
    Field.reads_text (by simp)
  exact ((((Shape.reads_make FormConfig.mk _).field huid).field hversion).field hname).decode rfl

namespace Form

/-- The numbers in the conditions of a form are integers. -/
def IsIntegral (form : Form) : Prop :=
  ∀ part ∈ form.sections, ∀ row ∈ part.rows, row.IsIntegral

@[simp] theorem members_toJson (form : Form) :
    form.toJson.members =
      [("config", form.config.toJson), ("schema", form.registry.toJson),
        ("data", .object [("sections", .array (form.sections.map Section.toJson))])] := rfl

theorem decode_toJson {form : Form} (hsound : form.IsSound) (hintegral : form.IsIntegral) :
    shape.decode form.toJson.toNode = .ok form := by
  have hconfig : (Field.required "config" FormConfig.shape.decode).Reads form.toJson.members form.config :=
    Field.reads_required FormConfig.toJson (by simp) form.config.decode_toJson
  have hregistry : (Field.defaulted "schema" Registry.decoder .empty).Reads form.toJson.members
      form.registry :=
    Field.reads_defaulted Registry.toJson (by simp) form.registry.decode_toJson
  have hsections : (Field.required "sections" (Json.Node.list Section.shape.decode)).Reads
      [("sections", .array (form.sections.map Section.toJson))] form.sections :=
    Field.reads_required (fun sections => .array (sections.map Section.toJson)) (by simp)
      (Json.Node.list_toNode fun part hpart =>
        Section.decode_toJson (hsound.sections part hpart) (hintegral part hpart))
  have hdata : (Field.required "data" dataShape.decode).Reads form.toJson.members form.sections :=
    Field.reads_required (fun sections => .object [("sections", .array (sections.map Section.toJson))])
      (by simp) (((Shape.reads_make id _).field hsections).decode rfl)
  exact ((((Shape.reads_make Form.mk _).field hconfig).field hregistry).field hdata).decode rfl

/-- Outside of conditions there are no numbers in a form. -/
theorem isIntegral_toJson {form : Form} (hintegral : form.IsIntegral) : form.toJson.isIntegral := by
  have hregistry : form.registry.toJson.isIntegral := by
    simp [Registry.toJson, Json.isIntegral]
  have hsections : (form.sections.all fun part => part.toJson.isIntegral) = true :=
    List.all_eq_true.mpr fun part hpart => Section.isIntegral_toJson (hintegral part hpart)
  simp [toJson, FormConfig.toJson, Json.isIntegral, Json.membersAreIntegral, hregistry, hsections]

theorem IsSound.ofText_text {form : Form} (hsound : form.IsSound) (hintegral : form.IsIntegral) :
    ofText form.text = .ok form := by
  have hread : Json.decodeText shape.decode form.text = .ok form := by
    rw [text, Json.decodeText_pretty _ (isIntegral_toJson hintegral)]
    exact decode_toJson hsound hintegral
  have hkept : form.withRegistry = form := by
    rw [withRegistry, hsound.registry]
    rfl
  rw [ofText, hread, Except.map, hkept]

/-- **The text of a derived form is read back as that form**, with the same sections and the same registry,
if the numbers in its conditions are integers. Its registry is never empty, so that the built-in one is
never put in its place. -/
theorem ofText_text_of_derived {form : Form} (hderived : form.Derived) (hintegral : form.IsIntegral) :
    ofText form.text = .ok form ∧ form.registry.isEmpty = false :=
  ⟨hderived.isSound.ofText_text hintegral, hderived.isSound.registry⟩

/-- A form with an element and a condition that was read and then renamed. -/
theorem ofText_text_renamed :
    let value : Json := .array [.number (.integer (-2) (by decide))]
    let element : Element := .input ⟨.email, ⟨"e", none, none, none, none⟩, "L", none, none, none, none⟩
    let row : Row := ⟨"r", [⟨"c", .half, element⟩], some ⟨"f", .equals, value⟩⟩
    let form : Form := ⟨⟨"u", "1", "A"⟩, .builtin, [⟨"s", "S", [row]⟩]⟩
    ofText form.text = .ok form ∧ ofText (form.rename "B").text = .ok (form.rename "B") := by
  intro value element row form
  have hvalue : Json.Fits RowCondition.room value := by
    refine .array ?_
    intro item hitem
    cases List.mem_singleton.mp hitem
    exact .number _
  have hrow : row.IsSound := by
    refine ⟨?_, ?_⟩
    · intro column hcolumn
      cases List.mem_singleton.mp hcolumn
      rfl
    · rintro condition ⟨rfl⟩
      exact hvalue
  have hsound : form.IsSound := by
    refine ⟨rfl, ?_⟩
    intro part hpart other hother
    cases List.mem_singleton.mp hpart
    cases List.mem_singleton.mp hother
    exact hrow
  have hintegral : form.IsIntegral := by
    intro part hpart other hother condition hcondition
    cases List.mem_singleton.mp hpart
    cases List.mem_singleton.mp hother
    cases hcondition
    rfl
  have hread := hsound.ofText_text hintegral
  exact ⟨hread, (ofText_text_of_derived (.rename "B" (.read hread)) hintegral).1⟩

end Form

end FormEditor
