import FormEditor.Record.Store

/-! The selection of a record store. A selected id keeps naming a record that is there: records are
given other fields in place, a new record comes after the others, and the selection goes with the
record that is deleted. What a record holds under a name changes with the record alone. -/

namespace FormEditor.RecordStore

variable {store : RecordStore}

theorem isSome_get?_iff (id : RecordId) : (store.get? id).isSome ↔ id ∈ store.ids := by
  simp [get?, ids, List.find?_isSome]

theorem get?_eq_none_iff {id : RecordId} : store.get? id = none ↔ id ∉ store.ids := by
  rw [← isSome_get?_iff, Option.not_isSome_iff_eq_none]

@[simp] theorem map_id_replaceFields (id : RecordId) (fields : Dictionary Json) (records : List Record) :
    (replaceFields id fields records).map (·.id) = records.map (·.id) := by
  induction records with
  | nil => rfl
  | cons record records ih =>
      rw [replaceFields]
      split
      · rfl
      · rw [List.map_cons, List.map_cons, ih]

/-- If an id is selected, it names a record. -/
def SelectionPresent (store : RecordStore) : Prop :=
  ∀ id, store.selectedId = some id → id ∈ store.ids

theorem selectionPresent_ofList (records : List Record) : (ofList records).SelectionPresent :=
  nofun

theorem selected_of_none (hnone : store.selectedId = none) : store.selected = none := by
  rw [selected, hnone, Option.bind_none]

theorem isSome_selected (hpresent : store.SelectionPresent) {id : RecordId}
    (hselected : store.selectedId = some id) : store.selected.isSome := by
  rw [selected, hselected, Option.bind_some]
  exact (isSome_get?_iff id).mpr (hpresent id hselected)

theorem id_of_selected {id : RecordId} {record : Record} (hselected : store.selectedId = some id)
    (hrecord : store.selected = some record) : record.id = id := by
  rw [selected, hselected, Option.bind_some, get?] at hrecord
  simpa using List.find?_some hrecord

/-! ### New records -/

theorem SelectionPresent.insert (hpresent : store.SelectionPresent) (fields : Dictionary Json) :
    (store.insert fields).2.SelectionPresent := by
  intro id hselected
  have hmem := hpresent id hselected
  simp only [ids, RecordStore.insert, List.map_append, List.mem_append] at hmem ⊢
  exact Or.inl hmem

theorem selected_insert (hpresent : store.SelectionPresent) (fields : Dictionary Json) :
    (store.insert fields).2.selected = store.selected := by
  cases hselected : store.selectedId with
  | none =>
      rw [selected_of_none hselected]
      exact selected_of_none hselected
  | some id =>
      obtain ⟨record, hrecord⟩ := Option.isSome_iff_exists.mp (isSome_selected hpresent hselected)
      have hfind : store.records.find? (·.id = id) = some record := by
        simpa only [selected, hselected, Option.bind_some, get?] using hrecord
      rw [hrecord]
      simp only [selected, RecordStore.insert, hselected, Option.bind_some, get?, List.find?_append, hfind,
        Option.some_or]

/-! ### Other fields -/

theorem update_eq_ok {id : RecordId} {fields : Dictionary Json} {next : RecordStore}
    (hupdate : store.update id fields = .ok next) :
    id ∈ store.ids ∧ next = { store with records := replaceFields id fields store.records } := by
  unfold update at hupdate
  split at hupdate
  · rename_i hsome
    cases hupdate
    exact ⟨(isSome_get?_iff id).mp hsome, rfl⟩
  · cases hupdate

theorem update_of_mem {id : RecordId} (hmem : id ∈ store.ids) (fields : Dictionary Json) :
    ∃ next, store.update id fields = .ok next :=
  ⟨_, if_pos ((isSome_get?_iff id).mpr hmem)⟩

theorem update_of_not_mem {id : RecordId} (hmem : id ∉ store.ids) (fields : Dictionary Json) :
    ∃ cause, store.update id fields = .error cause :=
  ⟨_, if_neg (fun hsome => hmem ((isSome_get?_iff id).mp hsome))⟩

theorem replaceFields_eq_self {id : RecordId} {record : Record} {records : List Record}
    (hrecord : records.find? (·.id = id) = some record) : replaceFields id record.fields records = records := by
  induction records with
  | nil => rfl
  | cons first records ih =>
      rw [replaceFields]
      by_cases hid : first.id = id
      · rw [List.find?_cons_of_pos (by simpa using hid)] at hrecord
        cases hrecord
        rw [if_pos hid]
      · rw [List.find?_cons_of_neg (by simpa using hid)] at hrecord
        rw [if_neg hid, ih hrecord]

/-- A record that is given the fields that it has leaves the store as it is. -/
theorem update_of_get? {id : RecordId} {record : Record} (hrecord : store.get? id = some record) :
    store.update id record.fields = .ok store := by
  rw [update, hrecord, replaceFields_eq_self hrecord]
  rfl

theorem SelectionPresent.update (hpresent : store.SelectionPresent) {id : RecordId}
    {fields : Dictionary Json} {next : RecordStore} (hupdate : store.update id fields = .ok next) :
    next.SelectionPresent := by
  obtain ⟨-, rfl⟩ := update_eq_ok hupdate
  intro other hselected
  have hmem := hpresent other hselected
  simpa only [ids, map_id_replaceFields] using hmem

/-- A record of the updated list is an old one, or has the new fields. -/
theorem mem_replaceFields {id : RecordId} {fields : Dictionary Json} {records : List Record}
    {record : Record} (hmem : record ∈ replaceFields id fields records) :
    record ∈ records ∨ record.fields = fields := by
  induction records with
  | nil => cases hmem
  | cons first records ih =>
      rw [replaceFields] at hmem
      split at hmem
      · rcases List.mem_cons.mp hmem with rfl | hlater
        · exact Or.inr rfl
        · exact Or.inl (List.mem_cons_of_mem _ hlater)
      · rcases List.mem_cons.mp hmem with rfl | hlater
        · exact Or.inl List.mem_cons_self
        · exact (ih hlater).imp_left (List.mem_cons_of_mem _)

/-- A list of records comes from another one by giving the first record of an id other fields. -/
def Rewrites (id : RecordId) (fields : Dictionary Json) (records next : List Record) : Prop :=
  ∃ earlier old later, records = earlier ++ old :: later ∧ old.id = id ∧
    (∀ record ∈ earlier, record.id ≠ id) ∧ next = earlier ++ ⟨id, fields⟩ :: later

theorem rewrites_replaceFields {id : RecordId} {records : List Record} (hmem : id ∈ records.map (·.id))
    (fields : Dictionary Json) : Rewrites id fields records (replaceFields id fields records) := by
  induction records with
  | nil => cases hmem
  | cons first records ih =>
      rw [replaceFields]
      by_cases hid : first.id = id
      · rw [if_pos hid]
        exact ⟨[], first, records, rfl, hid, List.forall_mem_nil _, by rw [← hid]; rfl⟩
      · rw [if_neg hid]
        have hlater : id ∈ records.map (·.id) :=
          (List.mem_cons.mp hmem).resolve_left (fun heq => hid heq.symm)
        obtain ⟨earlier, old, later, hrecords, hold, hearlier, hnext⟩ := ih hlater
        refine ⟨first :: earlier, old, later, ?_, hold, List.forall_mem_cons.mpr ⟨hid, hearlier⟩, ?_⟩
        · rw [hrecords, List.cons_append]
        · rw [hnext, List.cons_append]

/-- An update rewrites one record and keeps the ids and the selection. -/
theorem rewrites_update {id : RecordId} {fields : Dictionary Json} {next : RecordStore}
    (hupdate : store.update id fields = .ok next) :
    Rewrites id fields store.records next.records ∧ next.ids = store.ids ∧
      next.selectedId = store.selectedId := by
  obtain ⟨hmem, rfl⟩ := update_eq_ok hupdate
  exact ⟨rewrites_replaceFields hmem fields, map_id_replaceFields id fields store.records, rfl⟩

/-! ### Deletion -/

theorem find?_eraseP_of_ne {id other : RecordId} (hne : other ≠ id) (records : List Record) :
    (records.eraseP (·.id = id)).find? (·.id = other) = records.find? (·.id = other) := by
  induction records with
  | nil => rfl
  | cons record records ih =>
      by_cases hid : record.id = id
      · have hother : ¬record.id = other := fun heq => hne (heq.symm.trans hid)
        rw [List.eraseP_cons_of_pos (by simpa using hid), List.find?_cons_of_neg (by simpa using hother)]
      · rw [List.eraseP_cons_of_neg (by simpa using hid), List.find?_cons, List.find?_cons, ih]

/-- A deletion takes the selection away or leaves the selected record as it is. -/
theorem delete_eq_some {id : RecordId} {record : Record} {next : RecordStore}
    (hdelete : store.delete id = some (record, next)) :
    (store.selectedId = some id ∧ next.selectedId = none) ∨
    (store.selectedId ≠ some id ∧ next.selectedId = store.selectedId ∧ next.selected = store.selected) := by
  unfold delete at hdelete
  obtain ⟨_, -, hnext⟩ := Option.map_eq_some_iff.mp hdelete
  cases hnext
  by_cases hselected : store.selectedId = some id
  · exact Or.inl ⟨hselected, if_pos hselected⟩
  · refine Or.inr ⟨hselected, if_neg hselected, ?_⟩
    simp only [selected, if_neg hselected]
    cases hother : store.selectedId with
    | none => rfl
    | some other =>
        have hne : other ≠ id := fun heq => hselected (hother.trans (congrArg some heq))
        exact find?_eraseP_of_ne hne store.records

theorem SelectionPresent.delete (hpresent : store.SelectionPresent) {id : RecordId} {record : Record}
    {next : RecordStore} (hdelete : store.delete id = some (record, next)) : next.SelectionPresent := by
  intro other hother
  rcases delete_eq_some hdelete with ⟨-, hnone⟩ | ⟨-, hkept, hselected⟩
  · rw [hnone] at hother
    cases hother
  · have hsome := isSome_selected hpresent (hkept.symm.trans hother)
    rw [← hselected, selected, hother, Option.bind_some] at hsome
    exact (isSome_get?_iff other).mp hsome

/-! ### Selection -/

theorem select_eq_ok {id : RecordId} {record : Record} {next : RecordStore}
    (hselect : store.select id = .ok (record, next)) :
    store.get? id = some record ∧ next = { store with selectedId := some id } := by
  unfold select at hselect
  split at hselect
  · rename_i found hfound
    cases hselect
    exact ⟨hfound, rfl⟩
  · cases hselect

theorem selectionPresent_select {id : RecordId} {record : Record} {next : RecordStore}
    (hselect : store.select id = .ok (record, next)) : next.SelectionPresent := by
  obtain ⟨hfound, rfl⟩ := select_eq_ok hselect
  rintro other ⟨rfl⟩
  exact (isSome_get?_iff _).mp (Option.isSome_iff_exists.mpr ⟨record, hfound⟩)

/-! ### Values -/

/-- The value that the first record with an id has under a name. -/
def value? (store : RecordStore) (id : RecordId) (name : String) : Option Json :=
  (store.get? id).bind (·.fields.get? name)

theorem value?_of_selectedId {id : RecordId} (hselected : store.selectedId = some id) (name : String) :
    store.value? id name = store.selected.bind (·.fields.get? name) := by
  rw [selected, hselected, value?, Option.bind_some]

theorem find?_replaceFields_self (id : RecordId) (fields : Dictionary Json) (records : List Record) :
    (replaceFields id fields records).find? (·.id = id) =
      (records.find? (·.id = id)).map ({ · with fields }) := by
  induction records with
  | nil => rfl
  | cons record records ih =>
      rw [replaceFields]
      by_cases hid : record.id = id
      · rw [if_pos hid, List.find?_cons_of_pos (by simpa using hid),
          List.find?_cons_of_pos (by simpa using hid), Option.map_some]
      · rw [if_neg hid, List.find?_cons_of_neg (by simpa using hid),
          List.find?_cons_of_neg (by simpa using hid), ih]

theorem find?_replaceFields_of_ne {id other : RecordId} (hne : other ≠ id) (fields : Dictionary Json)
    (records : List Record) :
    (replaceFields id fields records).find? (·.id = other) = records.find? (·.id = other) := by
  induction records with
  | nil => rfl
  | cons record records ih =>
      rw [replaceFields]
      by_cases hid : record.id = id
      · have hother : ¬record.id = other := fun heq => hne (heq.symm.trans hid)
        rw [if_pos hid, List.find?_cons_of_neg (by simpa using hother),
          List.find?_cons_of_neg (by simpa using hother)]
      · rw [if_neg hid, List.find?_cons, List.find?_cons, ih]

/-- A record that is updated has the new values. -/
theorem value?_update {id : RecordId} {fields : Dictionary Json} {next : RecordStore}
    (hupdate : store.update id fields = .ok next) (name : String) :
    next.value? id name = fields.get? name := by
  obtain ⟨hmem, rfl⟩ := update_eq_ok hupdate
  obtain ⟨record, hrecord⟩ := Option.isSome_iff_exists.mp ((isSome_get?_iff id).mpr hmem)
  rw [get?] at hrecord
  rw [value?, get?, find?_replaceFields_self, hrecord, Option.map_some, Option.bind_some]

/-- The other records keep theirs. -/
theorem value?_update_of_ne {id other : RecordId} {fields : Dictionary Json} {next : RecordStore}
    (hupdate : store.update id fields = .ok next) (hne : other ≠ id) (name : String) :
    next.value? other name = store.value? other name := by
  obtain ⟨-, rfl⟩ := update_eq_ok hupdate
  rw [value?, get?, find?_replaceFields_of_ne hne, value?, get?]

theorem value?_delete {id other : RecordId} {record : Record} {next : RecordStore}
    (hdelete : store.delete id = some (record, next)) (hselected : next.selectedId = some other) :
    store.selectedId = some other ∧ ∀ name, next.value? other name = store.value? other name := by
  rcases delete_eq_some hdelete with ⟨-, hnone⟩ | ⟨-, hkept, hsame⟩
  · cases hnone.symm.trans hselected
  · have hbefore := hkept.symm.trans hselected
    refine ⟨hbefore, fun name => ?_⟩
    rw [value?_of_selectedId hselected, value?_of_selectedId hbefore, hsame]

end FormEditor.RecordStore
