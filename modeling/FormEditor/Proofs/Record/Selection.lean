import Mathlib.Data.List.Induction
import FormEditor.Proofs.Record.Store

/-! Runs of a record store. What a call does is said once, for all calls: it puts a new record at the end, gives
the first record of an id other fields, removes it or selects it, ends the selection, or misses the record that
it names and changes nothing. So a selection is never left behind by its record: from the call that selected
it on, the record was there in every state, and held the values last given to it. -/

namespace FormEditor

theorem RecordId.max_eq_ite (first second : RecordId) :
    max first second = if first ≤ second then second else first := rfl

/-- The larger of two ids is one of them. -/
instance : Std.LawfulOrderMax RecordId where
  max_eq_or first second := by
    rw [RecordId.max_eq_ite]
    by_cases hle : first ≤ second <;> simp [hle]
  max_le_iff first second bound := by
    rw [RecordId.max_eq_ite]
    simp only [UInt64.le_iff_toNat_le]
    split <;> omega

namespace RecordStore

/-- One use of a store. -/
inductive Call where
  | insert (fields : Dictionary Json)
  | update (id : RecordId) (fields : Dictionary Json)
  | replace (record : Record)
  | delete (id : RecordId)
  | select (id : RecordId)
  | clearSelection
  deriving DecidableEq

/-- What a call gives back. -/
inductive Reply where
  | inserted (id : RecordId)
  | done
  | record (record : Record)
  | nothing
  | failed (cause : EditError)
  deriving DecidableEq

namespace Call

/-- The record that has to be there, by its id. -/
def target? : Call → Option RecordId
  | .update id _ | .delete id | .select id => some id
  | .replace record => some record.id
  | .insert _ | .clearSelection => none

/-- The fields that a call gives the record of an id. -/
def given? (id : RecordId) : Call → Option (Dictionary Json)
  | .update other fields => if other = id then some fields else none
  | .replace record => if record.id = id then some record.fields else none
  | _ => none

def inserts : Call → Bool
  | .insert _ => true
  | _ => false

/-- Whether a call may change the sequence of the ids. -/
def movesIds : Call → Bool
  | .insert _ | .delete _ => true
  | _ => false

/-- What is given back where the record with the id is not there. -/
def missed (id : RecordId) : Call → Reply
  | .delete _ => .nothing
  | _ => .failed (.missingTarget .record id.text)

end Call

/-- Whether a call gave back that it found no record. -/
def Reply.isMiss : Reply → Bool
  | .nothing | .failed _ => true
  | _ => false

/-- What a call gives back, and the store after it. -/
def perform (store : RecordStore) : Call → Reply × RecordStore
  | .insert fields => (store.insert fields).map .inserted id
  | .update id fields =>
    match store.update id fields with
    | .ok next => (.done, next)
    | .error cause => (.failed cause, store)
  | .replace record =>
    match store.replace record with
    | .ok next => (.done, next)
    | .error cause => (.failed cause, store)
  | .delete id =>
    match store.delete id with
    | some (record, next) => (.record record, next)
    | none => (.nothing, store)
  | .select id =>
    match store.select id with
    | .ok (record, next) => (.record record, next)
    | .error cause => (.failed cause, store)
  | .clearSelection => (.done, store.clearSelection)

/-- The store after a run. -/
def run (store : RecordStore) (calls : List Call) : RecordStore :=
  calls.foldl (fun store call => (store.perform call).2) store

/-- There is an id after the largest one. -/
def HasRoom (store : RecordStore) : Prop :=
  ∀ id ∈ store.ids, id.toNat < UInt64.size - 1

instance (store : RecordStore) : Decidable store.HasRoom :=
  List.decidableBAll (fun id : RecordId => id.toNat < UInt64.size - 1) store.ids

/-- There is room for every record that is inserted in a run. -/
def HasRoomFor (store : RecordStore) : List Call → Prop
  | [] => True
  | call :: calls => (call.inserts = true → store.HasRoom) ∧ (store.perform call).2.HasRoomFor calls

instance decidableHasRoomFor : (store : RecordStore) → (calls : List Call) → Decidable (store.HasRoomFor calls)
  | _, [] => isTrue trivial
  | store, call :: calls =>
    have := decidableHasRoomFor (store.perform call).2 calls
    inferInstanceAs (Decidable ((call.inserts = true → store.HasRoom) ∧ _))

theorem run_append (store : RecordStore) (before since : List Call) :
    store.run (before ++ since) = (store.run before).run since :=
  List.foldl_append ..

/-! ### What each call does -/

/-- All that a call can do, with what it gives back. -/
inductive Does (store : RecordStore) : Call → Reply → RecordStore → Prop
  | inserted (fields : Dictionary Json) :
      store.Does (.insert fields) (.inserted store.nextId)
        { store with records := store.records ++ [⟨store.nextId, fields⟩] }
  | rewritten {call : Call} {id : RecordId} {fields : Dictionary Json} {records : List Record}
      (htarget : call.target? = some id) (hgiven : call.given? id = some fields)
      (hrewrites : Rewrites id fields store.records records) :
      store.Does call .done { store with records }
  | deleted {earlier later : List Record} {record : Record}
      (hrecords : store.records = earlier ++ record :: later)
      (hfirst : ∀ other ∈ earlier, other.id ≠ record.id) :
      store.Does (.delete record.id) (.record record)
        ⟨earlier ++ later, if store.selectedId = some record.id then none else store.selectedId⟩
  | selected {id : RecordId} {record : Record} (hfound : store.get? id = some record) :
      store.Does (.select id) (.record record) { store with selectedId := some id }
  | cleared : store.Does .clearSelection .done store.clearSelection
  | missed {call : Call} {id : RecordId} (htarget : call.target? = some id) (habsent : id ∉ store.ids) :
      store.Does call (call.missed id) store

variable {store next : RecordStore} {call : Call} {reply : Reply} {id : RecordId}

theorem id_of_get? {record : Record} (hfound : store.get? id = some record) : record.id = id := by
  simpa using List.find?_some hfound

/-- The record of an id is the first one that has it. -/
theorem get?_eq_some_iff {record : Record} :
    store.get? id = some record ↔
      record.id = id ∧ ∃ earlier later, store.records = earlier ++ record :: later ∧
        ∀ other ∈ earlier, other.id ≠ id := by
  simp [get?, List.find?_eq_some_iff_append]

/-- An update rewrites the first record of the id, or there is none. -/
theorem update_cases (store : RecordStore) (id : RecordId) (fields : Dictionary Json) :
    (∃ records, Rewrites id fields store.records records ∧
      store.update id fields = .ok { store with records }) ∨
    (id ∉ store.ids ∧ store.update id fields = .error (.missingTarget .record id.text)) := by
  by_cases hmem : id ∈ store.ids
  · exact Or.inl ⟨_, rewrites_replaceFields hmem fields, if_pos ((isSome_get?_iff id).mpr hmem)⟩
  · exact Or.inr ⟨hmem, if_neg (fun hsome => hmem ((isSome_get?_iff id).mp hsome))⟩

theorem delete_of_get? {record : Record} (hfound : store.get? id = some record) :
    ∃ earlier later, store.records = earlier ++ record :: later ∧
      (∀ other ∈ earlier, other.id ≠ id) ∧
      store.delete id = some (record,
        ⟨earlier ++ later, if store.selectedId = some id then none else store.selectedId⟩) := by
  obtain ⟨hid, earlier, later, hrecords, hearlier⟩ := get?_eq_some_iff.mp hfound
  refine ⟨earlier, later, hrecords, hearlier, ?_⟩
  have herased : store.records.eraseP (·.id = id) = earlier ++ later := by
    rw [hrecords, List.eraseP_append_right _ (by simpa using hearlier),
      List.eraseP_cons_of_pos (by simpa using hid)]
  rw [delete, hfound, herased]
  rfl

/-- **What a call does.** -/
theorem does_perform (store : RecordStore) (call : Call) :
    store.Does call (store.perform call).1 (store.perform call).2 := by
  cases call with
  | insert fields => exact .inserted fields
  | update id fields =>
      rcases store.update_cases id fields with ⟨records, hrewrites, hupdate⟩ | ⟨habsent, hupdate⟩
      · simp only [perform, hupdate]
        exact .rewritten rfl (if_pos rfl) hrewrites
      · simp only [perform, hupdate]
        exact .missed rfl habsent
  | replace record =>
      rcases store.update_cases record.id record.fields with ⟨records, hrewrites, hupdate⟩ | ⟨habsent, hupdate⟩
      · simp only [perform, replace, hupdate]
        exact .rewritten rfl (if_pos rfl) hrewrites
      · simp only [perform, replace, hupdate]
        exact .missed rfl habsent
  | delete id =>
      cases hfound : store.get? id with
      | none =>
          simp only [perform, delete, hfound, Option.map_none]
          exact .missed rfl (get?_eq_none_iff.mp hfound)
      | some record =>
          obtain ⟨earlier, later, hrecords, hfirst, hdelete⟩ := delete_of_get? hfound
          simp only [perform, hdelete]
          obtain rfl := id_of_get? hfound
          exact .deleted hrecords hfirst
  | select id =>
      cases hfound : store.get? id with
      | none =>
          simp only [perform, select, hfound]
          exact .missed rfl (get?_eq_none_iff.mp hfound)
      | some record =>
          simp only [perform, select, hfound]
          exact .selected hfound
  | clearSelection => exact .cleared

/-! ### Ids -/

/-- The id of a new record is one more than the largest. -/
theorem toNat_nextId (hroom : store.HasRoom) {largest : RecordId} (hmax : store.ids.max? = some largest) :
    store.nextId.toNat = largest.toNat + 1 := by
  have hroom : largest.toNat < 2 ^ 64 - 1 := hroom largest (List.max?_eq_some_iff.mp hmax).1
  have hbelow : largest.toNat + 1 < 2 ^ 64 := by omega
  rw [nextId, hmax]
  show (largest + 1).toNat = largest.toNat + 1
  rw [UInt64.toNat_add, Nat.mod_eq_of_lt]
  · rfl
  · exact hbelow

/-- So it comes after all others. -/
theorem lt_nextId (hroom : store.HasRoom) (hmem : id ∈ store.ids) : id < store.nextId := by
  cases hmax : store.ids.max? with
  | none =>
      rw [List.max?_eq_none_iff.mp hmax] at hmem
      cases hmem
  | some largest =>
      have hle := (List.max?_eq_some_iff.mp hmax).2 id hmem
      have hbelow : id.toNat ≤ largest.toNat := UInt64.le_iff_toNat_le.mp hle
      have hnext := toNat_nextId hroom hmax
      exact UInt64.lt_iff_toNat_lt.mpr (by omega)

theorem Rewrites.ids_eq {fields : Dictionary Json} {records rewritten : List Record}
    (hrewrites : Rewrites id fields records rewritten) :
    rewritten.map (·.id) = records.map (·.id) := by
  obtain ⟨earlier, old, later, rfl, hold, -, rfl⟩ := hrewrites
  simp [hold]

/-- Only insertions and deletions change the ids. -/
theorem Does.ids_eq (hdoes : store.Does call reply next) (hmoves : call.movesIds = false) :
    next.ids = store.ids := by
  cases hdoes with
  | inserted | deleted => cases hmoves
  | rewritten _ _ hrewrites => exact hrewrites.ids_eq
  | selected | cleared | missed => rfl

/-- Ids that are distinct stay so. -/
theorem Does.nodup_ids (hdoes : store.Does call reply next) (hroom : call.inserts = true → store.HasRoom)
    (hnodup : store.ids.Nodup) : next.ids.Nodup := by
  cases hdoes with
  | inserted fields =>
      have hnew : ∀ id ∈ store.ids, id ≠ store.nextId := fun id hmem =>
        UInt64.ne_of_lt (lt_nextId (hroom rfl) hmem)
      simp only [ids, List.map_append, List.map_cons, List.map_nil]
      refine List.nodup_append.mpr ⟨hnodup, List.pairwise_singleton _ _, ?_⟩
      intro id hmem other hother
      rw [List.mem_singleton.mp hother]
      exact hnew id hmem
  | @deleted earlier later record hrecords =>
      have hsublist : (earlier ++ later).Sublist (earlier ++ record :: later) :=
        (List.sublist_cons_self record later).append_left earlier
      rw [ids, hrecords] at hnodup
      change ((earlier ++ later).map (·.id)).Nodup
      exact hnodup.sublist (hsublist.map _)
  | rewritten _ _ hrewrites =>
      rw [ids, hrewrites.ids_eq]
      exact hnodup
  | selected | cleared | missed => exact hnodup

theorem nodup_ids_run {calls : List Call} : ∀ {store : RecordStore}, store.HasRoomFor calls →
    store.ids.Nodup → (store.run calls).ids.Nodup := by
  induction calls with
  | nil => exact fun _ hnodup => hnodup
  | cons call calls ih =>
      intro store hroom hnodup
      exact ih hroom.2 ((does_perform store call).nodup_ids hroom.1 hnodup)

/-! ### The selected record -/

theorem Call.given?_of_ne {other : RecordId} (htarget : call.target? = some other) (hne : other ≠ id) :
    call.given? id = none := by
  cases call with
  | update | replace =>
      cases htarget
      exact if_neg hne
  | insert | delete | select | clearSelection => rfl

/-- A record that is there keeps its place before new ones. -/
theorem get?_append {record : Record} (hfound : store.get? id = some record) (records : List Record) :
    get? { store with records := store.records ++ records } id = some record := by
  rw [get?] at hfound ⊢
  rw [List.find?_append, hfound, Option.some_or]

theorem Rewrites.get?_eq {fields : Dictionary Json} {records : List Record}
    (hrewrites : Rewrites id fields store.records records) :
    get? { store with records } id = some ⟨id, fields⟩ := by
  obtain ⟨earlier, _, later, -, -, hearlier, hrecords⟩ := hrewrites
  exact get?_eq_some_iff.mpr ⟨rfl, earlier, later, hrecords, hearlier⟩

theorem Rewrites.get?_eq_of_ne {other : RecordId} {fields : Dictionary Json} {records : List Record}
    (hrewrites : Rewrites other fields store.records records) (hne : other ≠ id) :
    get? { store with records } id = store.get? id := by
  obtain ⟨earlier, old, later, hbefore, rfl, -, hafter⟩ := hrewrites
  simp [get?, hbefore, hafter, List.find?_append, hne]

/-- An id is selected by a call, or it was selected before and its record is still there. -/
theorem Does.selectedId_cases (hdoes : store.Does call reply next) (hselected : next.selectedId = some id) :
    (call = .select id ∧ next = { store with selectedId := some id } ∧ id ∈ store.ids) ∨
    (store.selectedId = some id ∧ ∀ fields, store.get? id = some ⟨id, fields⟩ →
      next.get? id = some ⟨id, (call.given? id).getD fields⟩) := by
  cases hdoes with
  | inserted => exact Or.inr ⟨hselected, fun _ hfound => get?_append hfound _⟩
  | @rewritten _ other given records htarget hgiven hrewrites =>
      refine Or.inr ⟨hselected, fun fields hfound => ?_⟩
      by_cases hid : other = id
      · subst hid
        rw [hgiven, Option.getD_some]
        exact hrewrites.get?_eq
      · rw [Call.given?_of_ne htarget hid, hrewrites.get?_eq_of_ne hid]
        exact hfound
  | @deleted earlier later record hrecords =>
      by_cases hid : store.selectedId = some record.id
      · rw [if_pos hid] at hselected
        cases hselected
      · rw [if_neg hid] at hselected
        have hne : record.id ≠ id := fun heq => hid (heq ▸ hselected)
        refine Or.inr ⟨hselected, fun fields hfound => ?_⟩
        change get? _ id = some ⟨id, fields⟩
        simpa [get?, hrecords, List.find?_append, hne] using hfound
  | @selected _ record hfound =>
      cases hselected
      have hmem := (isSome_get?_iff id).mp (Option.isSome_of_eq_some hfound)
      exact Or.inl ⟨rfl, rfl, hmem⟩
  | cleared => cases hselected
  | missed htarget habsent =>
      refine Or.inr ⟨hselected, fun fields hfound => ?_⟩
      have hmem := (isSome_get?_iff id).mp (Option.isSome_of_eq_some hfound)
      rw [Call.given?_of_ne htarget (fun heq => habsent (heq ▸ hmem))]
      exact hfound

/-- The fields that the record of an id has after a number of calls. -/
def lastGiven (id : RecordId) (fields : Dictionary Json) (calls : List Call) : Dictionary Json :=
  calls.foldl (fun fields call => (call.given? id).getD fields) fields

/-- A record that is there is selected, and after each of the calls that follow it is still selected and there,
with the fields that it was given last. -/
def HoldsSelection (store : RecordStore) (id : RecordId) (since : List Call) : Prop :=
  ∃ fields, store.get? id = some ⟨id, fields⟩ ∧ ∀ done, done <+: since →
    (store.run (.select id :: done)).selectedId = some id ∧
    (store.run (.select id :: done)).selected = some ⟨id, lastGiven id fields done⟩

theorem run_select (hmem : id ∈ store.ids) : store.run [.select id] = { store with selectedId := some id } := by
  obtain ⟨record, hfound⟩ := Option.isSome_iff_exists.mp ((isSome_get?_iff id).mpr hmem)
  simp only [run, List.foldl_cons, List.foldl_nil, perform, select, hfound]
  rfl

theorem holdsSelection_nil (hmem : id ∈ store.ids) : store.HoldsSelection id [] := by
  obtain ⟨record, hfound⟩ := Option.isSome_iff_exists.mp ((isSome_get?_iff id).mpr hmem)
  obtain rfl := id_of_get? hfound
  refine ⟨record.fields, hfound, fun done hdone => ?_⟩
  rw [List.prefix_nil.mp hdone, run_select hmem]
  exact ⟨rfl, hfound⟩

/-- A call after which the id is still selected goes on holding its record. -/
theorem HoldsSelection.snoc {since : List Call} (hholds : store.HoldsSelection id since)
    (hselected : (store.run (.select id :: (since ++ [call]))).selectedId = some id) :
    store.HoldsSelection id (since ++ [call]) := by
  obtain ⟨fields, hfound, hsince⟩ := hholds
  refine ⟨fields, hfound, fun done hdone => ?_⟩
  rcases List.prefix_concat_iff.mp hdone with rfl | hearlier
  · refine ⟨hselected, ?_⟩
    obtain ⟨hbefore, hrecord⟩ := hsince since (List.prefix_refl since)
    rw [selected, hbefore, Option.bind_some] at hrecord
    rw [selected, hselected, Option.bind_some]
    rw [← List.cons_append, run_append] at hselected ⊢
    have hlast : lastGiven id fields (since ++ [call]) = (call.given? id).getD (lastGiven id fields since) := by
      rw [lastGiven, List.foldl_append]
      rfl
    rw [hlast]
    rcases (does_perform (store.run (.select id :: since)) call).selectedId_cases hselected with
      ⟨rfl, hnext, -⟩ | ⟨-, hkept⟩
    · change (perform _ _).2.get? id = _
      rw [hnext]
      exact hrecord
    · exact hkept _ hrecord
  · exact hsince done hearlier

/-- An id that is selected was selected by a call of the run, and its record has been there ever since. -/
theorem exists_holdsSelection (hnone : store.selectedId = none) (calls : List Call) :
    ∀ id, (store.run calls).selectedId = some id → ∃ before since,
      calls = before ++ .select id :: since ∧ (store.run before).HoldsSelection id since := by
  -- the last call is taken off: it selected the id, or the id was selected before it
  induction calls using List.reverseRecOn with
  | nil =>
      intro id hselected
      cases hnone.symm.trans hselected
  | append_singleton calls call ih =>
      intro id hselected
      have hstep : ((store.run calls).perform call).2.selectedId = some id := by
        rw [run_append] at hselected
        exact hselected
      rcases (does_perform (store.run calls) call).selectedId_cases hstep with ⟨rfl, -, hmem⟩ | ⟨hbefore, -⟩
      · exact ⟨calls, [], rfl, holdsSelection_nil hmem⟩
      · obtain ⟨before, since, rfl, hholds⟩ := ih id hbefore
        refine ⟨before, since ++ [call], by simp, hholds.snoc ?_⟩
        rw [List.append_assoc, List.cons_append, run_append] at hselected
        exact hselected

/-! ### Calls that miss -/

/-- A call misses if and only if the record that it names is not there. -/
theorem Does.isMiss_iff (hdoes : store.Does call reply next) :
    reply.isMiss = true ↔ ∃ id, call.target? = some id ∧ id ∉ store.ids := by
  cases hdoes with
  | inserted | cleared => simp [Reply.isMiss, Call.target?]
  | rewritten htarget _ hrewrites =>
      obtain ⟨earlier, old, later, hrecords, hold, -, -⟩ := hrewrites
      simp [Reply.isMiss, htarget, ids, hrecords, hold]
  | deleted hrecords => simp [Reply.isMiss, Call.target?, ids, hrecords]
  | selected hfound =>
      have hmem := (isSome_get?_iff _).mp (Option.isSome_of_eq_some hfound)
      simp [Reply.isMiss, Call.target?, hmem]
  | @missed _ id htarget habsent =>
      refine iff_of_true ?_ ⟨id, htarget, habsent⟩
      cases call <;> rfl

theorem Does.eq_of_isMiss (hdoes : store.Does call reply next) (hmiss : reply.isMiss = true) : next = store := by
  cases hdoes with
  | missed => rfl
  | inserted | rewritten | deleted | selected | cleared => cases hmiss

/-- A deletion takes the first record of the id out. -/
theorem delete_splits {record : Record} (hdelete : store.delete id = some (record, next)) :
    ∃ earlier later, store.records = earlier ++ record :: later ∧ record.id = id ∧
      (∀ other ∈ earlier, other.id ≠ id) ∧ next.records = earlier ++ later ∧
      next.selectedId = if store.selectedId = some id then none else store.selectedId := by
  have hfound : store.get? id = some record := by
    obtain ⟨found, hfound, hnext⟩ := Option.map_eq_some_iff.mp hdelete
    cases hnext
    exact hfound
  obtain ⟨earlier, later, hrecords, hfirst, hdeleted⟩ := delete_of_get? hfound
  cases hdelete.symm.trans hdeleted
  exact ⟨earlier, later, hrecords, id_of_get? hfound, hfirst, rfl, rfl⟩

/-- **A selection stays with its record.** Take any run on any records, in which there is an id after the largest
one whenever a record is inserted. If an id is selected after it, a call of the run selected it, and after every
call since then it was selected and its record was there, with the fields that it was given last. Ids that
were distinct at first are distinct. An insertion makes an id that is larger than all others and puts the record
at the end; updates, replacements and selections keep the sequence of the ids; a deletion takes out the first
record of the id and nothing else, and ends the selection only of that id. A call misses if and only if the
record that it names is not there, and then it changes nothing. -/
theorem selection_stays_with_its_record (records : List Record) (calls : List Call)
    (hroom : (ofList records).HasRoomFor calls) :
    let store := (ofList records).run calls
    (∀ id, store.selectedId = some id → store.selected.isSome = true ∧ ∃ before since,
      calls = before ++ .select id :: since ∧ ((ofList records).run before).HoldsSelection id since) ∧
    ((records.map (·.id)).Nodup → store.ids.Nodup) ∧
    (∀ fields, store.HasRoom → (∀ id ∈ store.ids, id < (store.insert fields).1) ∧
      (store.insert fields).2 = { store with records := store.records ++ [⟨(store.insert fields).1, fields⟩] }) ∧
    (∀ call, call.movesIds = false → (store.perform call).2.ids = store.ids) ∧
    (∀ id record next, store.delete id = some (record, next) →
      ∃ earlier later, store.records = earlier ++ record :: later ∧ record.id = id ∧
        (∀ other ∈ earlier, other.id ≠ id) ∧ next.records = earlier ++ later ∧
        next.selectedId = if store.selectedId = some id then none else store.selectedId) ∧
    ∀ call, ((store.perform call).1.isMiss = true ↔ ∃ id, call.target? = some id ∧ id ∉ store.ids) ∧
      ((store.perform call).1.isMiss = true → (store.perform call).2 = store) := by
  intro store
  refine ⟨?_, nodup_ids_run hroom, ?_, ?_, fun _ _ _ => delete_splits, ?_⟩
  · intro id hselected
    obtain ⟨before, since, rfl, hholds⟩ := exists_holdsSelection rfl calls id hselected
    refine ⟨?_, before, since, rfl, hholds⟩
    obtain ⟨fields, -, hsince⟩ := hholds
    have hrecord := (hsince since (List.prefix_refl since)).2
    rw [← run_append] at hrecord
    exact Option.isSome_of_eq_some hrecord
  · exact fun fields hroom => ⟨fun id hmem => lt_nextId hroom hmem, rfl⟩
  · exact fun call hmoves => (does_perform store call).ids_eq hmoves
  · exact fun call => ⟨(does_perform store call).isMiss_iff, (does_perform store call).eq_of_isMiss⟩

/-- The id of a deleted record comes back with a new record, which is selected in its turn. -/
theorem returned_id_selected :
    let fields : Dictionary Json := .ofList [("a", .bool true)]
    let calls : List Call := [.select 2, .delete 2, .insert .empty, .select 2, .update 2 fields, .delete 1]
    let store := (ofList [⟨1, .empty⟩, ⟨2, .empty⟩]).run calls
    (ofList [⟨1, .empty⟩, ⟨2, .empty⟩]).HasRoomFor calls ∧ store.records = [⟨2, fields⟩] ∧
      store.selected.isSome = true ∧ store.ids.Nodup := by
  intro fields calls store
  have hroom : (ofList [⟨1, .empty⟩, ⟨2, .empty⟩]).HasRoomFor calls := by decide +kernel
  obtain ⟨hselected, hdistinct, -⟩ := selection_stays_with_its_record [⟨1, .empty⟩, ⟨2, .empty⟩] calls hroom
  exact ⟨hroom, by decide +kernel, (hselected 2 (by decide +kernel)).1, hdistinct (by decide)⟩

end RecordStore

end FormEditor
