import FormEditor.Proofs.Json.Ensures
import FormEditor.Proofs.Json.Shape
import FormEditor.Record.Basic

/-! Records that are read back from their text. In the text of a record the id stands among the values,
under the name `id`. A record that was read has no value of that name; a record that has one is written with
two members of the name and cannot be read back. Every other one can, if its values are modest: what is read
from a text that was accepted is written and read again as the same record. -/

namespace FormEditor

/-- All values of a dictionary are free-form. -/
def Dictionary.IsFreeForm (fields : Dictionary Json) : Prop :=
  ∀ entry ∈ fields.entries, entry.2.IsFreeForm

theorem Dictionary.isFreeForm_empty : (empty : Dictionary Json).IsFreeForm :=
  fun _ hentry => absurd hentry List.not_mem_nil

theorem Dictionary.IsFreeForm.insert {fields : Dictionary Json} (hfree : fields.IsFreeForm) (name : String)
    {value : Json} (hvalue : value.IsFreeForm) : (fields.insert name value).IsFreeForm :=
  forall_mem_insert hfree name hvalue

namespace Record

open Json (Decoder Fits Node memberNodes)

/-- The values of a record are free-form. -/
def IsFreeForm (record : Record) : Prop :=
  record.fields.IsFreeForm

/-- The numbers in a record are integers. -/
def IsIntegral (record : Record) : Prop :=
  ∀ entry ∈ record.fields.entries, entry.2.isIntegral

/-- The values of a record are nested less than so many levels. -/
def NestsBelow (levels : Nat) (record : Record) : Prop :=
  ∀ entry ∈ record.fields.entries, entry.2.nesting < levels

/-- The values of a record have room in a record that stands inside so many containers. -/
def FitsInside (outer : Nat) (record : Record) : Prop :=
  ∀ entry ∈ record.fields.entries, Fits (Node.maxDepth - (outer + 1)) entry.2

/-- No value of a record has the name of the id. -/
def LeavesId (record : Record) : Prop :=
  record.fields.get? "id" = none

theorem FitsInside.isFreeForm {outer : Nat} {record : Record} (hfits : record.FitsInside outer) :
    record.IsFreeForm :=
  fun entry hentry => ⟨_, hfits entry hentry⟩

/-- The record itself is one more container around its values. -/
theorem IsFreeForm.fitsInside_iff {outer : Nat} (houter : outer < Node.maxDepth) {record : Record}
    (hfree : record.IsFreeForm) : record.FitsInside outer ↔ record.NestsBelow (Node.maxDepth - outer) := by
  refine forall₂_congr fun entry hentry => ?_
  have hroom : entry.2.nesting < Node.maxDepth - outer ↔ entry.2.nesting ≤ Node.maxDepth - (outer + 1) := by omega
  rw [hroom]
  exact ⟨Fits.nesting_le, (hfree entry hentry).fits⟩

/-! ### What was read -/

theorem ofMembers_ensures {outer : Nat} {closed : Bool} (members : List (Option String × Node)) :
    ∀ {id : Option RecordId} {fields : Dictionary Json} {record : Record},
      (∀ entry ∈ fields.entries, Fits (Node.maxDepth - (outer + 1)) entry.2) → fields.get? "id" = none →
      ofMembers outer closed id fields members = .ok record → record.FitsInside outer ∧ record.LeavesId := by
  induction members with
  | nil =>
      intro id fields record hfits hleaves hread
      unfold ofMembers at hread
      split at hread
      · cases id with
        | none => cases hread
        | some id =>
            cases hread
            exact ⟨hfits, hleaves⟩
      · cases hread
  | cons member members ih =>
      intro id fields record hfits hleaves hread
      obtain ⟨key, node⟩ := member
      unfold ofMembers at hread
      cases key with
      | none => cases hread
      | some name =>
          simp only at hread
          split at hread
          · split at hread
            · cases hread
            · obtain ⟨word, -, hread⟩ := eq_ok_of_bind hread
              exact ih hfits hleaves hread
          · rename_i hname
            obtain ⟨value, hvalue, hread⟩ := eq_ok_of_bind hread
            refine ih (Dictionary.forall_mem_insert hfits name (Json.fits_of_json hvalue)) ?_ hread
            rw [Dictionary.get?_insert, if_neg hname]
            exact hleaves

/-- A record that is read fits where it stands and has no value of the name `id`. -/
theorem ensures_decoder (outer : Nat) :
    (decoder outer).Ensures fun record => record.FitsInside outer ∧ record.LeavesId := by
  intro node record hread
  unfold decoder at hread
  split at hread
  · exact ofMembers_ensures _ (fun _ hentry => absurd hentry List.not_mem_nil) rfl hread
  · cases hread

theorem fitsInside_of_ofText {text : String} {record : Record} (hread : ofText text = .ok record) :
    record.FitsInside 0 ∧ record.LeavesId :=
  Json.decodeText_ensures (ensures_decoder 0) hread

theorem isFreeForm_of_ofText {text : String} {record : Record} (hread : ofText text = .ok record) :
    record.IsFreeForm :=
  (fitsInside_of_ofText hread).1.isFreeForm

theorem isFreeForm_of_listOfText {text : String} {records : List Record}
    (hread : listOfText text = .ok records) : ∀ record ∈ records, record.IsFreeForm :=
  fun record hrecord =>
    (Json.decodeText_ensures (Json.Node.ensures_list (ensures_decoder 1)) hread record hrecord).1.isFreeForm

/-- Of the members of an object that is read as a record, exactly one has the name of the id, be it one that was
read before or one that is still to come. -/
theorem countP_id_of_ofMembers {outer : Nat} {closed : Bool} (members : List (Option String × Node)) :
    ∀ {id : Option RecordId} {fields : Dictionary Json} {record : Record},
      ofMembers outer closed id fields members = .ok record →
      id.toList.length + members.countP (·.1 = some "id") = 1 := by
  induction members with
  | nil =>
      intro id fields record hread
      unfold ofMembers at hread
      split at hread
      · cases id with
        | none => cases hread
        | some id => rfl
      · cases hread
  | cons member members ih =>
      intro id fields record hread
      obtain ⟨key, node⟩ := member
      unfold ofMembers at hread
      cases key with
      | none => cases hread
      | some name =>
          simp only at hread
          split at hread
          · rename_i hname
            split at hread
            · cases hread
            · rename_i hfirst
              obtain ⟨word, -, hread⟩ := eq_ok_of_bind hread
              have hlater := ih hread
              rw [Bool.not_eq_true, Option.isSome_eq_false_iff, Option.isNone_iff_eq_none] at hfirst
              rw [List.countP_cons_of_pos (by simpa using hname), hfirst]
              simpa using hlater
          · rename_i hname
            obtain ⟨value, -, hread⟩ := eq_ok_of_bind hread
            rw [List.countP_cons_of_neg (by simpa using hname)]
            exact ih hread

/-! ### Reading back -/

theorem word_ofWord (word : UInt64) : Node.word (Json.number (.ofWord word)).toNode = .ok word := by
  have hnumber : (Numeral.ofNumber (.ofWord word)).number? = some (.ofWord word) :=
    Json.number?_ofNumber rfl
  have hpositive : (0 : Int) ≤ word.toNat := Int.natCast_nonneg _
  rw [Json.toNode, Node.word, hnumber, Number.ofWord]
  simp only [if_pos hpositive, Int.natAbs_natCast, UInt64.ofNat_toNat]
  rfl

theorem ofMembers_memberNodes {outer : Nat} {id : RecordId} (entries : List (String × Json)) :
    ∀ fields : Dictionary Json,
      (∀ entry ∈ entries, entry.1 ≠ "id" ∧ Node.json (outer + 1) entry.2.toNode = .ok entry.2) →
      ofMembers outer true (some id) fields (memberNodes entries) =
        .ok ⟨id, entries.foldl (fun fields entry => fields.insert entry.1 entry.2) fields⟩ := by
  induction entries with
  | nil => exact fun _ _ => rfl
  | cons entry entries ih =>
      intro fields hentries
      obtain ⟨⟨hname, hvalue⟩, hothers⟩ := List.forall_mem_cons.mp hentries
      rw [memberNodes, ofMembers]
      simp only [if_neg hname, hvalue]
      exact ih _ hothers

/-- The id comes first, so every value of its name comes second. -/
theorem decoder_toJson (outer : Nat) (record : Record) :
    decoder outer record.toJson.toNode =
      ofMembers outer true (some record.id) .empty (memberNodes record.fields.entries) := by
  rw [toJson, Json.toNode, decoder, memberNodes, ofMembers, word_ofWord]
  rfl

theorem decoder_toJson_of_leavesId {outer : Nat} {record : Record} (hfits : record.FitsInside outer)
    (hintegral : record.IsIntegral) (hleaves : record.LeavesId) :
    decoder outer record.toJson.toNode = .ok record := by
  have hentries : ∀ entry ∈ record.fields.entries,
      entry.1 ≠ "id" ∧ Node.json (outer + 1) entry.2.toNode = .ok entry.2 := fun entry hentry =>
    ⟨Dictionary.get?_eq_none_iff.mp hleaves entry hentry,
      Json.json_toNode (hfits entry hentry) (hintegral entry hentry)⟩
  rw [decoder_toJson, ofMembers_memberNodes _ _ hentries]
  exact congrArg (fun fields => Except.ok (Record.mk record.id fields)) record.fields.ofList_entries

theorem leavesId_of_decoder {outer : Nat} {record read : Record}
    (hread : decoder outer record.toJson.toNode = .ok read) : record.LeavesId := by
  rw [decoder_toJson] at hread
  have hnone := Nat.add_eq_left.mp (countP_id_of_ofMembers _ hread)
  rw [Json.memberNodes_eq_map, List.countP_eq_zero] at hnone
  refine Dictionary.get?_eq_none_iff.mpr fun entry hentry hname => ?_
  exact hnone _ (List.mem_map_of_mem hentry) (by simpa using hname)

theorem isIntegral_toJson {record : Record} (hintegral : record.IsIntegral) : record.toJson.isIntegral := by
  have hentries : Json.membersAreIntegral record.fields.entries = true := by
    rw [← List.map_id record.fields.entries, Json.membersAreIntegral_map]
    exact List.all_eq_true.mpr hintegral
  rw [toJson, Json.isIntegral, Json.membersAreIntegral, hentries]
  rfl

theorem listOfText_listText_eq {records : List Record} (hintegral : ∀ record ∈ records, record.IsIntegral) :
    listOfText (listText records) =
      Node.list (decoder 1) (Json.array (records.map toJson)).toNode := by
  refine Json.decodeText_pretty _ ?_
  rw [Json.isIntegral, Json.areIntegral_map]
  exact List.all_eq_true.mpr fun record hrecord => isIntegral_toJson (hintegral record hrecord)

/-- **Records are read back from their text** if none of their values has the name of the id. -/
theorem listOfText_listText {records : List Record} (hfree : ∀ record ∈ records, record.IsFreeForm)
    (hintegral : ∀ record ∈ records, record.IsIntegral) (hnests : ∀ record ∈ records, record.NestsBelow 100)
    (hleaves : ∀ record ∈ records, record.LeavesId) : listOfText (listText records) = .ok records := by
  rw [listOfText_listText_eq hintegral]
  refine Node.list_toNode fun record hrecord => ?_
  have hroom : record.NestsBelow (Node.maxDepth - 1) := fun entry hentry =>
    Nat.lt_of_lt_of_le (hnests record hrecord entry hentry) (by decide)
  have hfits := ((hfree record hrecord).fitsInside_iff (by decide)).mpr hroom
  exact decoder_toJson_of_leavesId hfits (hintegral record hrecord) (hleaves record hrecord)

/-- And only then anything is read from it. -/
theorem leavesId_of_listOfText {records read : List Record}
    (hintegral : ∀ record ∈ records, record.IsIntegral) (hread : listOfText (listText records) = .ok read) :
    ∀ record ∈ records, record.LeavesId := by
  rw [listOfText_listText_eq hintegral] at hread
  intro record hrecord
  obtain ⟨item, hitem⟩ := Node.exists_of_list_toNode hread record hrecord
  exact leavesId_of_decoder hitem

/-! ### The texts of one record -/

/-- A record is read from its own texts, the one over several lines and the one on one line. -/
structure ReadsBack (record : Record) : Prop where
  text : ofText record.text = .ok record
  summary : ofText record.summary = .ok record

/-- Two members of the object in a text have the name of the id. -/
def NamesIdTwice (text : String) : Prop :=
  ∃ members closed, (Node.read text).1 = .object members closed ∧ 2 ≤ members.countP (·.1 = some "id")

theorem FitsInside.readsBack {record : Record} (hfits : record.FitsInside 0) (hintegral : record.IsIntegral)
    (hleaves : record.LeavesId) : record.ReadsBack := by
  have hdecoded := decoder_toJson_of_leavesId hfits hintegral hleaves
  constructor
  · exact (Json.decodeText_pretty _ (isIntegral_toJson hintegral)).trans hdecoded
  · exact (Json.decodeText_compact _ (isIntegral_toJson hintegral)).trans hdecoded

theorem NamesIdTwice.ofText_ne_ok {text : String} (htwice : NamesIdTwice text) (record : Record) :
    ofText text ≠ .ok record := by
  intro hread
  obtain ⟨members, closed, hobject, hcount⟩ := htwice
  obtain ⟨decoded, hdecoded, -⟩ := eq_ok_of_bind hread
  have hdecoded : decoder 0 (Node.read text).1 = .ok decoded := hdecoded
  rw [hobject, decoder] at hdecoded
  have hone := countP_id_of_ofMembers members hdecoded
  simp only [Option.toList_none, List.length_nil, Nat.zero_add] at hone
  omega

/-- A record that has a value of the name is written with two members of it. -/
theorem namesIdTwice_text {record : Record} (hintegral : record.IsIntegral) (htaken : ¬record.LeavesId) :
    NamesIdTwice record.text := by
  have hread : (Node.read record.text).1 = record.toJson.toNode :=
    congrArg Prod.fst (Json.read_print Json.Layout.isBlank_indented (isIntegral_toJson hintegral))
  rw [toJson, Json.toNode] at hread
  refine ⟨_, _, hread, ?_⟩
  have hsome : 0 < (memberNodes record.fields.entries).countP (·.1 = some "id") := by
    rw [LeavesId, Dictionary.get?_eq_none_iff] at htaken
    simp only [Classical.not_forall, Classical.not_not] at htaken
    obtain ⟨entry, hentry, hname⟩ := htaken
    rw [List.countP_pos_iff, Json.memberNodes_eq_map]
    exact ⟨_, List.mem_map_of_mem hentry, by simpa using hname⟩
  rw [memberNodes, List.countP_cons_of_pos (by simp)]
  omega

/-- **A record survives its text.** A record with integers only is read back from both of its texts if its values are
free-form, leave the name `id` alone and are nested no deeper than a text may be. Only such records are read from a
text at all, whatever its layout and the order of its members, and a text that names the id twice is refused. -/
theorem text_round_trip :
    (∀ record : Record, record.IsFreeForm → record.IsIntegral → record.NestsBelow Node.maxDepth →
      record.LeavesId → record.ReadsBack) ∧
    (∀ (text : String) (record : Record), ofText text = .ok record → record.IsIntegral →
      record.IsFreeForm ∧ record.NestsBelow Node.maxDepth ∧ record.LeavesId ∧ record.ReadsBack) ∧
    ∀ text, NamesIdTwice text → ∀ record, ofText text ≠ .ok record := by
  have hdepth : 0 < Node.maxDepth := by decide
  refine ⟨?_, ?_, fun text htwice => htwice.ofText_ne_ok⟩
  · intro record hfree hintegral hnests hleaves
    exact ((hfree.fitsInside_iff hdepth).mpr hnests).readsBack hintegral hleaves
  · intro text record hread hintegral
    obtain ⟨hfits, hleaves⟩ := fitsInside_of_ofText hread
    have hnests := (hfits.isFreeForm.fitsInside_iff hdepth).mp hfits
    exact ⟨hfits.isFreeForm, hnests, hleaves, hfits.readsBack hintegral hleaves⟩

/-- A text with its members in another order and with blanks of its own, and a record whose text names the id twice. -/
theorem nested_record_reads_back :
    let text := "\x7b \"b\": [1, \x7b\"c\": null\x7d], \"id\": 7, \"a\": \"\\n\" \x7d"
    let nested : Record :=
      ⟨7, .ofList [("a", .string "\n"), ("b", .array [.number (.ofWord 1), .object [("c", .null)]])]⟩
    let taken : Record := ⟨1, .ofList [("id", .number (.ofWord 2))]⟩
    ofText text = .ok nested ∧ nested.text ≠ text ∧ ofText nested.text = .ok nested ∧
      ofText nested.summary = .ok nested ∧ ∀ record, ofText taken.text ≠ .ok record := by
  intro text nested taken
  have hread : ofText text = .ok nested := toOption_eq_some_iff.mp (by decide +kernel)
  have hintegral : nested.IsIntegral := by
    have hall : nested.fields.entries.all (·.2.isIntegral) = true := by decide +kernel
    exact List.all_eq_true.mp hall
  obtain ⟨hwritten, hreadable, hrefused⟩ := text_round_trip
  obtain ⟨hfree, hnests, hleaves, -⟩ := hreadable text nested hread hintegral
  have hback := hwritten nested hfree hintegral hnests hleaves
  have htwice : NamesIdTwice taken.text := by
    have hall : taken.fields.entries.all (·.2.isIntegral) = true := by decide +kernel
    have htaken : taken.fields.get? "id" ≠ none := by decide +kernel
    exact namesIdTwice_text (List.all_eq_true.mp hall) htaken
  exact ⟨hread, by decide +kernel, hback.text, hback.summary, hrefused _ htwice⟩

end Record

end FormEditor
