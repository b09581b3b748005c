import FormEditor.Proofs.Json.Printed

/-! Free-form values. What can be read as one is nested no deeper than there is room and lists the members
of its objects sorted by name; and such a value is read back from its own text if its numbers are
integers. How much room it needs is how deep it is nested. -/

namespace FormEditor

namespace Dictionary

variable {α : Type}

/-- An entry after all others is placed at the end. -/
theorem place_of_lt {name : String} {value : α} {entries : List (String × α)}
    (hlast : ∀ entry ∈ entries, entry.1 < name) : place name value entries = entries ++ [(name, value)] := by
  induction entries with
  | nil => rfl
  | cons entry entries ih =>
      obtain ⟨hentry, hentries⟩ := List.forall_mem_cons.mp hlast
      have hnotLess : ¬name < entry.1 := String.lt_asymm hentry
      have hother : name ≠ entry.1 := fun hsame => String.lt_irrefl name (hsame ▸ hentry)
      rw [place, if_neg hnotLess, if_neg hother, ih hentries, List.cons_append]

theorem entries_foldl_insert (entries : List (String × α)) :
    ∀ dictionary : Dictionary α,
      (dictionary.entries ++ entries).Pairwise (fun left right => left.1 < right.1) →
      (entries.foldl (fun dictionary entry => dictionary.insert entry.1 entry.2) dictionary).entries =
        dictionary.entries ++ entries := by
  induction entries with
  | nil => exact fun dictionary _ => (List.append_nil _).symm
  | cons entry entries ih =>
      intro dictionary hsorted
      have hlast : ∀ other ∈ dictionary.entries, other.1 < entry.1 := fun other hother =>
        (List.pairwise_append.mp hsorted).2.2 other hother entry List.mem_cons_self
      have hinsert : (dictionary.insert entry.1 entry.2).entries = dictionary.entries ++ [entry] :=
        place_of_lt hlast
      rw [List.foldl_cons, ih, hinsert, List.append_assoc, List.singleton_append]
      rw [hinsert, List.append_assoc]
      exact hsorted

/-- Sorted entries are listed as they are. -/
theorem entries_ofList {entries : List (String × α)}
    (hsorted : entries.Pairwise (fun left right => left.1 < right.1)) : (ofList entries).entries = entries :=
  entries_foldl_insert entries empty hsorted

theorem ofList_entries (dictionary : Dictionary α) : ofList dictionary.entries = dictionary := by
  refine ext_get? fun name => ?_
  rw [get?, entries_ofList dictionary.sorted, get?]

theorem mem_foldl_insert {entries : List (String × α)} {entry : String × α} :
    ∀ dictionary : Dictionary α,
      entry ∈ (entries.foldl (fun dictionary entry => dictionary.insert entry.1 entry.2) dictionary).entries →
      entry ∈ dictionary.entries ∨ entry ∈ entries := by
  induction entries with
  | nil => exact fun _ => Or.inl
  | cons head entries ih =>
      intro dictionary hentry
      rcases ih (dictionary.insert head.1 head.2) hentry with hbefore | hlater
      · rcases mem_place hbefore with hhead | hold
        · exact Or.inr (hhead ▸ List.mem_cons_self)
        · exact Or.inl hold
      · exact Or.inr (List.mem_cons_of_mem _ hlater)

theorem lookup_eq_none_iff {name : String} {entries : List (String × α)} :
    lookup name entries = none ↔ ∀ entry ∈ entries, entry.1 ≠ name := by
  induction entries with
  | nil => exact ⟨fun _ => List.forall_mem_nil _, fun _ => rfl⟩
  | cons entry entries ih =>
      rw [lookup, List.forall_mem_cons]
      by_cases hname : entry.1 = name
      · rw [if_pos hname]
        exact ⟨fun hnone => absurd hnone (Option.some_ne_none _), fun hothers => absurd hname hothers.1⟩
      · rw [if_neg hname, ih]
        exact ⟨fun hothers => ⟨hname, hothers⟩, And.right⟩

theorem get?_eq_none_iff {dictionary : Dictionary α} {name : String} :
    dictionary.get? name = none ↔ ∀ entry ∈ dictionary.entries, entry.1 ≠ name :=
  lookup_eq_none_iff

theorem mem_of_mem_ofList {entries : List (String × α)} {entry : String × α}
    (hentry : entry ∈ (ofList entries).entries) : entry ∈ entries := by
  rcases mem_foldl_insert empty hentry with hnone | hentry
  · cases hnone
  · exact hentry

theorem forall_mem_insert {holds : α → Prop} {dictionary : Dictionary α}
    (hall : ∀ entry ∈ dictionary.entries, holds entry.2) (name : String) {value : α} (hvalue : holds value) :
    ∀ entry ∈ (dictionary.insert name value).entries, holds entry.2 := by
  intro entry hentry
  rcases mem_place hentry with rfl | hold
  · exact hvalue
  · exact hall entry hold

end Dictionary

namespace Json

open Node (json? jsonItems? jsonMembers?)

/-- A value that may stand where there is room for so many containers inside one another, as free-form data
has it: the members of an object sorted by name, no two of one name. -/
inductive Fits : Nat → Json → Prop where
  | null {room : Nat} : Fits room .null
  | bool {room : Nat} (value : Bool) : Fits room (.bool value)
  | number {room : Nat} (value : Number) : Fits room (.number value)
  | string {room : Nat} (text : String) : Fits room (.string text)
  | array {room : Nat} {items : List Json} (hitems : ∀ item ∈ items, Fits room item) :
      Fits (room + 1) (.array items)
  | object {room : Nat} {members : List (String × Json)}
      (hsorted : members.Pairwise (fun left right => left.1 < right.1))
      (hmembers : ∀ member ∈ members, Fits room member.2) : Fits (room + 1) (.object members)

mutual

/-- What is read as free-form data fits where it was read. -/
theorem fits_of_json? {room : Nat} {node : Node} {value : Json} (hread : json? room node = some value) :
    Fits room value := by
  match node, room with
  | .null, _ => cases hread; exact .null
  | .bool value, _ => cases hread; exact .bool value
  | .number numeral, _ =>
      obtain ⟨number, -, rfl⟩ := Option.map_eq_some_iff.mp hread
      exact .number number
  | .string text, _ =>
      obtain ⟨text, -, rfl⟩ := Option.map_eq_some_iff.mp hread
      exact .string text
  | .array items true, room + 1 =>
      obtain ⟨values, hitems, rfl⟩ := Option.map_eq_some_iff.mp hread
      exact .array (fits_of_jsonItems? hitems)
  | .object members true, room + 1 =>
      obtain ⟨values, hmembers, rfl⟩ := Option.map_eq_some_iff.mp hread
      exact .object (Dictionary.ofList values).sorted fun member hmember =>
        fits_of_jsonMembers? hmembers member (Dictionary.mem_of_mem_ofList hmember)
  | .array _ _, 0 | .array _ false, _ + 1 | .object _ _, 0 | .object _ false, _ + 1 | .fault, _ => cases hread

theorem fits_of_jsonItems? {room : Nat} {items : List Node} {values : List Json}
    (hread : jsonItems? room items = some values) : ∀ value ∈ values, Fits room value := by
  match items with
  | [] => cases hread; nofun
  | item :: items =>
      cases hitem : json? room item with
      | none => simp [jsonItems?, hitem] at hread
      | some value =>
          simp only [jsonItems?, hitem] at hread
          obtain ⟨others, hitems, rfl⟩ := Option.map_eq_some_iff.mp hread
          exact List.forall_mem_cons.mpr ⟨fits_of_json? hitem, fits_of_jsonItems? hitems⟩

theorem fits_of_jsonMembers? {room : Nat} {members : List (Option String × Node)}
    {values : List (String × Json)} (hread : jsonMembers? room members = some values) :
    ∀ member ∈ values, Fits room member.2 := by
  match members with
  | [] => cases hread; nofun
  | (none, node) :: members => cases hread
  | (some name, node) :: members =>
      cases hvalue : json? room node with
      | none => simp [jsonMembers?, hvalue] at hread
      | some value =>
          simp only [jsonMembers?, hvalue] at hread
          obtain ⟨others, hmembers, rfl⟩ := Option.map_eq_some_iff.mp hread
          exact List.forall_mem_cons.mpr ⟨fits_of_json? hvalue, fits_of_jsonMembers? hmembers⟩

end

theorem fits_of_json {outer : Nat} {node : Node} {value : Json} (hread : Node.json outer node = .ok value) :
    Fits (Node.maxDepth - outer) value := by
  unfold Node.json at hread
  cases hjson : json? (Node.maxDepth - outer) node with
  | none =>
      rw [hjson] at hread
      cases hread
  | some read =>
      rw [hjson] at hread
      cases hread
      exact fits_of_json? hjson

/-- Values that some text may hold as free-form data. -/
def IsFreeForm (value : Json) : Prop :=
  ∃ room, Fits room value

mutual

/-- How many containers stand inside one another. -/
def nesting : Json → Nat
  | .array items => itemsNesting items + 1
  | .object members => membersNesting members + 1
  | _ => 0

def itemsNesting : List Json → Nat
  | [] => 0
  | item :: items => max (nesting item) (itemsNesting items)

def membersNesting : List (String × Json) → Nat
  | [] => 0
  | (_, value) :: members => max (nesting value) (membersNesting members)

end

theorem itemsNesting_le_iff {items : List Json} {room : Nat} :
    itemsNesting items ≤ room ↔ ∀ item ∈ items, item.nesting ≤ room := by
  induction items with
  | nil => exact iff_of_true (Nat.zero_le room) (List.forall_mem_nil _)
  | cons first items ih => rw [itemsNesting, Nat.max_le, ih, List.forall_mem_cons]

theorem membersNesting_le_iff {members : List (String × Json)} {room : Nat} :
    membersNesting members ≤ room ↔ ∀ member ∈ members, member.2.nesting ≤ room := by
  induction members with
  | nil => exact iff_of_true (Nat.zero_le room) (List.forall_mem_nil _)
  | cons first members ih => rw [membersNesting, Nat.max_le, ih, List.forall_mem_cons]

/-- Where a value fits, there is room for its nesting. -/
theorem Fits.nesting_le {room : Nat} {value : Json} (hfits : Fits room value) : value.nesting ≤ room := by
  induction hfits with
  | null | bool | number | string => exact Nat.zero_le _
  | array _ ih => exact Nat.succ_le_succ (itemsNesting_le_iff.mpr ih)
  | object _ _ ih => exact Nat.succ_le_succ (membersNesting_le_iff.mpr ih)

/-- A free-form value fits wherever there is room for its nesting. -/
theorem IsFreeForm.fits {value : Json} (hfree : value.IsFreeForm) {room : Nat}
    (hroom : value.nesting ≤ room) : Fits room value := by
  obtain ⟨wide, hfits⟩ := hfree
  induction hfits generalizing room with
  | null => exact .null
  | bool value => exact .bool value
  | number value => exact .number value
  | string text => exact .string text
  | array hitems ih =>
      rw [nesting] at hroom
      obtain ⟨room, rfl⟩ := Nat.exists_eq_add_of_le' (Nat.le_of_add_left_le hroom)
      have hnesting := itemsNesting_le_iff.mp (Nat.le_of_succ_le_succ hroom)
      exact .array fun item hitem => ih item hitem (hnesting item hitem)
  | object hsorted hmembers ih =>
      rw [nesting] at hroom
      obtain ⟨room, rfl⟩ := Nat.exists_eq_add_of_le' (Nat.le_of_add_left_le hroom)
      have hnesting := membersNesting_le_iff.mp (Nat.le_of_succ_le_succ hroom)
      exact .object hsorted fun member hmember => ih member hmember (hnesting member hmember)

theorem number?_ofNumber {value : Number} (hintegral : (Json.number value).isIntegral) :
    (Numeral.ofNumber value).number? = some value := by
  cases value with
  | double value => cases hintegral
  | integer value hfits => exact Numeral.number?_ofInt value hfits

mutual

/-- **A value that fits is read back from its node** if its numbers are integers. -/
theorem json?_toNode {room : Nat} {value : Json} (hfits : Fits room value) (hintegral : value.isIntegral) :
    json? room value.toNode = some value := by
  match value, hfits with
  | .null, _ | .bool _, _ | .string _, _ => rfl
  | .number value, _ => exact congrArg (Option.map Json.number) (number?_ofNumber hintegral)
  | .array items, .array hitems =>
      exact congrArg (Option.map Json.array) (jsonItems?_itemNodes hitems hintegral)
  | .object members, .object hsorted hmembers =>
      have hread := jsonMembers?_memberNodes hmembers hintegral
      rw [toNode, json?, if_pos rfl, hread, Option.map_some, Dictionary.entries_ofList hsorted]

theorem jsonItems?_itemNodes {room : Nat} {items : List Json} (hfits : ∀ item ∈ items, Fits room item)
    (hintegral : areIntegral items) : jsonItems? room (itemNodes items) = some items := by
  match items with
  | [] => rfl
  | item :: items =>
      obtain ⟨hfirst, hothers⟩ := List.forall_mem_cons.mp hfits
      obtain ⟨hitem, hitems⟩ := Bool.and_eq_true_iff.mp hintegral
      simp only [itemNodes, jsonItems?, json?_toNode hfirst hitem, jsonItems?_itemNodes hothers hitems,
        Option.map_some]

theorem jsonMembers?_memberNodes {room : Nat} {members : List (String × Json)}
    (hfits : ∀ member ∈ members, Fits room member.2) (hintegral : membersAreIntegral members) :
    jsonMembers? room (memberNodes members) = some members := by
  match members with
  | [] => rfl
  | (name, value) :: members =>
      obtain ⟨hfirst, hothers⟩ := List.forall_mem_cons.mp hfits
      obtain ⟨hvalue, hmembers⟩ := Bool.and_eq_true_iff.mp hintegral
      simp only [memberNodes, jsonMembers?, json?_toNode hfirst hvalue,
        jsonMembers?_memberNodes hothers hmembers, Option.map_some]

end

theorem json_toNode {outer : Nat} {value : Json} (hfits : Fits (Node.maxDepth - outer) value)
    (hintegral : value.isIntegral) : Node.json outer value.toNode = .ok value := by
  rw [Node.json, json?_toNode hfits hintegral]
  rfl

end Json

end FormEditor
