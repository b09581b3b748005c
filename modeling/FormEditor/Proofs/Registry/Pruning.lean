import FormEditor.Proofs.Registry.Palette

/-! A search compared with the whole palette. To search is to take the entries that are not found out of the palette,
and then the groups that have none left, except for the order of the groups. Entries are left out before they are
put into groups, so a category has the place of its first entry that is found and not that of its first entry.
The two orders differ as soon as another category comes in between. -/

namespace FormEditor

/-! ### The order of first items -/

/-- Where a list is in two orders at once, they agree. -/
theorem agree_of_pairwise {α : Type} {order other : α → α → Prop} {items : List α} {first second : α}
    (hasymm : ∀ first second, order first second → ¬order second first) (horder : items.Pairwise order)
    (hother : items.Pairwise other) (hfirst : first ∈ items) (hsecond : second ∈ items)
    (hordered : order first second) : other first second := by
  induction items with
  | nil => cases hfirst
  | cons item items ih =>
      rw [List.pairwise_cons] at horder hother
      rcases List.mem_cons.mp hsecond with rfl | hlater
      · rcases List.mem_cons.mp hfirst with rfl | hbefore
        · exact absurd hordered (hasymm _ _ hordered)
        · exact absurd hordered (hasymm _ _ (horder.1 first hbefore))
      · rcases List.mem_cons.mp hfirst with rfl | hbefore
        · exact hother.1 second hlater
        · exact ih horder.2 hother.2 hbefore hlater

/-- Of two items that are both in a list, one comes first. -/
def ComesBefore {α : Type} [DecidableEq α] (items : List α) (first second : α) : Prop :=
  second ∈ items ∧ items.idxOf first < items.idxOf second

section Lists

variable {α : Type} [DecidableEq α] {items kept : List α} {first second : α}

theorem ComesBefore.mem (hfirst : ComesBefore items first second) : first ∈ items :=
  List.idxOf_lt_length_iff.mp (hfirst.2.trans (List.idxOf_lt_length_of_mem hfirst.1))

theorem ComesBefore.asymm (hfirst : ComesBefore items first second) : ¬ComesBefore items second first := by
  intro hsecond
  exact Nat.lt_asymm hfirst.2 hsecond.2

theorem ComesBefore.snoc (hfirst : ComesBefore items first second) (item : α) :
    ComesBefore (items ++ [item]) first second := by
  refine ⟨List.mem_append_left _ hfirst.1, ?_⟩
  rw [List.idxOf_append_of_mem hfirst.mem, List.idxOf_append_of_mem hfirst.1]
  exact hfirst.2

theorem comesBefore_snoc_of_not_mem (hfirst : first ∈ items) (hnew : second ∉ items) :
    ComesBefore (items ++ [second]) first second := by
  refine ⟨List.mem_append_right _ (List.mem_singleton_self second), ?_⟩
  rw [List.idxOf_append_of_mem hfirst, List.idxOf_append_of_notMem hnew]
  have hlt := List.idxOf_lt_length_of_mem hfirst
  omega

/-- Without the items that are there already, a list is in the order in which they come first. -/
theorem pairwise_eraseDups (items : List α) : items.eraseDups.Pairwise (ComesBefore items) := by
  induction items using List.reverseRecOn with
  | nil => exact .nil
  | append_singleton items item ih =>
      have hold : items.eraseDups.Pairwise (ComesBefore (items ++ [item])) := ih.imp fun hfirst => hfirst.snoc item
      rw [eraseDups_snoc]
      split
      · exact hold
      · rename_i hnew
        refine List.pairwise_append.mpr ⟨hold, List.pairwise_singleton _ item, fun first hfirst last hlast => ?_⟩
        rw [List.mem_singleton.mp hlast]
        exact comesBefore_snoc_of_not_mem (List.mem_eraseDups.mp hfirst) hnew

theorem filter_eraseDups_perm (hkept : ∀ item ∈ kept, item ∈ items) :
    (items.eraseDups.filter (· ∈ kept)).Perm kept.eraseDups := by
  rw [List.perm_ext_iff_of_nodup ((nodup_eraseDups items).filter _) (nodup_eraseDups kept)]
  intro item
  rw [List.mem_filter, List.mem_eraseDups, List.mem_eraseDups, decide_eq_true_eq]
  exact ⟨And.right, fun hitem => ⟨hkept item hitem, hitem⟩⟩

/-- What is kept of a list comes in the order of the list exactly if no two items that are kept change places. -/
theorem filter_eraseDups_eq_iff (hkept : ∀ item ∈ kept, item ∈ items) :
    items.eraseDups.filter (· ∈ kept) = kept.eraseDups ↔
      ∀ first second, ComesBefore kept first second → ComesBefore items first second := by
  have hfiltered : (items.eraseDups.filter (· ∈ kept)).Pairwise (ComesBefore items) :=
    (pairwise_eraseDups items).filter _
  constructor
  · intro hsame first second hfirst
    rw [hsame] at hfiltered
    exact agree_of_pairwise (fun _ _ => ComesBefore.asymm) (pairwise_eraseDups kept) hfiltered
      (List.mem_eraseDups.mpr hfirst.mem) (List.mem_eraseDups.mpr hfirst.1) hfirst
  · intro hagree
    have hkeptOrder : kept.eraseDups.Pairwise (ComesBefore items) := (pairwise_eraseDups kept).imp (hagree _ _)
    refine List.Perm.eq_of_pairwise ?_ hfiltered hkeptOrder ?_
    · exact fun _ _ _ _ hfirst hsecond => absurd hsecond hfirst.asymm
    · exact filter_eraseDups_perm hkept

end Lists

/-! ### The pruned palette -/

namespace PaletteGroup

/-- A group without the entries that a search finds neither by their names nor by the category. -/
def pruneEntries (search : String) (group : PaletteGroup) : PaletteGroup :=
  { group with
    entries := group.entries.filter fun entry => Text.Holds search entry.name ∨ Text.Holds search group.category }

/-- Groups without the entries that a search does not find, where groups are left out that have no entry any more. -/
def prune (search : String) (groups : List PaletteGroup) : List PaletteGroup :=
  (groups.map (pruneEntries search)).filter fun group => group.entries ≠ []

/-- The entries that a search finds among some, each with its category. -/
def keep (search : String) (items : List (String × PaletteEntry)) : List (String × PaletteEntry) :=
  items.filter fun item => Text.Holds search item.2.name ∨ Text.Holds search item.1

variable {search : String} {items : List (String × PaletteEntry)}

theorem entries_ofItems_ne_nil_iff {category : String} :
    (ofItems items category).entries ≠ [] ↔ category ∈ items.map (·.1) := by
  simp [ofItems]

theorem ofItems_injective (items : List (String × PaletteEntry)) : Function.Injective (ofItems items) :=
  fun _ _ hsame => congrArg PaletteGroup.category hsame

theorem pruneEntries_ofItems (search : String) (items : List (String × PaletteEntry)) (category : String) :
    pruneEntries search (ofItems items category) = ofItems (keep search items) category := by
  have hkept : (items.filter (·.1 = category)).filter
      (fun item => Text.Holds search item.2.name ∨ Text.Holds search category) =
        (keep search items).filter (·.1 = category) := by
    rw [keep, List.filter_filter, List.filter_filter]
    refine List.filter_congr fun item _ => ?_
    by_cases hsame : item.1 = category
    · simp [hsame]
    · simp [hsame]
  rw [pruneEntries, ofItems, ofItems, ← hkept, List.filter_map]
  rfl

/-- To prune groups leaves their categories in place. -/
theorem prune_gather (search : String) (items : List (String × PaletteEntry)) :
    prune search (gather items) = ((items.map (·.1)).eraseDups.filter (· ∈ (keep search items).map (·.1))).map
      (ofItems (keep search items)) := by
  have hpruned : pruneEntries search ∘ ofItems items = ofItems (keep search items) :=
    funext (pruneEntries_ofItems search items)
  rw [prune, gather_eq, List.map_map, hpruned, List.filter_map]
  refine congrArg (List.map _) (List.filter_congr fun category _ => ?_)
  exact decide_eq_decide.mpr entries_ofItems_ne_nil_iff

theorem mem_categories_of_keep : ∀ category ∈ (keep search items).map (·.1), category ∈ items.map (·.1) :=
  fun _ hcategory => (List.filter_sublist.map _).subset hcategory

/-- What is kept goes into the same groups as before, in whatever order. -/
theorem gather_keep_perm (search : String) (items : List (String × PaletteEntry)) :
    (gather (keep search items)).Perm (prune search (gather items)) := by
  rw [prune_gather, gather_eq]
  exact ((filter_eraseDups_perm mem_categories_of_keep).map _).symm

theorem gather_keep_eq_iff (search : String) (items : List (String × PaletteEntry)) :
    gather (keep search items) = prune search (gather items) ↔
      ∀ first second, ComesBefore ((keep search items).map (·.1)) first second →
        ComesBefore (items.map (·.1)) first second := by
  rw [prune_gather, gather_eq, (List.map_injective_iff.mpr (ofItems_injective _)).eq_iff, eq_comm]
  exact filter_eraseDups_eq_iff mem_categories_of_keep

end PaletteGroup

namespace Registry

/-- The categories of some definitions, in their order. -/
def categories (entries : List (ElementType × Definition)) : List String :=
  entries.map (·.2.paletteCategory)

theorem palette_eq (registry : Registry) :
    registry.palette = PaletteGroup.gather (registry.entries.map paletteItem) := by
  have hblank : ∀ char ∈ "".toList, Text.isBlank char = true := by simp
  rw [palette, searchPalette, paletteItems_eq, found_of_blank hblank]

theorem map_paletteItem_found (registry : Registry) (search : String) :
    (registry.found search).map paletteItem = PaletteGroup.keep search (registry.entries.map paletteItem) := by
  rw [found, PaletteGroup.keep, List.filter_map]
  rfl

theorem map_fst_paletteItem (entries : List (ElementType × Definition)) :
    (entries.map paletteItem).map (·.1) = categories entries := by
  rw [List.map_map]
  rfl

/-- **A search prunes the palette unless two categories change places.** A search always shows the groups that are left
of the whole palette without the entries that it does not find, each with its entries in their order. The groups
are in the order of the whole palette if and only if of any two categories, the one that is named first among the
definitions that are found is the one that is named first in the registry. -/
theorem search_prunes_palette_iff (registry : Registry) (search : String) :
    let pruned := PaletteGroup.prune search registry.palette
    (registry.searchPalette search).Perm pruned ∧
    (registry.searchPalette search = pruned ↔
      ∀ first second, ComesBefore (categories (registry.found search)) first second →
        ComesBefore (categories registry.entries) first second) := by
  intro pruned
  have hsearch : registry.searchPalette search =
      PaletteGroup.gather (PaletteGroup.keep search (registry.entries.map paletteItem)) := by
    rw [searchPalette, paletteItems_eq, map_paletteItem_found]
  have hpruned : pruned = PaletteGroup.prune search (PaletteGroup.gather (registry.entries.map paletteItem)) := by
    rw [← palette_eq]
  rw [hsearch, hpruned]
  refine ⟨PaletteGroup.gather_keep_perm search _, ?_⟩
  rw [PaletteGroup.gather_keep_eq_iff, ← map_paletteItem_found, map_fst_paletteItem, map_fst_paletteItem]

/-- A category whose first entry is not found comes after one that was named later. -/
theorem later_category_shown_first :
    let field (label : String) (category : String) : Definition := ⟨category, "i", { label := some label }⟩
    let registry : Registry := ⟨[(.text, field "one" "A"), (.email, field "two x" "B"), (.url, field "three x" "A")],
      by decide⟩
    registry.palette.map (·.category) = ["A", "B"] ∧
      registry.searchPalette "x" ≠ PaletteGroup.prune "x" registry.palette := by
  decide +kernel

end Registry

end FormEditor
