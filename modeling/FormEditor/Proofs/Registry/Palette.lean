import Mathlib.Data.List.Infix
import Mathlib.Data.List.Perm.Lattice
import FormEditor.Registry.Palette

/-! The palette of a registry. The entries that a search keeps go into the groups of their categories one after the
other. A group that is there gets the entry at its end, and a new one comes after all others, so at any time the
groups are the categories met so far, in the order in which they were met first, each with all its entries
met so far. No entry is lost or shown twice. -/

namespace FormEditor

/-! ### Searches -/

namespace Text

theorem occursIn_eq_true_iff {part chars : List Char} : occursIn part chars = true ↔ part <:+: chars := by
  induction chars with
  | nil => rw [occursIn, List.isEmpty_iff, List.infix_nil]
  | cons char chars ih => rw [occursIn, Bool.or_eq_true, List.isPrefixOf_iff_prefix, ih, List.infix_cons_iff]

/-- A text in lower case has what is searched for in it: the searched text in lower case, without the blanks
around it. -/
def Holds (search text : String) : Prop :=
  Registry.needle search <:+: Unicode.lowercase text.toList

instance (search text : String) : Decidable (Holds search text) :=
  inferInstanceAs (Decidable (_ <:+: _))

theorem trimChars_of_blank {chars : List Char} (hblank : ∀ char ∈ chars, isBlank char = true) : trimChars chars = [] := by
  have hdropped : chars.dropWhile isBlank = [] := by
    rw [← List.append_nil chars, List.dropWhile_append_of_pos hblank, List.dropWhile_nil]
  rw [trimChars, hdropped]
  rfl

theorem holds_of_blank {search : String} (hblank : ∀ char ∈ search.toList, isBlank char = true) (text : String) :
    Holds search text := by
  have hneedle : Registry.needle search = [] := by
    rw [Registry.needle, trimChars_of_blank hblank]
    rfl
  rw [Holds, hneedle]
  exact List.nil_infix

end Text

/-- A search finds a type by its name in the palette or by its category. -/
def Definition.IsFound (definition : Definition) (type : ElementType) (search : String) : Prop :=
  Text.Holds search (definition.displayName type) ∨ Text.Holds search definition.paletteCategory

instance (definition : Definition) (type : ElementType) (search : String) :
    Decidable (definition.IsFound type search) :=
  inferInstanceAs (Decidable (_ ∨ _))

namespace Registry

/-- What a registry has of the types that a search finds. -/
def found (registry : Registry) (search : String) : List (ElementType × Definition) :=
  registry.entries.filter fun entry => entry.2.IsFound entry.1 search

/-- An entry of the palette, with its category. -/
def paletteItem (entry : ElementType × Definition) : String × PaletteEntry :=
  (entry.2.paletteCategory, entry.2.paletteEntry entry.1)

theorem paletteItems_eq (registry : Registry) (search : String) :
    registry.paletteItems search = (registry.found search).map paletteItem := by
  rw [paletteItems, found, List.filter_map]
  refine congrArg (List.map paletteItem) (List.filter_congr fun entry _ => ?_)
  rw [Bool.eq_iff_iff]
  simp only [Function.comp_apply, Text.matchesSearch, Bool.or_eq_true, Text.occursIn_eq_true_iff, decide_eq_true_eq,
    List.isEmpty_iff]
  refine ⟨?_, fun hfound => hfound.elim (fun hname => Or.inl (Or.inr hname)) Or.inr⟩
  rintro ((hnil | hname) | hcategory)
  · exact Or.inl (show needle search <:+: _ by rw [hnil]; exact List.nil_infix)
  · exact Or.inl hname
  · exact Or.inr hcategory

end Registry

/-! ### Groups -/

theorem eraseDups_snoc {α : Type} [DecidableEq α] (items : List α) (item : α) :
    (items ++ [item]).eraseDups = if item ∈ items then items.eraseDups else items.eraseDups ++ [item] := by
  rw [List.eraseDups_append, List.removeAll, List.filter_singleton]
  by_cases hitem : item ∈ items
  · simp [hitem]
  · simp [hitem, List.eraseDups_cons]

theorem nodup_eraseDups {α : Type} [DecidableEq α] (items : List α) : items.eraseDups.Nodup := by
  induction items using List.reverseRecOn with
  | nil => exact List.nodup_nil
  | append_singleton items item ih =>
      rw [eraseDups_snoc]
      split
      · exact ih
      · rename_i hnew
        refine List.nodup_append.mpr ⟨ih, List.nodup_singleton item, ?_⟩
        rintro other hother _ hlast rfl
        exact hnew (List.mem_singleton.mp hlast ▸ List.mem_eraseDups.mp hother)

namespace PaletteGroup

variable {items : List (String × PaletteEntry)} {groups : List PaletteGroup} {category : String} {entry : PaletteEntry}

theorem put_of_not_mem (hnew : category ∉ groups.map (·.category)) :
    put category entry groups = groups ++ [⟨category, [entry]⟩] := by
  induction groups with
  | nil => rfl
  | cons group groups ih =>
      rw [List.map_cons, List.mem_cons, not_or] at hnew
      rw [put, if_neg (Ne.symm hnew.1), ih hnew.2, List.cons_append]

theorem put_of_mem (hdistinct : (groups.map (·.category)).Nodup) (hold : category ∈ groups.map (·.category)) :
    put category entry groups = groups.map fun group =>
      if group.category = category then { group with entries := group.entries ++ [entry] } else group := by
  induction groups with
  | nil => cases hold
  | cons group groups ih =>
      rw [List.map_cons, List.nodup_cons] at hdistinct
      by_cases hsame : group.category = category
      · have hothers : groups.map (fun other =>
            if other.category = category then { other with entries := other.entries ++ [entry] } else other) = groups := by
          refine (List.map_congr_left fun other hother => if_neg ?_).trans groups.map_id
          exact fun hagain => hdistinct.1 (hsame.trans hagain.symm ▸ List.mem_map_of_mem hother)
        rw [put, if_pos hsame, List.map_cons, if_pos hsame, hothers]
      · have hrest : category ∈ groups.map (·.category) := (List.mem_cons.mp hold).resolve_left (Ne.symm hsame)
        rw [put, if_neg hsame, List.map_cons, if_neg hsame, ih hdistinct.2 hrest]

/-- The group of a category, with all its entries among some. -/
def ofItems (items : List (String × PaletteEntry)) (category : String) : PaletteGroup :=
  ⟨category, (items.filter (·.1 = category)).map (·.2)⟩

theorem ofItems_snoc (items : List (String × PaletteEntry)) (item : String × PaletteEntry) (category : String) :
    ofItems (items ++ [item]) category =
      if category = item.1 then ⟨category, (ofItems items category).entries ++ [item.2]⟩ else ofItems items category := by
  by_cases hsame : category = item.1
  · simp [ofItems, hsame]
  · simp [ofItems, hsame, Ne.symm hsame]

theorem ofItems_of_not_mem (hnew : category ∉ items.map (·.1)) : ofItems items category = ⟨category, []⟩ := by
  have hnone : items.filter (·.1 = category) = [] := by
    rw [List.filter_eq_nil_iff]
    intro item hitem hsame
    exact hnew (of_decide_eq_true hsame ▸ List.mem_map_of_mem hitem)
  rw [ofItems, hnone, List.map_nil]

theorem map_category_ofItems (items : List (String × PaletteEntry)) (categories : List String) :
    (categories.map (ofItems items)).map (·.category) = categories := by
  rw [List.map_map]
  exact List.map_id _

theorem gather_snoc (items : List (String × PaletteEntry)) (item : String × PaletteEntry) :
    gather (items ++ [item]) = put item.1 item.2 (gather items) :=
  List.foldl_concat ..

/-- One more entry goes into its group, be it there or not. -/
theorem put_ofItems (items : List (String × PaletteEntry)) (item : String × PaletteEntry) :
    put item.1 item.2 ((items.map (·.1)).eraseDups.map (ofItems items)) =
      ((items ++ [item]).map (·.1)).eraseDups.map (ofItems (items ++ [item])) := by
  have hcategories := map_category_ofItems items (items.map (·.1)).eraseDups
  rw [List.map_append, List.map_singleton, eraseDups_snoc]
  by_cases hold : item.1 ∈ items.map (·.1)
  · rw [if_pos hold, put_of_mem (by rw [hcategories]; exact nodup_eraseDups _)
      (by rw [hcategories]; exact List.mem_eraseDups.mpr hold), List.map_map]
    refine List.map_congr_left fun category _ => ?_
    rw [ofItems_snoc]
    rfl
  · rw [if_neg hold, put_of_not_mem (by rw [hcategories]; exact fun hmem => hold (List.mem_eraseDups.mp hmem)),
      List.map_append, List.map_singleton, ofItems_snoc, if_pos rfl, ofItems_of_not_mem hold]
    refine congrArg (· ++ _) (List.map_congr_left fun category hcategory => ?_)
    rw [ofItems_snoc, if_neg]
    rintro rfl
    exact hold (List.mem_eraseDups.mp hcategory)

/-- The groups are the categories in the order in which they are met first, each with all its entries. -/
theorem gather_eq (items : List (String × PaletteEntry)) :
    gather items = (items.map (·.1)).eraseDups.map (ofItems items) := by
  induction items using List.reverseRecOn with
  | nil => rfl
  | append_singleton items item ih => rw [gather_snoc, ih, put_ofItems]

end PaletteGroup

namespace Registry

variable {registry : Registry} {search : String} {group : PaletteGroup}

theorem found_of_blank (hblank : ∀ char ∈ search.toList, Text.isBlank char = true) :
    registry.found search = registry.entries :=
  List.filter_eq_self.mpr fun _ _ => decide_eq_true (Or.inl (Text.holds_of_blank hblank _))

/-- A capital letter finds the category that has it as a small one. -/
example :
    let definition : Definition := ⟨"\u1C8A", "i", { label := some "one" }⟩
    (⟨[(.text, definition)], by decide⟩ : Registry).searchPalette "\u1C89" =
      [⟨"\u1C8A", [⟨.text, "one", "i"⟩]⟩] := by
  decide +kernel

end Registry

end FormEditor
