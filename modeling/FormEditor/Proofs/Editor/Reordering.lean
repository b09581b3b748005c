import FormEditor.Editor.Structure
import FormEditor.Proofs.Form.Gap
import Mathlib.Logic.Equiv.Basic

/-! Rows that move. A row that moves past its neighbour stays in a gap that shifts: one row goes from one side of the
gap to the other. The gap shifts back in the opposite direction, and it shifts as often as there are rows on the
side that it moves to. No two rows may have the same id for this, as a row is told by its id. Whatever the ids
are, moves keep the rows of every section. -/

namespace FormEditor

namespace MoveDirection

def opposite : MoveDirection → MoveDirection
  | .up => .down
  | .down => .up

/-- The index of the neighbour in a direction, among a number of rows. -/
def neighbour? (direction : MoveDirection) (index count : Nat) : Option Nat :=
  match direction with
  | .up => if 0 < index then some (index - 1) else none
  | .down => if index + 1 < count then some (index + 1) else none

/-- How many rows there are in a direction. -/
def room (direction : MoveDirection) (index count : Nat) : Nat :=
  match direction with
  | .up => index
  | .down => count - 1 - index

end MoveDirection

section Lists

variable {α : Type} {items : List α} {item : α} {index : Nat}

/-- A list is cut at an index. -/
theorem exists_at (hitem : items[index]? = some item) :
    ∃ before after, items = before ++ item :: after ∧ before.length = index := by
  obtain ⟨hlt, rfl⟩ := List.getElem?_eq_some_iff.mp hitem
  refine ⟨items.take index, items.drop (index + 1), ?_, List.length_take_of_le (Nat.le_of_lt hlt)⟩
  rw [List.getElem_cons_drop, List.take_append_drop]

/-- Two items that stand side by side are swapped. -/
theorem getElem?_swapped (above : List α) (first second : α) (below : List α) (index : Nat) :
    (above ++ second :: first :: below)[index]? =
      (above ++ first :: second :: below)[Equiv.swap above.length (above.length + 1) index]? := by
  rw [Equiv.swap_apply_def]
  split_ifs with hfirst hsecond
  · simp [hfirst]
  · simp [hsecond]
  · rcases Nat.lt_or_ge index above.length with hbefore | hafter
    · rw [List.getElem?_append_left hbefore, List.getElem?_append_left hbefore]
    · obtain ⟨rest, hrest⟩ : ∃ rest, index - above.length = rest + 2 := ⟨index - above.length - 2, by omega⟩
      rw [List.getElem?_append_right hafter, List.getElem?_append_right hafter, hrest]
      rfl

theorem forall₂_trans {relation : α → α → Prop} {next last : List α} (hitems : List.Forall₂ relation items next)
    (hnext : List.Forall₂ relation next last)
    (htrans : ∀ first second third, relation first second → relation second third → relation first third) :
    List.Forall₂ relation items last := by
  induction hitems generalizing last with
  | nil => exact hnext
  | cons hitem hitems ih =>
      cases hnext with
      | cons hchanged hnext => exact .cons (htrans _ _ _ hitem hchanged) (ih hnext)

end Lists

namespace RowGap

/-- How many rows of its section are on a side of a gap. -/
def room (gap : RowGap) (direction : MoveDirection) : Nat :=
  match direction with
  | .up => gap.above.length
  | .down => gap.below.length

/-- The row next to a gap on one side goes to the other side. -/
inductive Shifts : MoveDirection → RowGap → RowGap → Prop where
  | up (before : List Section) (id title : String) (above : List Row) (other : Row) (below : List Row)
      (after : List Section) :
      Shifts .up ⟨before, id, title, above ++ [other], below, after⟩ ⟨before, id, title, above, other :: below, after⟩
  | down (before : List Section) (id title : String) (above : List Row) (other : Row) (below : List Row)
      (after : List Section) :
      Shifts .down ⟨before, id, title, above, other :: below, after⟩ ⟨before, id, title, above ++ [other], below, after⟩

variable {direction : MoveDirection} {gap next : RowGap}

theorem Shifts.back (hshifts : Shifts direction gap next) : Shifts direction.opposite next gap := by
  cases hshifts with
  | up => exact .down ..
  | down => exact .up ..

theorem Shifts.room_eq (hshifts : Shifts direction gap next) : gap.room direction = next.room direction + 1 := by
  cases hshifts with
  | up => exact List.length_append
  | down => rfl

theorem Shifts.mem_around (hshifts : Shifts direction gap next) {row : Row} : row ∈ next.around ↔ row ∈ gap.around := by
  cases hshifts <;> simp [around]

theorem Shifts.sections_eq (hshifts : Shifts direction gap next) (rows : List Row) :
    next.sections rows = gap.before ++ next.part rows :: gap.after := by
  cases hshifts <;> rfl

theorem room_eq_of_count {count : Nat} (hcount : gap.above.length + 1 + gap.below.length = count) :
    direction.room gap.above.length count = gap.room direction := by
  cases direction with
  | up => rfl
  | down =>
      show count - 1 - gap.above.length = gap.below.length
      omega

theorem neighbour?_of_room_eq_zero {count : Nat} (hcount : gap.above.length + 1 + gap.below.length = count)
    (hroom : gap.room direction = 0) : direction.neighbour? gap.above.length count = none := by
  cases direction with
  | up => exact if_neg (Nat.not_lt_of_le (Nat.le_of_eq hroom))
  | down =>
      have hbelow : gap.below.length = 0 := hroom
      rw [MoveDirection.neighbour?, if_neg (by omega)]

theorem Shifts.neighbour?_eq (hshifts : Shifts direction gap next) {count : Nat}
    (hcount : gap.above.length + 1 + gap.below.length = count) :
    direction.neighbour? gap.above.length count = some next.above.length := by
  cases hshifts with
  | up before id title above other below after =>
      rw [MoveDirection.neighbour?, List.length_append, List.length_singleton, if_pos (Nat.succ_pos _),
        Nat.add_sub_cancel]
  | down before id title above other below after =>
      rw [List.length_cons] at hcount
      rw [MoveDirection.neighbour?, if_pos (by omega), List.length_append, List.length_singleton]

theorem exists_shifts (hroom : gap.room direction ≠ 0) : ∃ next, Shifts direction gap next := by
  obtain ⟨before, id, title, above, below, after⟩ := gap
  cases direction with
  | up =>
      have habove : above ≠ [] := List.length_pos_iff.mp (Nat.pos_of_ne_zero hroom)
      rw [← List.dropLast_concat_getLast habove]
      exact ⟨_, .up ..⟩
  | down =>
      obtain ⟨other, rest, rfl⟩ := List.exists_cons_of_ne_nil (List.length_pos_iff.mp (Nat.pos_of_ne_zero hroom))
      exact ⟨_, .down ..⟩

end RowGap

namespace Row

variable {rowId : String} {first other row : Row} {above rows : List Row}

theorem raise?_cons (hfirst : first.id ≠ rowId) (hhead : ∀ second ∈ rows.head?, second.id ≠ rowId) :
    raise? rowId (first :: rows) = (raise? rowId rows).map (first :: ·) := by
  cases rows with
  | nil => rfl
  | cons second rows => rw [raise?, if_neg hfirst, if_neg (hhead second rfl)]

theorem raise?_append (habove : ∀ earlier ∈ above, earlier.id ≠ rowId) (hother : other.id ≠ rowId) (rows : List Row) :
    raise? rowId (above ++ other :: rows) = (raise? rowId (other :: rows)).map (above ++ ·) := by
  induction above with
  | nil => exact Option.map_id'.symm
  | cons first above ih =>
      obtain ⟨hfirst, habove⟩ := List.forall_mem_cons.mp habove
      have hhead : ∀ second ∈ (above ++ other :: rows).head?, second.id ≠ rowId := by
        cases above with
        | nil => simpa using hother
        | cons second above => simpa using habove second List.mem_cons_self
      rw [List.cons_append, raise?_cons hfirst hhead, ih habove, Option.map_map]
      rfl

theorem lower?_append (habove : ∀ earlier ∈ above, earlier.id ≠ rowId) (rows : List Row) :
    lower? rowId (above ++ rows) = (lower? rowId rows).map (above ++ ·) := by
  induction above with
  | nil => exact Option.map_id'.symm
  | cons first above ih =>
      obtain ⟨hfirst, habove⟩ := List.forall_mem_cons.mp habove
      have hcons : ∀ rows, lower? rowId (first :: rows) = (lower? rowId rows).map (first :: ·) := by
        intro rows
        cases rows with
        | nil => rfl
        | cons second rows => rw [lower?, if_neg hfirst]
      rw [List.cons_append, hcons, ih habove, Option.map_map]
      rfl

end Row

namespace Section

variable {rowId : String} {direction : MoveDirection} {before after parts : List Section} {part : Section}

theorem holdsRow_eq_false_iff : part.holdsRow rowId = false ↔ ∀ row ∈ part.rows, row.id ≠ rowId := by
  simp [holdsRow]

theorem moveRowIn_append (hbefore : ∀ other ∈ before, other.holdsRow rowId = false)
    (hpart : part.holdsRow rowId = true) :
    moveRowIn rowId direction (before ++ part :: after) =
      some ((part.moveRow? rowId direction).isSome, before ++ (part.moveRow? rowId direction).getD part :: after) := by
  induction before with
  | nil =>
      rw [List.nil_append, moveRowIn, if_pos hpart]
      cases part.moveRow? rowId direction <;> rfl
  | cons other before ih =>
      obtain ⟨hother, hbefore⟩ := List.forall_mem_cons.mp hbefore
      rw [List.cons_append, moveRowIn, if_neg (Bool.eq_false_iff.mp hother), ih hbefore]
      rfl

theorem moveRowIn_eq_none (hparts : ∀ part ∈ parts, part.holdsRow rowId = false) :
    moveRowIn rowId direction parts = none := by
  induction parts with
  | nil => rfl
  | cons part parts ih =>
      obtain ⟨hpart, hparts⟩ := List.forall_mem_cons.mp hparts
      rw [moveRowIn, if_neg (Bool.eq_false_iff.mp hpart), ih hparts]
      rfl

end Section

namespace RowGap

variable {direction : MoveDirection} {gap next : RowGap} {row : Row}

theorem Shifts.moveRow? (hshifts : Shifts direction gap next) (hothers : ∀ other ∈ gap.around, other.id ≠ row.id) :
    (gap.part [row]).moveRow? row.id direction = some (next.part [row]) := by
  simp only [around, List.forall_mem_append] at hothers
  obtain ⟨⟨-, habove, hbelow⟩, -⟩ := hothers
  cases hshifts with
  | up before id title above other below after =>
      obtain ⟨habove, hother⟩ := List.forall_mem_append.mp habove
      have hother : other.id ≠ row.id := hother other (List.mem_singleton_self other)
      have hraised := Row.raise?_append habove hother (row :: below)
      rw [Row.raise?, if_neg hother, if_pos rfl] at hraised
      simp only [Section.moveRow?, part, List.append_assoc, List.cons_append, List.nil_append, hraised]
      rfl
  | down before id title above other below after =>
      have hlowered := Row.lower?_append habove (row :: other :: below)
      rw [Row.lower?, if_pos rfl] at hlowered
      simp only [Section.moveRow?, part, List.append_assoc, List.cons_append, List.nil_append, hlowered]
      rfl

theorem moveRow?_eq_none (hroom : gap.room direction = 0) (hothers : ∀ other ∈ gap.around, other.id ≠ row.id) :
    (gap.part [row]).moveRow? row.id direction = none := by
  simp only [around, List.forall_mem_append] at hothers
  obtain ⟨⟨-, habove, -⟩, -⟩ := hothers
  cases direction with
  | up =>
      have hnil : gap.above = [] := List.length_eq_zero_iff.mp hroom
      simp only [Section.moveRow?, part, hnil, List.nil_append, List.cons_append]
      cases gap.below with
      | nil => rfl
      | cons other below => rw [Row.raise?, if_pos rfl, Option.map_none]
  | down =>
      have hnil : gap.below = [] := List.length_eq_zero_iff.mp hroom
      simp only [Section.moveRow?, part, hnil, List.append_nil, Row.lower?_append habove]
      rfl

end RowGap

namespace Form

/-- The form after a row was told to move. -/
def moved (form : Form) (rowId : String) (direction : MoveDirection) : Form :=
  match form.moveRow rowId direction with
  | .ok (_, next) => next
  | .error _ => form

/-- The form after rows were told to move, one after the other. -/
def moveRows (form : Form) (moves : List (String × MoveDirection)) : Form :=
  moves.foldl (fun form move => form.moved move.1 move.2) form

/-- The rows at two indices of a section are swapped. -/
def SwapsRows (form : Form) (place index other : Nat) (next : Form) : Prop :=
  ∃ part rows, form.sections[place]? = some part ∧
    (∀ index', rows[index']? = part.rows[Equiv.swap index other index']?) ∧
    next = form.withSections (form.sections.set place { part with rows })

/-- A form has the same rows in the same sections, where they may stand in another order. -/
structure Reorders (form next : Form) : Prop where
  config : next.config = form.config
  registry : next.registry = form.registry
  sections : List.Forall₂ Section.Reorders form.sections next.sections

variable {form next : Form} {gap shifted : RowGap} {row : Row} {rowId : String} {direction : MoveDirection}

theorem moveRow_gap (hsections : form.sections = gap.sections [row]) (hothers : ∀ other ∈ gap.around, other.id ≠ row.id)
    {moved : Option Section} (hmoved : (gap.part [row]).moveRow? row.id direction = moved) :
    form.moveRow row.id direction =
      .ok (moved.isSome, form.withSections (gap.before ++ moved.getD (gap.part [row]) :: gap.after)) := by
  have hbefore : ∀ part ∈ gap.before, part.holdsRow row.id = false := by
    intro part hpart
    refine Section.holdsRow_eq_false_iff.mpr fun other hother => hothers other ?_
    exact List.mem_append_left _ (List.mem_append_left _ (List.mem_flatMap_of_mem hpart hother))
  have hpart : (gap.part [row]).holdsRow row.id = true := by
    simp [Section.holdsRow, RowGap.part]
  rw [moveRow, hsections, RowGap.sections, Section.moveRowIn_append hbefore hpart, hmoved]
  rfl

theorem moveRow_of_shifts (hsections : form.sections = gap.sections [row])
    (hothers : ∀ other ∈ gap.around, other.id ≠ row.id) (hshifts : RowGap.Shifts direction gap shifted) :
    form.moveRow row.id direction = .ok (true, form.withSections (shifted.sections [row])) := by
  rw [moveRow_gap hsections hothers (hshifts.moveRow? hothers), hshifts.sections_eq]
  rfl

theorem moveRow_back (hsections : form.sections = gap.sections [row])
    (hothers : ∀ other ∈ gap.around, other.id ≠ row.id) (hshifts : RowGap.Shifts direction gap shifted) :
    (form.withSections (shifted.sections [row])).moveRow row.id direction.opposite = .ok (true, form) := by
  have hback : ∀ other ∈ shifted.around, other.id ≠ row.id :=
    fun other hother => hothers other (hshifts.mem_around.mp hother)
  rw [moveRow_of_shifts rfl hback hshifts.back]
  show Except.ok (true, form.withSections (gap.sections [row])) = _
  rw [withSections_eq_self hsections]

theorem moveRow_of_room_eq_zero (hsections : form.sections = gap.sections [row])
    (hothers : ∀ other ∈ gap.around, other.id ≠ row.id) (hroom : gap.room direction = 0) :
    form.moveRow row.id direction = .ok (false, form) := by
  rw [moveRow_gap hsections hothers (RowGap.moveRow?_eq_none hroom hothers)]
  show Except.ok (false, form.withSections (gap.sections [row])) = _
  rw [withSections_eq_self hsections]

theorem moved_of_moveRow {past : Bool} (hmoved : form.moveRow rowId direction = .ok (past, next)) :
    form.moved rowId direction = next := by
  rw [moved, hmoved]

/-- A row moves as often as there are rows on the side that it moves to. -/
theorem moveRow_moveRows_replicate (times : Nat) :
    ∀ {form : Form} {gap : RowGap}, form.sections = gap.sections [row] → (∀ other ∈ gap.around, other.id ≠ row.id) →
      ∃ last, (form.moveRows (List.replicate times (row.id, direction))).moveRow row.id direction =
        .ok (decide (times < gap.room direction), last) := by
  induction times with
  | zero =>
      intro form gap hsections hothers
      by_cases hroom : gap.room direction = 0
      · rw [hroom]
        exact ⟨form, moveRow_of_room_eq_zero hsections hothers hroom⟩
      · obtain ⟨shifted, hshifts⟩ := RowGap.exists_shifts hroom
        rw [decide_eq_true (Nat.pos_of_ne_zero hroom)]
        exact ⟨_, moveRow_of_shifts hsections hothers hshifts⟩
  | succ times ih =>
      intro form gap hsections hothers
      rw [List.replicate_succ, moveRows, List.foldl_cons]
      by_cases hroom : gap.room direction = 0
      · obtain ⟨last, hlast⟩ := ih hsections hothers
        rw [moved_of_moveRow (moveRow_of_room_eq_zero hsections hothers hroom)]
        rw [hroom] at hlast ⊢
        exact ⟨last, hlast⟩
      · obtain ⟨shifted, hshifts⟩ := RowGap.exists_shifts hroom
        rw [moved_of_moveRow (moveRow_of_shifts hsections hothers hshifts), hshifts.room_eq]
        simp only [Nat.add_lt_add_iff_right]
        exact ih rfl fun other hother => hothers other (hshifts.mem_around.mp hother)

theorem swapsRows_of_shifts (hsections : form.sections = gap.sections [row])
    (hshifts : RowGap.Shifts direction gap shifted) :
    form.SwapsRows gap.before.length gap.above.length shifted.above.length
      (form.withSections (shifted.sections [row])) := by
  refine ⟨gap.part [row], (shifted.part [row]).rows, ?_, ?_, ?_⟩
  · rw [hsections, RowGap.sections, List.getElem?_append_right (Nat.le_refl _), Nat.sub_self]
    rfl
  · intro index
    cases hshifts with
    | up before id title above other below after =>
        have hswapped := getElem?_swapped above other row below index
        simpa [RowGap.part, Equiv.swap_comm] using hswapped
    | down before id title above other below after =>
        have hswapped := getElem?_swapped above row other below index
        simpa [RowGap.part] using hswapped
  · rw [hsections, hshifts.sections_eq, RowGap.sections, List.set_append_right _ _ (Nat.le_refl _), Nat.sub_self,
      List.set_cons_zero]
    cases hshifts <;> rfl

/-- The gap around the row at an index of a section. -/
theorem exists_gap_at {place index : Nat} {part : Section} (hpart : form.sections[place]? = some part)
    (hrow : part.rows[index]? = some row) :
    ∃ gap : RowGap, form.sections = gap.sections [row] ∧ gap.before.length = place ∧ gap.above.length = index ∧
      index + 1 + gap.below.length = part.rows.length := by
  obtain ⟨before, after, hsections, hplace⟩ := exists_at hpart
  obtain ⟨above, below, hrows, hindex⟩ := exists_at hrow
  refine ⟨⟨before, part.id, part.title, above, below, after⟩, ?_, hplace, hindex, ?_⟩
  · rw [hsections, RowGap.sections, RowGap.part, List.append_assoc, List.singleton_append, ← hrows]
  · rw [hrows, List.length_append, List.length_cons, hindex, Nat.add_assoc, Nat.add_comm 1]

theorem Reorders.refl (form : Form) : form.Reorders form :=
  ⟨rfl, rfl, List.forall₂_same.mpr fun part _ => .refl part⟩

theorem Reorders.trans {last : Form} (hnext : form.Reorders next) (hlast : next.Reorders last) :
    form.Reorders last := by
  refine ⟨hlast.config.trans hnext.config, hlast.registry.trans hnext.registry, ?_⟩
  exact forall₂_trans hnext.sections hlast.sections fun _ _ _ => Section.Reorders.trans

/-- What the move of a row can do to a form, whatever the ids of its rows are. -/
theorem reorders_of_moveRow {past : Bool} (hmoved : form.moveRow rowId direction = .ok (past, next)) :
    form.Reorders next ∧ (past = false → next = form) := by
  unfold moveRow at hmoved
  split at hmoved
  · rename_i hsections
    cases hmoved
    obtain ⟨before, part, changed, after, hold, hreorders, hsame, rfl⟩ := Section.exists_of_moveRowIn hsections
    have hothers : ∀ parts : List Section, List.Forall₂ Section.Reorders parts parts :=
      fun parts => List.forall₂_same.mpr fun part _ => .refl part
    refine ⟨⟨rfl, rfl, ?_⟩, fun hpast => ?_⟩
    · rw [hold]
      exact List.rel_append (hothers before) (.cons hreorders (hothers after))
    · rw [hsame hpast]
      exact withSections_eq_self hold
  · cases hmoved

theorem reorders_moved (form : Form) (rowId : String) (direction : MoveDirection) :
    form.Reorders (form.moved rowId direction) := by
  unfold moved
  split
  · rename_i hmoved
    exact (reorders_of_moveRow hmoved).1
  · exact .refl form

/-- Moves of rows, however many, keep the rows of every section. -/
theorem reorders_moveRows (moves : List (String × MoveDirection)) :
    ∀ form : Form, form.Reorders (form.moveRows moves) := by
  induction moves with
  | nil => exact .refl
  | cons move moves ih => exact fun form => (form.reorders_moved move.1 move.2).trans (ih _)

theorem moveRow_eq_error (hunknown : ∀ row ∈ form.rows, row.id ≠ rowId) (direction : MoveDirection) :
    form.moveRow rowId direction = .error (.missingTarget .row rowId) := by
  have hparts : ∀ part ∈ form.sections, part.holdsRow rowId = false := by
    intro part hpart
    refine Section.holdsRow_eq_false_iff.mpr fun row hrow => hunknown row ?_
    exact List.mem_flatMap_of_mem hpart hrow
  rw [moveRow, Section.moveRowIn_eq_none hparts]
  rfl

theorem ne_of_mem_around (hdistinct : (form.rows.map (·.id)).Nodup) (hsections : form.sections = gap.sections [row]) :
    ∀ other ∈ gap.around, other.id ≠ row.id := by
  have hperm := (perm_rows_gap hsections).map (·.id)
  obtain ⟨hother, -⟩ := List.nodup_cons.mp (hperm.nodup_iff.mp hdistinct)
  exact fun other hmem hsame => hother (List.mem_map.mpr ⟨other, hmem, hsame⟩)

end Form

namespace Editor

theorem form_moveRow (editor : Editor) (rowId : String) (direction : MoveDirection) (now : Time) :
    (editor.moveRow rowId direction now).2.form = editor.form.moved rowId direction := by
  unfold moveRow Form.moved
  cases hmoved : editor.form.moveRow rowId direction with
  | error cause => rfl
  | ok outcome =>
      obtain ⟨past, next⟩ := outcome
      cases past with
      | true => rfl
      | false => exact ((Form.reorders_of_moveRow hmoved).2 rfl).symm

/-- **Rows move by swaps of neighbours.** Let no two rows of a form have the same id. A row moves if and only if it has a
neighbour in the direction. Then the two are swapped and nothing else changes, and to move the row back makes
the form as it was. Told again and again, it moves as often as there are rows in the direction, and never after
that. Where nothing moves, the form is as it was. No sequence of moves adds a row, takes one away or brings one
to another section. An id that no row has is an error. An editor of the form does the same, and it stays as it is if
no row has the id. -/
theorem rows_move_by_swaps {form : Form} (hdistinct : (form.rows.map (·.id)).Nodup) :
    (∀ place part index row (direction : MoveDirection), form.sections[place]? = some part →
      part.rows[index]? = some row →
        (∃ next, form.moveRow row.id direction = .ok ((direction.neighbour? index part.rows.length).isSome, next) ∧
          ∀ other ∈ direction.neighbour? index part.rows.length,
            form.SwapsRows place index other next ∧ next.moveRow row.id direction.opposite = .ok (true, form)) ∧
        ∀ times, ∃ last, (form.moveRows (List.replicate times (row.id, direction))).moveRow row.id direction =
          .ok (decide (times < direction.room index part.rows.length), last)) ∧
    (∀ rowId direction next, form.moveRow rowId direction = .ok (false, next) → next = form) ∧
    (∀ moves, form.Reorders (form.moveRows moves)) ∧
    (∀ rowId, (∀ row ∈ form.rows, row.id ≠ rowId) → ∀ direction,
      form.moveRow rowId direction = .error (.missingTarget .row rowId)) ∧
    ∀ editor : Editor, editor.form = form → ∀ rowId direction now,
      (editor.moveRow rowId direction now).2.form = form.moved rowId direction ∧
      ((∀ row ∈ form.rows, row.id ≠ rowId) → editor.moveRow rowId direction now = ([], editor)) := by
  refine ⟨?_, fun rowId direction next hmoved => (Form.reorders_of_moveRow hmoved).2 rfl,
    fun moves => Form.reorders_moveRows moves form, fun rowId => Form.moveRow_eq_error, ?_⟩
  · intro place part index row direction hpart hrow
    obtain ⟨gap, hsections, rfl, rfl, hcount⟩ := Form.exists_gap_at hpart hrow
    have hothers := Form.ne_of_mem_around hdistinct hsections
    refine ⟨?_, fun times => ?_⟩
    · by_cases hroom : gap.room direction = 0
      · rw [RowGap.neighbour?_of_room_eq_zero hcount hroom]
        exact ⟨form, Form.moveRow_of_room_eq_zero hsections hothers hroom, nofun⟩
      · obtain ⟨shifted, hshifts⟩ := RowGap.exists_shifts hroom
        rw [hshifts.neighbour?_eq hcount]
        refine ⟨_, Form.moveRow_of_shifts hsections hothers hshifts, ?_⟩
        rintro other ⟨⟩
        exact ⟨Form.swapsRows_of_shifts hsections hshifts, Form.moveRow_back hsections hothers hshifts⟩
    · rw [RowGap.room_eq_of_count hcount]
      exact Form.moveRow_moveRows_replicate times hsections hothers
  · rintro editor rfl rowId direction now
    refine ⟨editor.form_moveRow rowId direction now, fun hunknown => ?_⟩
    rw [moveRow, Form.moveRow_eq_error hunknown]

/-- The first of three rows moves down twice, while a row of another section has nowhere to go. -/
theorem first_row_moved_to_the_end :
    let row (id : String) : Row := ⟨id, [], none⟩
    let withRows (rows : List Row) : Form :=
      { Form.blank "u" with sections := [⟨"s", "S", [row "x"]⟩, ⟨"t", "T", rows⟩] }
    let form := withRows [row "a", row "b", row "c"]
    let next := withRows [row "b", row "a", row "c"]
    (form.rows.map (·.id)).Nodup ∧ form.moveRow "a" .down = .ok (true, next) ∧ form.SwapsRows 1 0 1 next ∧
    next.moveRow "a" .up = .ok (true, form) ∧ form.moveRow "x" .down = .ok (false, form) ∧
    (∀ times, ∃ last, (form.moveRows (List.replicate times ("a", .down))).moveRow "a" .down =
      .ok (decide (times < 2), last)) ∧
    form.moveRows [("a", .down), ("x", .up), ("a", .down)] = withRows [row "b", row "c", row "a"] ∧
    form.Reorders (withRows [row "b", row "c", row "a"]) ∧
    form.moveRow "ghost" .up = .error (.missingTarget .row "ghost") := by
  intro row withRows form next
  have hdistinct : (form.rows.map (·.id)).Nodup := by decide +kernel
  have hnext : form.moveRow "a" .down = .ok (true, next) := by decide +kernel
  have hlast : form.moveRows [("a", .down), ("x", .up), ("a", .down)] = withRows [row "b", row "c", row "a"] := by
    decide +kernel
  obtain ⟨hmoves, -, hreorders, hunknown, -⟩ := rows_move_by_swaps hdistinct
  obtain ⟨⟨next', hnext', hswaps⟩, htimes⟩ :=
    hmoves 1 ⟨"t", "T", [row "a", row "b", row "c"]⟩ 0 (row "a") .down rfl rfl
  cases hnext.symm.trans hnext'
  obtain ⟨hswaps, hback⟩ := hswaps 1 rfl
  exact ⟨hdistinct, hnext, hswaps, hback, by decide +kernel, htimes, hlast, hlast ▸ hreorders _,
    hunknown "ghost" (by decide +kernel) .up⟩

end Editor

end FormEditor
