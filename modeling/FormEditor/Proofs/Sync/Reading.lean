import FormEditor.Proofs.Sync.Call

/-! What a bridge reads against what its surface shows. While an edit waits, nothing else writes the
surface, so it shows what was typed last. That is the waiting edit itself, unless the text shown last
was typed back over it: such typing is taken for an echo, and the edit before it is read although it
is no longer on the surface. -/

namespace FormEditor

variable {α : Type} [Textual α]

/-- What was read is what a text holds, if anything was read. -/
def SyncOutcome.ReadsFrom (outcome : SyncOutcome α) (text : String) : Prop :=
  match outcome with
  | .applied model => Textual.parse? text = some model
  | .rejected => (Textual.parse? text : Option α) = none
  | .idle | .pushed => True

theorem SyncOutcome.readsFrom_ofRead_iff (text other : String) :
    (SyncOutcome.ofRead α text).ReadsFrom other ↔
      (Textual.parse? text : Option α) = Textual.parse? other := by
  unfold SyncOutcome.ofRead
  cases hparse : (Textual.parse? text : Option α) with
  | none => exact eq_comm
  | some model => exact eq_comm

namespace Bridge

/-- What holds while an edit waits, given the text that was typed last. -/
structure Attends (typed : Option String) (bridge : Bridge α) (edit : Scheduled String) : Prop where
  nothing_to_show : bridge.outbound.pending = none
  typed_on_surface : typed = some bridge.surface.text
  not_pushed : bridge.lastPushed ≠ some edit.item
  kept_or_echoed : bridge.surface.text = edit.item ∨ bridge.lastPushed = some bridge.surface.text

/-- Whatever edit waits is attended to. -/
def AttendsEdits (typed : Option String) (bridge : Bridge α) : Prop :=
  ∀ edit, bridge.inbound.pending = some edit → bridge.Attends typed edit

omit [Textual α] in
theorem attendsEdits_of_none {typed : Option String} {bridge : Bridge α}
    (hinbound : bridge.inbound.pending = none) : bridge.AttendsEdits typed := by
  intro edit hedit
  rw [hinbound] at hedit
  cases hedit

omit [Textual α] in
/-- While an edit waits, the text typed last was typed over it exactly if it is the text shown last. -/
theorem Attends.surface_eq_iff {typed : Option String} {bridge : Bridge α} {edit : Scheduled String}
    (hattends : bridge.Attends typed edit) :
    bridge.surface.text = edit.item ↔ typed ≠ bridge.lastPushed := by
  rw [hattends.typed_on_surface]
  constructor
  · intro hkept
    rw [hkept]
    exact hattends.not_pushed.symm
  · intro hother
    rcases hattends.kept_or_echoed with hkept | hechoed
    · exact hkept
    · exact absurd hechoed.symm hother

omit [Textual α] in
theorem AttendsEdits.editText {typed : Option String} {bridge : Bridge α}
    (hattends : bridge.AttendsEdits typed) (text : String) (now : Time) :
    (bridge.editText text now).AttendsEdits (some text) := by
  rcases bridge.editText_cases text now with ⟨hecho, hnext⟩ | ⟨hnew, hnext⟩
  · rw [hnext]
    intro edit hedit
    have hbefore := hattends edit hedit
    exact ⟨hbefore.nothing_to_show, rfl, hbefore.not_pushed, Or.inr hecho⟩
  · rw [hnext]
    rintro edit ⟨rfl⟩
    exact ⟨rfl, rfl, hnew, Or.inl rfl⟩

theorem attendsEdits_read (typed : Option String) (bridge : Bridge α) (text : String) :
    (bridge.read text).2.AttendsEdits typed :=
  attendsEdits_of_none (by simp)

theorem AttendsEdits.poll {typed : Option String} {bridge : Bridge α}
    (hattends : bridge.AttendsEdits typed) (now : Time) : (bridge.poll now).2.AttendsEdits typed := by
  rcases bridge.poll_cases now with ⟨_, _, hpush, -, hnext⟩ | ⟨_, _, -, -, hnext⟩ | ⟨-, -, hnext⟩
  · rw [hnext]
    intro edit hedit
    have hnothing := (hattends edit hedit).nothing_to_show
    rw [hpush] at hnothing
    cases hnothing
  · rw [hnext]
    exact attendsEdits_read typed bridge _
  · rw [hnext]
    exact hattends

theorem AttendsEdits.flush {typed : Option String} {bridge : Bridge α}
    (hattends : bridge.AttendsEdits typed) : bridge.flush.2.AttendsEdits typed := by
  rcases bridge.flush_cases with ⟨-, hnext⟩ | ⟨_, _, -, hnext⟩
  · rw [hnext]
    exact hattends
  · rw [hnext]
    exact attendsEdits_read typed bridge _

/-- Waiting edits are attended to, and the one that waits is the latest text typed that is not the text
shown last. -/
structure FollowsTyping (typed : List String) (bridge : Bridge α) : Prop where
  attends : bridge.AttendsEdits typed.head?
  queued : ∀ edit, bridge.inbound.pending = some edit →
    typed.find? (bridge.lastPushed ≠ some ·) = some edit.item

omit [Textual α] in
theorem followsTyping_of_none {typed : List String} {bridge : Bridge α}
    (hinbound : bridge.inbound.pending = none) : bridge.FollowsTyping typed := by
  refine ⟨attendsEdits_of_none hinbound, ?_⟩
  intro edit hedit
  rw [hinbound] at hedit
  cases hedit

omit [Textual α] in
theorem FollowsTyping.editText {typed : List String} {bridge : Bridge α}
    (hfollows : bridge.FollowsTyping typed) (text : String) (now : Time) :
    (bridge.editText text now).FollowsTyping (text :: typed) := by
  refine ⟨hfollows.attends.editText text now, ?_⟩
  rcases bridge.editText_cases text now with ⟨hecho, hnext⟩ | ⟨hnew, hnext⟩
  · rw [hnext]
    intro edit hedit
    rw [List.find?_cons_of_neg (by simpa using hecho)]
    exact hfollows.queued edit hedit
  · rw [hnext]
    rintro edit ⟨rfl⟩
    exact List.find?_cons_of_pos (by simpa using hnew)

/-- A step keeps to the texts that were typed. -/
theorem FollowsTyping.perform {typed : List String} {bridge : Bridge α}
    (hfollows : bridge.FollowsTyping typed) (call : Call α) (hdirect : call.isDirect) :
    (bridge.perform call).2.FollowsTyping (call.typed?.toList ++ typed) := by
  cases call with
  | modelChanged model now =>
      change (bridge.modelChanged model now).2.FollowsTyping typed
      rcases bridge.modelChanged_cases model now with
        ⟨-, hnext⟩ | ⟨hinbound, -, hnext⟩ | ⟨hinbound, -, hnext⟩
      · rw [hnext]
        exact hfollows
      · rw [hnext]
        exact followsTyping_of_none hinbound
      · rw [hnext]
        exact followsTyping_of_none hinbound
  | editText text now => exact hfollows.editText text now
  | textChanged now => cases hdirect
  | poll now =>
      change (bridge.poll now).2.FollowsTyping typed
      rcases bridge.poll_cases now with ⟨_, _, hpush, -, hnext⟩ | ⟨_, _, -, -, hnext⟩ | ⟨-, -, hnext⟩
      · refine followsTyping_of_none ?_
        rw [hnext]
        refine Option.eq_none_iff_forall_ne_some.mpr fun edit hedit => ?_
        cases hpush.symm.trans (hfollows.attends edit hedit).nothing_to_show
      · rw [hnext]
        exact followsTyping_of_none (by simp)
      · rw [hnext]
        exact hfollows
  | flush =>
      change bridge.flush.2.FollowsTyping typed
      rcases bridge.flush_cases with ⟨-, hnext⟩ | ⟨_, _, -, hnext⟩
      · rw [hnext]
        exact hfollows
      · rw [hnext]
        exact followsTyping_of_none (by simp)
  | showModel model => exact followsTyping_of_none rfl
  | showText text => cases hdirect

/-- A run keeps to the texts that were typed. -/
theorem FollowsTyping.run {calls : List (Call α)} (hdirect : ∀ call ∈ calls, call.isDirect) :
    ∀ {typed : List String} {bridge : Bridge α}, bridge.FollowsTyping typed →
      (bridge.run calls).FollowsTyping (typedTexts typed calls) := by
  induction calls with
  | nil => exact fun hfollows => hfollows
  | cons call calls ih =>
      intro typed bridge hfollows
      obtain ⟨hcall, hcalls⟩ := List.forall_mem_cons.mp hdirect
      exact ih hcalls (hfollows.perform call hcall)

/-- A poll or a flush that reads takes the edit that waits and leaves the surface alone. -/
theorem perform_reads (bridge : Bridge α) {reader : Call α} (hreads : reader.reads) :
    (bridge.perform reader).1 = .idle ∨ (bridge.perform reader).1 = .pushed ∨
    ∃ edit, bridge.inbound.pending = some edit ∧
      (bridge.perform reader).1 = .ofRead α edit.item ∧
      (bridge.perform reader).2.surface = bridge.surface := by
  cases reader with
  | poll now =>
      change (bridge.poll now).1 = .idle ∨ (bridge.poll now).1 = .pushed ∨ ∃ edit,
        bridge.inbound.pending = some edit ∧ (bridge.poll now).1 = .ofRead α edit.item ∧
        (bridge.poll now).2.surface = bridge.surface
      rcases bridge.poll_cases now with ⟨_, _, -, -, hnext⟩ | ⟨_, _, hedit, -, hnext⟩ | ⟨-, -, hnext⟩
      · exact Or.inr (Or.inl (by rw [hnext]))
      · refine Or.inr (Or.inr ⟨_, hedit, ?_⟩)
        rw [hnext]
        exact ⟨bridge.outcome_read _, bridge.surface_read _⟩
      · exact Or.inl (by rw [hnext])
  | flush =>
      change bridge.flush.1 = .idle ∨ bridge.flush.1 = .pushed ∨ ∃ edit,
        bridge.inbound.pending = some edit ∧ bridge.flush.1 = .ofRead α edit.item ∧
        bridge.flush.2.surface = bridge.surface
      rcases bridge.flush_cases with ⟨-, hnext⟩ | ⟨_, _, hedit, hnext⟩
      · exact Or.inl (by rw [hnext])
      · refine Or.inr (Or.inr ⟨_, hedit, ?_⟩)
        rw [hnext]
        exact ⟨bridge.outcome_read _, bridge.surface_read _⟩
  | modelChanged | editText | textChanged | showModel | showText => cases hreads

/-- **A bridge reads what its surface shows exactly if the text shown last was not typed back.** After
any run, a poll or a flush reads nothing or reads the latest text typed that is not the text shown last.
The surface shows that text if and only if the latest text typed is not the one shown last, and otherwise
what was read is what the surface holds only if the two texts read alike. -/
theorem reads_surface_iff_not_typed_back (surface : Surface) (inbound outbound : Nat)
    (calls : List (Call α)) (hdirect : ∀ call ∈ calls, call.isDirect)
    (reader : Call α) (hreads : reader.reads) :
    let before := (ofSurface surface inbound outbound : Bridge α).run calls
    let typed := typedTexts [] calls
    let outcome := (before.perform reader).1
    let after := (before.perform reader).2
    outcome = .idle ∨ outcome = .pushed ∨
    ∃ text, typed.find? (before.lastPushed ≠ some ·) = some text ∧ outcome = .ofRead α text ∧
      (after.surface.text = text ↔ typed.head? ≠ before.lastPushed) ∧
      (outcome.ReadsFrom after.surface.text ↔
        typed.head? ≠ before.lastPushed ∨
          (Textual.parse? text : Option α) = Textual.parse? after.surface.text) := by
  intro before typed outcome after
  rcases before.perform_reads hreads with hidle | hpushed | ⟨edit, hedit, hread, hsurface⟩
  · exact Or.inl hidle
  · exact Or.inr (Or.inl hpushed)
  have hfollows : before.FollowsTyping typed := FollowsTyping.run hdirect (followsTyping_of_none rfl)
  have hshown : after.surface.text = edit.item ↔ typed.head? ≠ before.lastPushed := by
    rw [hsurface]
    exact (hfollows.attends edit hedit).surface_eq_iff
  have hfrom : outcome.ReadsFrom after.surface.text ↔
      (Textual.parse? edit.item : Option α) = Textual.parse? after.surface.text := by
    rw [show outcome = .ofRead α edit.item from hread, SyncOutcome.readsFrom_ofRead_iff]
  refine Or.inr (Or.inr ⟨edit.item, hfollows.queued edit hedit, hread, hshown, ?_⟩)
  rw [hfrom]
  constructor
  · exact Or.inr
  · rintro (hother | halike)
    · rw [hshown.mpr hother]
    · exact halike

/-- An edit that nothing is typed over is read as it stands on the surface. -/
theorem reads_surface_of_edit :
    let calls : List (Call Record) := [.modelChanged ⟨1, .empty⟩ 0, .editText "\x7b\"id\":2\x7d" 10]
    let before := (ofSurface .empty 500 0 : Bridge Record).run calls
    (∀ call ∈ calls, call.isDirect) ∧ (Call.poll 510 : Call Record).reads ∧
      (before.perform (.poll 510)).1.ReadsFrom (before.perform (.poll 510)).2.surface.text := by
  intro calls before
  have hdirect : ∀ call ∈ calls, call.isDirect := by decide
  refine ⟨hdirect, rfl, ?_⟩
  rcases reads_surface_iff_not_typed_back .empty 500 0 calls hdirect (.poll 510) rfl with
    hidle | hpushed | ⟨text, -, -, -, hfrom⟩
  · rw [hidle]
    trivial
  · rw [hpushed]
    trivial
  · exact hfrom.mpr (Or.inl (by decide +kernel))

/-- **The text shown last, typed back over an edit, lets the abandoned edit through.** A record is shown,
another one is typed, and the shown text is typed back within the quiet period: the poll after it
applies the other record, while the surface holds the shown one. -/
theorem abandoned_edit_read :
    let calls : List (Call Record) :=
      [.modelChanged ⟨1, .empty⟩ 0, .editText "\x7b\"id\":2\x7d" 10,
        .editText "\x7b\n  \"id\": 1\n\x7d" 20]
    let before := (ofSurface .empty 500 0 : Bridge Record).run calls
    (∀ call ∈ calls, call.isDirect) ∧
      (before.perform (.poll 600)).1 = .applied ⟨2, .empty⟩ ∧
      (Textual.parse? (before.perform (.poll 600)).2.surface.text : Option Record) = some ⟨1, .empty⟩ ∧
      ¬(before.perform (.poll 600)).1.ReadsFrom (before.perform (.poll 600)).2.surface.text := by
  intro calls before
  have hread : (before.perform (.poll 600)).1 = .applied ⟨2, .empty⟩ := by decide +kernel
  have hshown : (Textual.parse? (before.perform (.poll 600)).2.surface.text : Option Record) =
      some ⟨1, .empty⟩ := by decide +kernel
  refine ⟨by decide, hread, hshown, ?_⟩
  rw [hread]
  intro hfrom
  cases hshown.symm.trans hfrom

end Bridge

end FormEditor
