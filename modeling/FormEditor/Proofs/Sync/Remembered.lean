import FormEditor.Proofs.Sync.Call

/-! The texts that a bridge has for its own: the one shown last, with which typing is compared, and the
one that waits to be shown. Each of them is the text of a model or was read as one, so what holds of both
kinds of texts holds of all that a bridge remembers. -/

namespace FormEditor.Bridge

variable {α : Type}

/-- What a bridge has for its own text has a property. -/
structure Remembers (holds : String → Prop) (bridge : Bridge α) : Prop where
  lastPushed : ∀ text, bridge.lastPushed = some text → holds text
  outbound : ∀ push, bridge.outbound.pending = some push → holds push.item

variable {holds : String → Prop} {bridge : Bridge α}

theorem remembers_ofDelays (holds : String → Prop) (inbound outbound : Nat) :
    (ofDelays inbound outbound : Bridge α).Remembers holds :=
  ⟨nofun, nofun⟩

theorem remembers_showText (bridge : Bridge α) {text : String} (htext : holds text) :
    (bridge.showText text).Remembers holds := by
  refine ⟨?_, nofun⟩
  rintro _ ⟨rfl⟩
  exact htext

/-- Typing adds nothing to what is remembered. -/
theorem Remembers.editText (hremembers : bridge.Remembers holds) (text : String) (now : Time) :
    (bridge.editText text now).Remembers holds := by
  rcases bridge.editText_cases text now with ⟨-, hnext⟩ | ⟨-, hnext⟩
  · rw [hnext]
    exact ⟨hremembers.lastPushed, hremembers.outbound⟩
  · rw [hnext]
    exact ⟨hremembers.lastPushed, nofun⟩

variable [Textual α]

theorem Remembers.modelChanged (hremembers : bridge.Remembers holds) {model : α}
    (hmodel : holds (Textual.render model)) (now : Time) :
    (bridge.modelChanged model now).2.Remembers holds := by
  rcases bridge.modelChanged_cases model now with ⟨-, hnext⟩ | ⟨-, -, hnext⟩ | ⟨-, -, hnext⟩
  · rw [hnext]
    exact hremembers
  · rw [hnext]
    exact bridge.remembers_showText hmodel
  · rw [hnext]
    refine ⟨hremembers.lastPushed, ?_⟩
    rintro push ⟨rfl⟩
    exact hmodel

/-- A text is remembered only if it could be read. -/
theorem Remembers.read (hremembers : bridge.Remembers holds)
    (hread : ∀ text (model : α), Textual.parse? text = some model → holds text) (text : String) :
    (bridge.read text).2.Remembers holds := by
  refine ⟨?_, by rw [outbound_read]; exact hremembers.outbound⟩
  intro other hother
  unfold Bridge.read apply at hother
  cases hparse : (Textual.parse? text : Option α) with
  | none =>
      rw [hparse] at hother
      exact hremembers.lastPushed other hother
  | some model =>
      rw [hparse] at hother
      cases hother
      exact hread text model hparse

theorem Remembers.poll (hremembers : bridge.Remembers holds)
    (hread : ∀ text (model : α), Textual.parse? text = some model → holds text) (now : Time) :
    (bridge.poll now).2.Remembers holds := by
  rcases bridge.poll_cases now with ⟨_, _, hpush, -, hnext⟩ | ⟨_, _, -, -, hnext⟩ | ⟨-, -, hnext⟩
  · rw [hnext]
    exact bridge.remembers_showText (hremembers.outbound _ hpush)
  · rw [hnext]
    exact hremembers.read hread _
  · rw [hnext]
    exact hremembers

end FormEditor.Bridge
