import FormEditor.Form.Codec
import FormEditor.Record.Basic
import FormEditor.Sync.Debounce

/-! A bridge keeps a model and the text of it on the screen in step. Changes of the model wait to be shown, and
typed text waits to be read. The two never wait at the same time: typing drops what was to be shown, and as
long as typed text waits no change of the model is taken up. The text that was shown last is remembered, so
that the screen reporting it back is not taken for typing. Typed text that cannot be read changes nothing. -/

namespace FormEditor

/-- Models with a text. -/
class Textual (α : Type) where
  parse? : String → Option α
  render : α → String

instance : Textual Form where
  parse? text := (Form.ofText text).toOption
  render := Form.text

instance : Textual Record where
  parse? text := (Record.ofText text).toOption
  render := Record.text

/-- A text on the screen, and how often it was written by the program. -/
structure Surface where
  text : String
  writes : Nat
  deriving DecidableEq

namespace Surface

def empty : Surface :=
  ⟨"", 0⟩

/-- What the surface is told about the kind of its text. -/
def contentType : String := "json"

def write (surface : Surface) (text : String) : Surface :=
  ⟨text, surface.writes + 1⟩

/-- The user changes the text. -/
def type (surface : Surface) (text : String) : Surface :=
  { surface with text }

end Surface

/-- What came of running a bridge. -/
inductive SyncOutcome (α : Type) where
  | idle
  | pushed
  /-- The typed text was read; the model is to be replaced. -/
  | applied (model : α)
  | rejected
  deriving DecidableEq

/-- The bridge of a model of type `α`. -/
structure Bridge (α : Type) where
  surface : Surface
  /-- The text that waits to be shown. -/
  outbound : Debounce String
  /-- The text that waits to be read. -/
  inbound : Debounce String
  lastPushed : Option String
  deriving DecidableEq

namespace Bridge

variable {α : Type}

/-- A bridge that waits so long before it reads and before it shows a text. -/
def ofDelays (inbound outbound : Nat) : Bridge α :=
  ⟨.empty, .ofDelay outbound, .ofDelay inbound, none⟩

def isPending (bridge : Bridge α) : Bool :=
  bridge.outbound.isPending || bridge.inbound.isPending

/-- The first time at which something is to be done. -/
def deadline? (bridge : Bridge α) : Option Time :=
  match bridge.outbound.deadline?, bridge.inbound.deadline? with
  | some outbound, some inbound => some (min outbound inbound)
  | outbound, inbound => outbound.or inbound

/-- Writes a text and remembers that it was written. -/
def push (bridge : Bridge α) (text : String) : Bridge α :=
  { bridge with surface := bridge.surface.write text, lastPushed := some text }

/-- Shows the text that waits to be shown if its time has come. -/
def pushDue (bridge : Bridge α) (now : Time) : Bool × Bridge α :=
  match bridge.outbound.due now with
  | (some text, outbound) => (true, { bridge with outbound }.push text)
  | (none, outbound) => (false, { bridge with outbound })

/-- Takes up a change of the model unless typed text waits, and says whether it was shown at once. -/
def modelChanged [Textual α] (bridge : Bridge α) (model : α) (now : Time) : Bool × Bridge α :=
  if bridge.inbound.isPending then (false, bridge)
  else { bridge with outbound := bridge.outbound.schedule (Textual.render model) now }.pushDue now

/-- Shows a text at once. -/
def showText (bridge : Bridge α) (text : String) : Bridge α :=
  { bridge with outbound := bridge.outbound.cancel }.push text

/-- Shows a model at once and drops everything that waits. -/
def showModel [Textual α] (bridge : Bridge α) (model : α) : Bridge α :=
  { bridge with inbound := bridge.inbound.cancel }.showText (Textual.render model)

/-- Reads a typed text. -/
def apply [Textual α] (bridge : Bridge α) (text : String) : SyncOutcome α × Bridge α :=
  match Textual.parse? text with
  | some model => (.applied model, { bridge with lastPushed := some text })
  | none => (.rejected, bridge)

/-- Reads the typed text that waits, without regard to its time. -/
def flush [Textual α] (bridge : Bridge α) : SyncOutcome α × Bridge α :=
  match bridge.inbound.take with
  | (some text, inbound) => { bridge with inbound }.apply text
  | (none, inbound) => (.idle, { bridge with inbound })

/-- The surface reports a change. The text that was shown last is no change. -/
def textChanged (bridge : Bridge α) (now : Time) : Bridge α :=
  if bridge.lastPushed = some bridge.surface.text then bridge
  else
    { bridge with
      outbound := bridge.outbound.cancel
      inbound := bridge.inbound.schedule bridge.surface.text now }

/-- Types a text and reports the change. -/
def editText (bridge : Bridge α) (text : String) (now : Time) : Bridge α :=
  { bridge with surface := bridge.surface.write text }.textChanged now

/-- Does what is due: shows a text, or else reads one. -/
def poll [Textual α] (bridge : Bridge α) (now : Time) : SyncOutcome α × Bridge α :=
  match bridge.pushDue now with
  | (true, bridge) => (.pushed, bridge)
  | (false, bridge) =>
    match bridge.inbound.due now with
    | (some text, inbound) => { bridge with inbound }.apply text
    | (none, inbound) => (.idle, { bridge with inbound })

end Bridge

end FormEditor
