import FormEditor.Editor.Overlays
import FormEditor.Main
import FormEditor.Proofs.Sync.Call
import FormEditor.Proofs.Sync.Reading
import FormEditor.Proofs.Sync.Release
import FormEditor.Proofs.Sync.Echo
import FormEditor.Proofs.Editor.Operation
import FormEditor.Proofs.Editor.Records
import FormEditor.Proofs.Record.Store
import FormEditor.Proofs.Sync.Mirror
import FormEditor.Proofs.Editor.Mirror
import FormEditor.Proofs.Editor.Settle
import FormEditor.Proofs.Json.Printed
import FormEditor.Proofs.Json.FreeForm
import FormEditor.Proofs.Json.Shape
import FormEditor.Proofs.Json.Ensures
import FormEditor.Proofs.Form.Sound
import FormEditor.Proofs.Form.Deletion
import FormEditor.Proofs.Form.Derived
import FormEditor.Proofs.Form.Parts
import FormEditor.Proofs.Form.Change
import FormEditor.Proofs.Form.RoundTrip
import FormEditor.Proofs.Editor.Frame
import FormEditor.Proofs.Editor.Step
import FormEditor.Proofs.Editor.Distinct
import FormEditor.Proofs.Form.ElementObject
import FormEditor.Proofs.Editor.Kinds
import FormEditor.Proofs.Sync.Direction
import FormEditor.Proofs.Sync.Remembered
import FormEditor.Proofs.Editor.Rejection
import FormEditor.Proofs.Editor.Binding
import FormEditor.Proofs.Editor.Report
import FormEditor.Proofs.Editor.Failure
import FormEditor.Proofs.Editor.Submission
import FormEditor.Proofs.Editor.Switching
import FormEditor.Proofs.Record.RoundTrip
import FormEditor.Proofs.Editor.Sound
import FormEditor.Proofs.CommandLine.Saving
import FormEditor.Proofs.CommandLine.Reopening
import FormEditor.Proofs.Editor.Outliving
import FormEditor.Proofs.Editor.Lifecycle
import FormEditor.Proofs.Editor.Gesture
import FormEditor.Proofs.Record.Selection
import FormEditor.Proofs.Editor.Bridges
import FormEditor.Proofs.Editor.Draining
import FormEditor.Proofs.CommandLine.Syncing
import FormEditor.Proofs.CommandLine.Failing
import FormEditor.Proofs.Form.Morphing
import FormEditor.Proofs.Editor.Retyping
import FormEditor.Proofs.Form.Validation
import FormEditor.Proofs.Editor.Refusal
import FormEditor.Proofs.Form.Entering
import FormEditor.Proofs.Form.Defaults
import FormEditor.Proofs.Form.Gap
import FormEditor.Proofs.Editor.Dropping
import FormEditor.Proofs.Editor.Copying
import FormEditor.Proofs.Editor.Reordering
import FormEditor.Proofs.Registry.Palette
import FormEditor.Proofs.Registry.Pruning
import FormEditor.Proofs.View.Picture
import FormEditor.Proofs.View.Zones
import FormEditor.Proofs.View.Opened
import FormEditor.Proofs.CommandLine.Submitting
