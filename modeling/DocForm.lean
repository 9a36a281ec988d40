import DocForm.Main
import DocForm.Proofs.Field.Consistent
import DocForm.Proofs.Form.Strict
import DocForm.Proofs.Form.Warning
import DocForm.Proofs.Progress.Completion
import DocForm.Proofs.Progress.Isolation
import DocForm.Proofs.Reference.RoundTrip
import DocForm.Proofs.Reference.Target
import DocForm.Proofs.Structure.Qualified
import DocForm.Proofs.Validation.Required
import DocForm.Proofs.Wire.Type
import DocForm.Proofs.Progress.Submission
import DocForm.Proofs.Progress.Skips
import DocForm.Proofs.Progress.Tallies
import DocForm.Proofs.Sentinel.Canonical
import DocForm.Proofs.Form.Edit
import DocForm.Proofs.Form.Refusal
import DocForm.Proofs.Sentinel.Typed
import DocForm.Proofs.Table.RoundTrip
import DocForm.Proofs.Table.Inline
import DocForm.Proofs.Table.Cell
import DocForm.Proofs.Validation.Table
import DocForm.Proofs.Validation.List
import DocForm.Proofs.Validation.Date
import DocForm.Proofs.Field.Bullet
import DocForm.Proofs.Field.OptionItems
import DocForm.Proofs.Table.Layout
import DocForm.Proofs.Validation.RowBounds
import DocForm.Proofs.Validation.Missing
import DocForm.Proofs.Table.Bypass
import DocForm.Proofs.Field.Blame
import DocForm.Proofs.Table.Declared
import DocForm.Proofs.Field.Shape
import DocForm.Proofs.Field.Marking
import DocForm.Proofs.Form.Defaults
import DocForm.Proofs.Structure.Summary
import DocForm.Proofs.Table.Slug
import DocForm.Proofs.Session
