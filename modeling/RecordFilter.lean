import RecordFilter.Action
import RecordFilter.Catalog
import RecordFilter.Condition
import RecordFilter.ConditionList
import RecordFilter.ConditionList.Meaning
import RecordFilter.Editor
import RecordFilter.Editor.State
import RecordFilter.Field
import RecordFilter.Form
import RecordFilter.Form.Action
import RecordFilter.Form.Filter
import RecordFilter.Json.Basic
import RecordFilter.Json.Draft
import RecordFilter.Json.Numeral
import RecordFilter.Json.Parser
import RecordFilter.Json.Printer
import RecordFilter.Json.Settled
import RecordFilter.Json.Token
import RecordFilter.Json5.Parser
import RecordFilter.Json5.Token
import RecordFilter.Number.Binary64
import RecordFilter.Number.Shortest
import RecordFilter.Offer
import RecordFilter.Operator
import RecordFilter.Ordered
import RecordFilter.Payload
import RecordFilter.Proofs.Answered
import RecordFilter.Proofs.Atomic
import RecordFilter.Proofs.Catalog
import RecordFilter.Proofs.Condition
import RecordFilter.Proofs.Condition.Checks
import RecordFilter.Proofs.ConditionList.Meaning
import RecordFilter.Proofs.ConditionList.Tidy
import RecordFilter.Proofs.Editor.Answers
import RecordFilter.Proofs.Editor.Atomic
import RecordFilter.Proofs.Editor.Discard
import RecordFilter.Proofs.Editor.Draft
import RecordFilter.Proofs.Editor.InPlace
import RecordFilter.Proofs.Editor.KeyOrder
import RecordFilter.Proofs.Editor.Leaves
import RecordFilter.Proofs.Editor.Mode
import RecordFilter.Proofs.Editor.Offered
import RecordFilter.Proofs.Editor.Pushes
import RecordFilter.Proofs.Editor.Reload
import RecordFilter.Proofs.Editor.Reserved
import RecordFilter.Proofs.Editor.Run
import RecordFilter.Proofs.Editor.Sendable
import RecordFilter.Proofs.Editor.Simple
import RecordFilter.Proofs.Editor.Tags
import RecordFilter.Proofs.Editor.Undo
import RecordFilter.Proofs.Form
import RecordFilter.Proofs.Form.Action
import RecordFilter.Proofs.Form.Filter
import RecordFilter.Proofs.InOrder
import RecordFilter.Proofs.Json.Draft
import RecordFilter.Proofs.Json.Literal
import RecordFilter.Proofs.Json.Numeral
import RecordFilter.Proofs.Json.Parser
import RecordFilter.Proofs.Json.Text
import RecordFilter.Proofs.Json.Token
import RecordFilter.Proofs.Offer
import RecordFilter.Proofs.Ordered
import RecordFilter.Proofs.SimpleFilters
import RecordFilter.Proofs.SimpleFilters.History
import RecordFilter.Proofs.SimpleTree
import RecordFilter.Proofs.Text.Blank
import RecordFilter.Proofs.Text.SplitList
import RecordFilter.Proofs.Tree.Answered
import RecordFilter.Proofs.Tree.Basic
import RecordFilter.Proofs.Tree.Defect
import RecordFilter.Proofs.Tree.Deletion
import RecordFilter.Proofs.Tree.Edit
import RecordFilter.Proofs.Tree.Filled
import RecordFilter.Proofs.Tree.Frame
import RecordFilter.Proofs.Tree.InPlace
import RecordFilter.Proofs.Tree.Insertion
import RecordFilter.Proofs.Tree.Outline
import RecordFilter.Proofs.Tree.Path
import RecordFilter.Proofs.Tree.Removal
import RecordFilter.Proofs.Tree.Search
import RecordFilter.Proofs.Tree.Shift
import RecordFilter.Proofs.Tree.Walk
import RecordFilter.Proofs.Tree.Wrap
import RecordFilter.Proofs.Wire.Basic
import RecordFilter.Proofs.Wire.Denotation
import RecordFilter.Proofs.Wire.Entry
import RecordFilter.Proofs.Wire.FixedPoint
import RecordFilter.Proofs.Wire.Layers
import RecordFilter.Proofs.Wire.Loss
import RecordFilter.Proofs.Wire.Lossless
import RecordFilter.Proofs.Wire.Normal
import RecordFilter.Proofs.Wire.Readable
import RecordFilter.Proofs.Wire.Reading
import RecordFilter.Proofs.Wire.Resend
import RecordFilter.Proofs.Wire.Reserved
import RecordFilter.Proofs.Wire.RoundTrip
import RecordFilter.Proofs.Wire.Split
import RecordFilter.Proofs.Wire.Steady
import RecordFilter.Proofs.Wire.Value
import RecordFilter.Settings
import RecordFilter.Settings.File
import RecordFilter.Settings.KeyPath
import RecordFilter.SimpleFilters
import RecordFilter.Text.Blank
import RecordFilter.Text.Letters
import RecordFilter.Text.Quoted
import RecordFilter.Text.Unprintable
import RecordFilter.Tree
import RecordFilter.Tree.Defect
import RecordFilter.Tree.Edit
import RecordFilter.Tree.Outline
import RecordFilter.Value
import RecordFilter.Vocabulary
import RecordFilter.Wire.ConditionList
import RecordFilter.Wire.Entry
import RecordFilter.Wire.Error
import RecordFilter.Wire.Filter
import RecordFilter.Wire.Normal
import RecordFilter.Wire.Value
