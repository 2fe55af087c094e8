import Dunning.Desk.Request
import Dunning.Graph.Edit
import Dunning.Main
import Dunning.Proofs.Desk.Atomicity
import Dunning.Proofs.Desk.InStep
import Dunning.Proofs.Graph.Course
import Dunning.Proofs.Graph.WellFormed
import Dunning.Proofs.Graph.Report
import Dunning.Proofs.Graph.Branch
import Dunning.Proofs.Graph.Trail
import Dunning.Proofs.Graph.Clean
import Dunning.Proofs.Desk.Report
import Dunning.Proofs.Desk.Provenance
import Dunning.Proofs.Library.History
import Dunning.Proofs.Decimal.Finite
import Dunning.Proofs.Json.Regular
import Dunning.Proofs.Json.Parsed
import Dunning.Proofs.Json.Reading
import Dunning.Proofs.Condition.Reading
import Dunning.Proofs.Graph.Settled
import Dunning.Proofs.Graph.Reload
import Dunning.Proofs.Graph.Image
import Dunning.Proofs.Graph.KeptOutcome
import Dunning.Proofs.Graph.Remove
import Dunning.Proofs.Account.Merge
import Dunning.Proofs.Graph.Editing
import Dunning.Proofs.Strategy.Tally
import Dunning.Proofs.Strategy.Reapply
import Dunning.Proofs.Desk.Movement
import Dunning.Proofs.Desk.Trial
import Dunning.Proofs.Graph.Extent
import Dunning.Proofs.Graph.Origin
import Dunning.Proofs.Desk.Refusal
import Dunning.Proofs.Decimal.Rounding
import Dunning.Proofs.Decimal.Nearest
import Dunning.Proofs.Decimal.Order
import Dunning.Proofs.Decimal.ReadBack
import Dunning.Proofs.Condition.Numeric
import Dunning.Proofs.Text.Joined
import Dunning.Proofs.Condition.Spelling
import Dunning.Proofs.Condition.Contains
import Dunning.Proofs.Graph.Agreement
import Dunning.Proofs.Graph.Arrangement
import Dunning.Proofs.Graph.Update
import Dunning.Proofs.Graph.Place
import Dunning.Proofs.Graph.Connect
import Dunning.Proofs.Account.LastFigure
import Dunning.Proofs.Csv.Reading
import Dunning.Proofs.Account.Spacing
import Dunning.Proofs.Json.Acceptance
import Dunning.Proofs.Graph.Forms
import Dunning.Proofs.Rule.Totality
import Dunning.Proofs.Rule.Ranking
import Dunning.Proofs.Text.Utf8
import Dunning.Proofs.Json.Quoted
import Dunning.Proofs.Json.NumberText
import Dunning.Proofs.Json.Printed
import Dunning.Proofs.Calendar.ReadBack
import Dunning.Proofs.Account.ReadBack
import Dunning.Proofs.Graph.Numbering
import Dunning.Proofs.Library.Numbering
import Dunning.Proofs.Desk.Retrieval
