import Dunning.Desk.Basic
import Dunning.Library.Document

/-!
# Desk/Document — what the desk answers, in documents
-/

namespace Dunning

/-- Writes a report. -/
def Report.toJson (r : Report) : Json :=
  .object [("strategy", .string r.strategy), ("strategy_id", .ofOption .string r.strategyId),
    ("evaluated", .integer r.tally.evaluated), ("changed", .integer r.tally.changed),
    ("triggered_by", .string r.triggeredBy)]

/-- Writes the report of an import. -/
def ImportReport.toJson (r : ImportReport) : Json :=
  .object [("received", .integer r.received), ("updated", .integer r.updated),
    ("unmatched", .array (r.unmatched.map .string)),
    ("reevaluation", .ofOption Report.toJson r.reevaluation)]

/-- Writes the report of a trial. -/
def TrialReport.toJson (r : TrialReport) : Json :=
  .object [("account_id", .string r.accountId), ("evaluation", r.evaluation.toJson),
    ("issues", .array (r.issues.map Issue.toJson))]

end Dunning
