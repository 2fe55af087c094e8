import Dunning.Account.Format
import Dunning.Graph.Document
import Dunning.Library.Basic

/-!
# Library/Document — drafts and saved strategies in documents
-/

namespace Dunning

/-- How a draft is read. -/
def Draft.record : Record Draft where
  title := "struct StrategyDraft"
  blank := ⟨none, "", "", .empty, ""⟩
  fields :=
    [ .defaulted "id" (Shape.optional Shape.string) fun v d => { d with id := v },
      .needed "name" Shape.string fun v d => { d with name := v },
      .defaulted "description" Shape.string fun v d => { d with description := v },
      .needed "graph" Graph.shape fun v d => { d with graph := v },
      .defaulted "created_by" Shape.string fun v d => { d with createdBy := v } ]

/-- Reads a value as a draft. -/
def Draft.ofJson (j : Json) : Except JsonFault Draft :=
  record.read .value j.toTree

/-- Writes a saved strategy. -/
def SavedStrategy.toJson (s : SavedStrategy) : Json :=
  .object [("id", .string s.id), ("name", .string s.name), ("description", .string s.description),
    ("graph", s.graph.toJson), ("status", .string s.status.label),
    ("version", .integer s.version), ("created_at", .string s.createdAt.text),
    ("updated_at", .string s.updatedAt.text), ("created_by", .string s.createdBy)]

/-- A graph to be tried on an account. -/
structure Trial where
  graph : Graph
  account : Account
  deriving Repr, DecidableEq

/-- How a trial is read. -/
def Trial.record : Record Trial where
  title := "struct StrategyTestRequest"
  blank := ⟨.empty, .blank⟩
  fields :=
    [ .needed "graph" Graph.shape fun v t => { t with graph := v },
      .needed "account" Account.record.read fun v t => { t with account := v } ]

end Dunning
