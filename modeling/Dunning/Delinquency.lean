import Dunning.Json.Basic

/-!
# Delinquency — how far an account is in arrears

Days in arrears fall into five bands with the inclusive upper bounds 0, 30, 60 and 90. A figure that
is missing or no number lies below no bound, and so counts as `critical`.
-/

namespace Dunning

/-- A band of days in arrears. -/
inductive Delinquency where
  | current
  | early
  | moderate
  | severe
  | critical
  deriving Repr, DecidableEq

namespace Delinquency

/-- The band of a number of days. -/
def ofFigure (days : Float) : Delinquency :=
  if days ≤ 0 then .current
  else if days ≤ 30 then .early
  else if days ≤ 60 then .moderate
  else if days ≤ 90 then .severe
  else .critical

/-- The band of a figure that may be missing. -/
def ofDays : Option Float → Delinquency
  | some days => ofFigure days
  | none => .critical

/-- The name of a band. -/
def label : Delinquency → String
  | .current => "current"
  | .early => "early"
  | .moderate => "moderate"
  | .severe => "severe"
  | .critical => "critical"

/-- All bands, the mildest first. -/
def all : List Delinquency := [.current, .early, .moderate, .severe, .critical]

/-- The bands by name. -/
def choices : List (String × Delinquency) := all.map fun d => (d.label, d)

/-- A band is written by its name. -/
def toJson (d : Delinquency) : Json := .string d.label

end Delinquency

end Dunning
