import TrafficGate.Log

/-!
# Report

What a gate and its pipelines tell the outside while they work: log entries, outcomes to be counted
and the size of the roll.  Reports are values, in the order in which they are made.
-/

namespace TrafficGate

/-- What a pipeline counts. -/
inductive Tally where
  | gateBlocked | componentRejected | componentFault | swallowed | vetoed
  deriving DecidableEq, Repr, Inhabited

/-- Every tally. -/
def Tally.all : List Tally :=
  [.gateBlocked, .componentRejected, .componentFault, .swallowed, .vetoed]

/-- The tally in the metrics. -/
def Tally.name : Tally → String
  | .gateBlocked => "gate_blocked"
  | .componentRejected => "component_rejected"
  | .componentFault => "component_fault"
  | .swallowed => "swallowed"
  | .vetoed => "vetoed"

/-- One thing told: a log entry, an outcome at a gate, or how many components a gate has live and
declared. -/
inductive Report where
  | log (entry : Log.Entry)
  | counted (gate : String) (tally : Tally)
  | sized (gate : String) (live declared : Nat)
  deriving DecidableEq, Repr, Inhabited

/-- The log entries among reports. -/
def Report.entries (reports : List Report) : List Log.Entry :=
  reports.filterMap fun
    | .log entry => some entry
    | _ => none

end TrafficGate
