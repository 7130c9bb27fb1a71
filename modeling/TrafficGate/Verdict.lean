/-!
# Verdict

How a packet or a room event is answered: a verdict lets it pass or rejects it, and a rejection says
what is told to the sender.  A component that is asked may also fail or crash; `Outcome.isolate` turns
a crash into a failure, so that no component can stop the others.
-/

namespace TrafficGate

/-- The error condition a sender is told. -/
inductive Condition where
  | badRequest | forbidden | notAllowed | policyViolation | serviceUnavailable
  deriving DecidableEq, Repr, Inhabited

/-- Every condition. -/
def Condition.all : List Condition :=
  [.badRequest, .forbidden, .notAllowed, .policyViolation, .serviceUnavailable]

/-- The wire name of a condition. -/
def Condition.name : Condition → String
  | .badRequest => "bad-request"
  | .forbidden => "forbidden"
  | .notAllowed => "not-allowed"
  | .policyViolation => "policy-violation"
  | .serviceUnavailable => "service-unavailable"

/-- A rejection: the error condition, its text, and a notice for the sender. -/
structure Rejection where
  condition : Option Condition := none
  reason : Option String := none
  notice : Option String := none
  deriving DecidableEq, Repr, Inhabited

/-- A rejection of which the sender is told nothing. -/
def Rejection.silent : Rejection := {}

/-- The sender is told nothing. -/
def Rejection.isSilent (r : Rejection) : Bool :=
  r.condition.isNone && r.reason.isNone && r.notice.isNone

/-- The rejection in words. -/
def Rejection.message (r : Rejection) : String :=
  match r.condition, r.reason with
  | some condition, some reason => "rejected (" ++ condition.name ++ "): " ++ reason
  | some condition, none => "rejected (" ++ condition.name ++ ")"
  | none, some reason => "rejected: " ++ reason
  | none, none => "rejected silently"

/-- The answer to a packet. -/
inductive Verdict where
  | allowed
  | rejected (r : Rejection)
  deriving DecidableEq, Repr, Inhabited

/-- The packet may pass. -/
def Verdict.isAllowed : Verdict → Bool
  | .allowed => true
  | .rejected _ => false

/-- The packet may not pass. -/
def Verdict.isRejected (v : Verdict) : Bool := !v.isAllowed

/-- A verdict as a result: nothing, or the rejection. -/
def Verdict.toExcept : Verdict → Except Rejection Unit
  | .allowed => .ok ()
  | .rejected r => .error r

/-- How a component can refuse to go on. -/
inductive Fault where
  | rejected (r : Rejection)
  | failed (reason : String)
  deriving DecidableEq, Repr, Inhabited

/-- The fault in words. -/
def Fault.message : Fault → String
  | .rejected r => r.message
  | .failed reason => "Component failed: " ++ reason

/-- What a component call comes to: a value, a fault, or a crash with the text it left, if any. -/
inductive Outcome (α : Type) where
  | returned (value : α)
  | faulted (fault : Fault)
  | crashed (text : Option String)
  deriving DecidableEq, Repr, Inhabited

/-- A crash counts as a failure. -/
def Outcome.isolate {α : Type} : Outcome α → Except Fault α
  | .returned value => .ok value
  | .faulted fault => .error fault
  | .crashed text => .error (.failed ("panicked: " ++ text.getD "non-string panic payload"))

end TrafficGate
