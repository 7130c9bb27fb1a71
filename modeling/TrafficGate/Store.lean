import TrafficGate.Properties
import TrafficGate.Report

/-!
# Store

Where properties are kept.  A store can be read as a whole and changed by a batch of writes; both may
fail, and both may leave a trace in the store.  Whatever is kept in a store changes together with it.
-/

namespace TrafficGate

/-- Why a store cannot be read or written. -/
inductive StoreError where
  | io (reason : String)
  | corrupt (reason : String)
  deriving DecidableEq, Repr, Inhabited

/-- The wording of the error. -/
def StoreError.message : StoreError → String
  | .io reason => "Property store I/O error: " ++ reason
  | .corrupt reason => "Property store is corrupt: " ++ reason

/-- A keeper of properties. -/
class Store (S : Type) where
  /-- Reads every property. -/
  load : S → Except StoreError Properties × S
  /-- Applies a batch of writes, all of it or nothing. -/
  apply : S → List Write → Except StoreError Unit × S × List Log.Entry

/-- What a change of something over a store comes to: its result, the thing and the store afterwards,
and what was reported. -/
structure Change (P S α : Type) where
  result : α
  changed : P
  store : S
  reports : List Report

end TrafficGate
