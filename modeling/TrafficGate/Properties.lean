import TrafficGate.Table

/-!
# Properties

The stored properties of a server, a table of texts, and the writes that change them.
-/

namespace TrafficGate

/-- Stored properties: a text under each key. -/
abbrev Properties := Table String

/-- One change to stored properties. -/
inductive Write where
  | set (key value : String)
  | remove (key : String)
  deriving DecidableEq, Repr, Inhabited

/-- The key that a write changes. -/
def Write.key : Write → String
  | .set key _ => key
  | .remove key => key

/-- The properties after one write. -/
def Write.apply (properties : Properties) : Write → Properties
  | .set key value => properties.insert key value
  | .remove key => properties.erase key

/-- The properties after a batch of writes, in their order. -/
def Write.applyAll (properties : Properties) (batch : List Write) : Properties :=
  batch.foldl Write.apply properties

end TrafficGate
