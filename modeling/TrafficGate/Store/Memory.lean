import TrafficGate.Store

/-!
# Store — Memory

Properties kept in memory, with a switch that makes writing fail.

Memory can always be read.  The switch that makes reading fail is an addition, which is there to
exercise what happens over a store that cannot be read.
-/

namespace TrafficGate

/-- Properties in memory, the number of batches applied so far, and two switches. -/
structure MemoryStore where
  properties : Properties := Table.empty
  batches : Nat := 0
  /-- Reading fails with `reads disabled`: an addition for exercising failures of reading. -/
  failsReading : Bool := false
  /-- Writing fails. -/
  failsWriting : Bool := false
  deriving DecidableEq, Inhabited

namespace MemoryStore

/-- Reads every property.  The error comes from the added switch, and from nothing else. -/
def load (store : MemoryStore) : Except StoreError Properties :=
  if store.failsReading then .error (.corrupt "reads disabled") else .ok store.properties

/-- Applies a batch, unless writing is made to fail.  An empty batch counts too. -/
def apply (store : MemoryStore) (batch : List Write) : Except StoreError MemoryStore :=
  if store.failsWriting then .error (.io "writes disabled")
  else .ok
    { store with
      properties := Write.applyAll store.properties batch
      batches := store.batches + 1 }

end MemoryStore

instance : Store MemoryStore where
  load store := (store.load, store)
  apply store batch :=
    match store.apply batch with
    | .ok store => (.ok (), store, [])
    | .error e => (.error e, store, [])

end TrafficGate
