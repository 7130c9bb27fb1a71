import TrafficGate.Chain
import TrafficGate.Gate
import TrafficGate.Packet

/-!
# Packet — Pipeline

Everything packets have to pass: a gate with its required interceptors, a chain of interceptors for
all packets, and a chain for each principal, used for the principal's own sessions.  A principal whose
last interceptor goes has no chain.
-/

namespace TrafficGate

/-- The gate, the chain for all packets, the chains of principals, and the domain that is served. -/
structure PacketPipeline (H : Type) where
  gate : Gate PacketGuard H
  chain : List H := []
  principals : Table (List H) := Table.empty
  domain : String

namespace PacketPipeline

variable {S H : Type}

/-- The name of the packet gate in logs and metrics. -/
def label : String := "packet"

/-- An entry about packets. -/
def said (level : Log.Level) (message : String) (fields : List (String × Log.Value)) : Report :=
  .log ⟨level, .packets, message, fields⟩

/-- A pipeline over the stored declarations, with nothing live and no chains. -/
def load [Store S] (store : S) (domain : String) :
    Except StoreError (PacketPipeline H) × S × List Log.Entry :=
  let (gate, store, entries) := Gate.load label Layout.packets store
  (gate.map fun gate => { gate, domain }, store, entries)

/-- A required interceptor comes to life under a name and declares what it guards. -/
def register [Store S] (pipeline : PacketPipeline H) (store : S) (name : String) (handle : H)
    (guard : PacketGuard) : Change (PacketPipeline H) S (Except RegisterError Unit) :=
  let change := pipeline.gate.register store name handle guard
  { result := change.result
    changed := { pipeline with gate := change.changed }
    store := change.store
    reports := said .debug "Adding required interceptor"
      [("name", .text name), ("events", .shown guard.points.inspect),
       ("packets", .shown guard.kinds.inspect)] :: change.reports }

/-- The required interceptor with the name goes; its declaration stays unless it is to be
forgotten. -/
def unregister [Store S] (pipeline : PacketPipeline H) (store : S) (name : String)
    (forget : Bool) : Change (PacketPipeline H) S Bool :=
  let change := pipeline.gate.unregister store name forget
  { result := change.result
    changed := { pipeline with gate := change.changed }
    store := change.store
    reports := said .debug "Removing required interceptor"
      [("name", .text name), ("forget", .flag forget)] :: change.reports }

/-- Every required interceptor goes and every declaration stays. -/
def releaseAll (pipeline : PacketPipeline H) : List String × PacketPipeline H × List Report :=
  let (names, gate, reports) := pipeline.gate.releaseAll
  (names, { pipeline with gate }, reports)

/-! ### Chains -/

variable [DecidableEq H]

/-- The interceptor stands at the end of the chain. -/
def addInterceptor (pipeline : PacketPipeline H) (handle : H) : PacketPipeline H :=
  { pipeline with chain := Chain.append pipeline.chain handle }

/-- The interceptor stands at a place in the chain. -/
def insertInterceptor (pipeline : PacketPipeline H) (index : Nat) (handle : H) :
    Except ChainError (PacketPipeline H) :=
  (Chain.insert? pipeline.chain index handle).map fun chain => { pipeline with chain }

/-- The interceptor leaves the chain, if it stands there. -/
def removeInterceptor (pipeline : PacketPipeline H) (handle : H) : Option (PacketPipeline H) :=
  (Chain.remove? pipeline.chain handle).map fun chain => { pipeline with chain }

omit [DecidableEq H] in
/-- The chain of a principal; empty if there is none. -/
def principalChain (pipeline : PacketPipeline H) (principal : String) : List H :=
  (pipeline.principals.get? principal).getD []

/-- The interceptor stands at a place in the chain of a principal. -/
def addPrincipal (pipeline : PacketPipeline H) (principal : String) (index : Nat) (handle : H) :
    Except ChainError (PacketPipeline H) :=
  (Chain.insert? (pipeline.principalChain principal) index handle).map fun chain =>
    { pipeline with principals := pipeline.principals.insert principal chain }

/-- The interceptor leaves the chain of a principal, if it stands there. -/
def removePrincipal (pipeline : PacketPipeline H) (principal : String) (handle : H) :
    Option (PacketPipeline H × List Report) :=
  (Chain.remove? (pipeline.principalChain principal) handle).map fun chain =>
    if chain.isEmpty then
      ({ pipeline with principals := pipeline.principals.erase principal },
        [said .info "Principal interceptor chain emptied" [("principal", .text principal)]])
    else ({ pipeline with principals := pipeline.principals.insert principal chain }, [])

omit [DecidableEq H] in
/-- The chain that a session's packets pass last: that of its node, if its domain is served here. -/
def sessionChain (pipeline : PacketPipeline H) (session : Address) : List H :=
  match session.node with
  | none => []
  | some node => if session.isIn pipeline.domain then pipeline.principalChain node else []

end PacketPipeline

end TrafficGate
