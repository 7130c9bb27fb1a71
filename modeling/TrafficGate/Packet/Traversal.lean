import TrafficGate.Packet.Pipeline
import TrafficGate.Packet.Rule

/-!
# Packet — Traversal

A packet passes the gate, the required interceptors, the chain for all packets and the chain of the
session's principal.  Interceptors belong to a host: a call may change the packet and anything in the
host, the pipeline included, so each list of interceptors is taken when its turn comes.

Before processing, the first rejection ends the traversal; afterwards rejections are only logged.  A
required interceptor may also swallow the packet.  Failures and crashes are logged and never end it.
-/

namespace TrafficGate

/-- What a required interceptor wants to happen next. -/
inductive Flow where
  | carryOn | swallow
  deriving DecidableEq, Repr, Inhabited

/-- The three groups of interceptors. -/
inductive Tier where
  | required | everyone | principal
  deriving DecidableEq, Repr, Inhabited

/-- The group as log lines show it. -/
def Tier.name : Tier → String
  | .required => "required"
  | .everyone => "global"
  | .principal => "principal"

/-- A packet on its way at a point, seen by a session. -/
structure Passage where
  session : Address
  point : Point
  deriving DecidableEq, Repr, Inhabited

/-- Where interceptors live: a state with a pipeline in it, how an interceptor is called, how it is
labelled, and where reports go. -/
structure PacketHost (σ H : Type) where
  pipeline : σ → PacketPipeline H
  intercept : Tier → H → Passage → Packet → σ → Outcome Flow × Packet × σ
  labelOf : H → String
  report : Report → σ → σ

/-- How a group of interceptors ends: the packet goes on, is swallowed, or is rejected. -/
inductive Ending where
  | passed | swallowed | rejected (r : Rejection)
  deriving DecidableEq, Repr, Inhabited

namespace PacketHost

variable {σ H : Type} (host : PacketHost σ H)

/-- Counts an outcome of the packet gate. -/
def count (tally : Tally) (s : σ) : σ := host.report (.counted PacketPipeline.label tally) s

/-- Logs an entry about packets. -/
def say (level : Log.Level) (message : String) (fields : List (String × Log.Value)) (s : σ) : σ :=
  host.report (PacketPipeline.said level message fields) s

/-- What a call comes to: going on with the answer, going on without one, or a rejection. -/
def settle (tier : Tier) (component : String) (passage : Passage) (packet : Packet)
    (outcome : Outcome Flow) (s : σ) : Except Rejection (Option Flow) × σ :=
  let about (field : String) (text : String) : List (String × Log.Value) :=
    [("tier", .text tier.name), ("component", .text component),
     ("point", .shown passage.point.render), (field, .shown text),
     ("packet", .shown packet.inspect)]
  match outcome.isolate with
  | .ok flow => (.ok (some flow), s)
  | .error (.rejected r) =>
    let s := host.count .componentRejected s
    if passage.point.isProcessed then
      (.ok none, host.say .error "Post interceptor cannot reject packet"
        (about "rejection" r.message) s)
    else
      (.error r, host.say .debug "Packet rejected by interceptor" (about "rejection" r.message) s)
  | .error (.failed reason) =>
    let s := host.count .componentFault s
    (.ok none, host.say .error "Error in interceptor" (about "error" reason) s)

/-- The required interceptors, in order, until one swallows or rejects the packet. -/
def runRequired (passage : Passage) : List (Member H) → Packet → σ → Ending × Packet × σ
  | [], packet, s => (.passed, packet, s)
  | member :: rest, packet, s =>
    let (outcome, packet, s) := host.intercept .required member.handle passage packet s
    match host.settle .required member.name passage packet outcome s with
    | (.ok (some .swallow), s) =>
      let s := host.count .swallowed s
      (.swallowed, packet, host.say .trace "Packet swallowed"
        [("component", .shown member.name), ("point", .shown passage.point.render)] s)
    | (.ok _, s) => runRequired passage rest packet s
    | (.error r, s) => (.rejected r, packet, s)

/-- The interceptors of a chain, in order, until one rejects the packet. -/
def runChain (tier : Tier) (passage : Passage) : List H → Packet → σ → Ending × Packet × σ
  | [], packet, s => (.passed, packet, s)
  | handle :: rest, packet, s =>
    let (outcome, packet, s) := host.intercept tier handle passage packet s
    match host.settle tier (host.labelOf handle) passage packet outcome s with
    | (.ok _, s) => runChain tier passage rest packet s
    | (.error r, s) => (.rejected r, packet, s)

/-- A packet that the gate blocks: before processing it is rejected, afterwards it is let be and no
interceptor sees it. -/
def turnAway (passage : Passage) (packet : Packet) (r : Rejection) (s : σ) : Verdict × Packet × σ :=
  let s := host.count .gateBlocked s
  let kind : String × Log.Value := ("kind", .shown packet.kind.name)
  let point : String × Log.Value := ("point", .shown passage.point.render)
  if passage.point.isProcessed then
    (.allowed, packet, host.say .error
      "Required interceptor absent after processing; interceptors skipped"
      [kind, point, ("rejection", .shown r.message), ("packet", .shown packet.inspect)] s)
  else
    (.rejected r, packet, host.say .debug "Packet blocked: required interceptor absent"
      [kind, point] s)

/-- The chains behind the required interceptors: the one for all packets, then the session's. -/
def runChains (passage : Passage) (packet : Packet) (s : σ) : Verdict × Packet × σ :=
  match host.runChain .everyone passage (host.pipeline s).chain packet s with
  | (.rejected r, packet, s) => (.rejected r, packet, s)
  | (_, packet, s) =>
    match host.runChain .principal passage ((host.pipeline s).sessionChain passage.session)
        packet s with
    | (.rejected r, packet, s) => (.rejected r, packet, s)
    | (_, packet, s) => (.allowed, packet, s)

/-- A packet passes a point: the verdict, the packet as the interceptors left it, and the host. -/
def traverse (passage : Passage) (packet : Packet) (s : σ) : Verdict × Packet × σ :=
  let posting := (host.pipeline s).gate.posting
  let s := host.report (.log (packet.checked posting.blocked passage.point)) s
  match packet.gateVerdict posting.blocked passage.point with
  | .rejected r => host.turnAway passage packet r s
  | .allowed =>
    match host.runRequired passage posting.required packet s with
    | (.swallowed, packet, s) => (.allowed, packet, s)
    | (.rejected r, packet, s) => (.rejected r, packet, s)
    | (.passed, packet, s) => host.runChains passage packet s

end PacketHost

end TrafficGate
