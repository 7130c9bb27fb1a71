import TrafficGate.Guard
import TrafficGate.Packet
import TrafficGate.Point
import TrafficGate.Report
import TrafficGate.Verdict

/-!
# Packet — Rule

When a packet is blocked, and what its sender is told.  A dimension of the block set that is empty
does not restrict the other one; an empty block set blocks nothing.
-/

namespace TrafficGate

namespace PacketGuard

/-- The point is one of the guarded points. -/
def coversPoint (points : Selection TrafficCategory) (point : Point) : Bool :=
  decide (TrafficCategory.all ∈ points) || point.categories.any (· ∈ points)

/-- The kind is one of the guarded kinds. -/
def coversKind (kinds : Selection PacketCategory) (kind : PacketKind) : Bool :=
  decide (PacketCategory.all ∈ kinds) || kind.categories.any (· ∈ kinds)

/-- Packets of the kind are blocked at the point. -/
def blocks (blocked : PacketGuard) (kind : PacketKind) (point : Point) : Bool :=
  match blocked.points.isEmpty, blocked.kinds.isEmpty with
  | true, true => false
  | false, true => coversPoint blocked.points point
  | true, false => coversKind blocked.kinds kind
  | false, false => coversPoint blocked.points point && coversKind blocked.kinds kind

end PacketGuard

namespace Packet

/-- What the sender of a blocked packet is told: nothing for a chat state, else that the packet is
not allowed; the sender of a message also gets a notice. -/
def refusal (packet : Packet) : Rejection :=
  if packet.isChatState then .silent
  else
    let text := packet.kind.name ++
      " rejected due to a required component that's not present. " ++
      "Contact your system administrator."
    { condition := some .notAllowed
      reason := some text
      notice := if packet.kind = .message then some text else none }

/-- The verdict of a gate on a packet. -/
def gateVerdict (packet : Packet) (blocked : PacketGuard) (point : Point) : Verdict :=
  if blocked.blocks packet.kind point then .rejected packet.refusal else .allowed

/-- What is logged when a gate looks at a packet. -/
def checked (packet : Packet) (blocked : PacketGuard) (point : Point) : Log.Entry where
  level := .trace
  source := .packetRule
  message := "Checking for required interceptors"
  fields :=
    [("kind", .shown packet.kind.name), ("point", .shown point.render),
     ("events", .shown blocked.points.inspect), ("packets", .shown blocked.kinds.inspect)]

end Packet

end TrafficGate
