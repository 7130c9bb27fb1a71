import TrafficGate.Address
import TrafficGate.Category

/-!
# Packet

Packets: their kind, the addresses they carry and their child elements.  `Packet.isChatState` tells
the notifications that are dropped without an error when they are blocked.
-/

namespace TrafficGate

/-- The kinds of packets. -/
inductive PacketKind where
  | message | iq | presence | roster
  deriving DecidableEq, Repr, Inhabited

namespace PacketKind

/-- Every kind, in the order of the type. -/
def all : List PacketKind := [.message, .iq, .presence, .roster]

/-- The kind in texts for people. -/
def name : PacketKind → String
  | .message => "Message"
  | .iq => "IQ"
  | .presence => "Presence"
  | .roster => "Roster"

/-- The kind in a packet's wire and inspection forms. -/
def wireName : PacketKind → String
  | .iq => "Iq"
  | kind => kind.name

/-- The kind with the wire name, if there is one. -/
def ofWireName? (s : String) : Option PacketKind := all.find? (·.wireName = s)

/-- The categories a kind counts as; a roster packet is an info/query packet too. -/
def categories : PacketKind → List PacketCategory
  | .message => [.message]
  | .iq => [.iq]
  | .presence => [.presence]
  | .roster => [.roster, .iq]

end PacketKind

/-- A direct child element of a packet. -/
structure Element where
  name : String
  namespaceUri : String
  deriving DecidableEq, Repr, Inhabited

/-- The inspection form of a child element. -/
def Element.inspect (e : Element) : String :=
  Text.Inspect.record "ChildElement"
    [("name", Text.Inspect.text e.name), ("namespace", Text.Inspect.text e.namespaceUri)]

/-- A packet. -/
structure Packet where
  kind : PacketKind
  id : Option String := none
  sender : Option Address := none
  recipient : Option Address := none
  children : List Element := []
  deriving DecidableEq, Repr, Inhabited

namespace Packet

/-- The namespace of typing notifications and their like. -/
def chatStates : String := "http://jabber.org/protocol/chatstates"

/-- A message whose only child is a chat state; letter case of the namespace does not matter. -/
def isChatState (p : Packet) : Bool :=
  match p.kind, p.children with
  | .message, [only] => Text.sameIgnoringCase only.namespaceUri chatStates
  | _, _ => false

/-- The inspection form of a packet. -/
def inspect (p : Packet) : String :=
  Text.Inspect.record "Packet"
    [("kind", p.kind.wireName),
     ("id", Text.Inspect.option (p.id.map Text.Inspect.text)),
     ("from", Text.Inspect.option (p.sender.map Address.inspect)),
     ("to", Text.Inspect.option (p.recipient.map Address.inspect)),
     ("children", Text.Inspect.list (p.children.map Element.inspect))]

end Packet

end TrafficGate
