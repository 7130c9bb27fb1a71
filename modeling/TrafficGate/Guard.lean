import TrafficGate.Category.Selection

/-!
# Guard

What a required component guards: a selection of categories in each of a fixed number of dimensions.
The block set of a gate is a guard too.  A selection alone is a guard with one dimension.

* `PacketGuard`: points on a packet's way, and packet kinds.
* `RoomGuard`: room events.
-/

namespace TrafficGate

/-- A guard: some dimensions, each a set of categories with a stored form. -/
class Guard (G : Type) where
  /-- The number of dimensions. -/
  dimensions : Nat
  /-- Nothing is guarded. -/
  empty : G
  /-- Everything that either guard guards, dimension by dimension. -/
  union : G → G → G
  /-- Every dimension with a wildcard holds the wildcard alone. -/
  collapse : G → G
  /-- Every dimension is empty. -/
  isEmpty : G → Bool
  /-- The stored form of a dimension; the empty text stands for no stored form. -/
  encode : G → Nat → String
  /-- The guard with one dimension read from its stored form, and the unknown tokens met. -/
  decode : G → Nat → String → G × List UnknownCategory
  /-- The inspection form of a guard. -/
  inspect : G → String

instance {C : Type} [DecidableEq C] [Category C] : Guard (Selection C) where
  dimensions := 1
  empty := Selection.empty
  union := Selection.union
  collapse := Selection.collapse
  isEmpty := Selection.isEmpty
  encode s _ := s.property
  decode _ _ raw := Selection.ofProperty raw
  inspect := Selection.inspect

/-! ### Packets -/

/-- What a required interceptor guards, and what is blocked for packets. -/
structure PacketGuard where
  /-- Points on the way through the server. -/
  points : Selection TrafficCategory := ∅
  /-- Packet kinds. -/
  kinds : Selection PacketCategory := ∅
  deriving DecidableEq, Inhabited

namespace PacketGuard

/-- Every packet at every point. -/
def everything : PacketGuard := ⟨Selection.wildcard, Selection.wildcard⟩

/-- The stored form of a dimension: the points, then the kinds. -/
def encode (g : PacketGuard) : Nat → String
  | 0 => g.points.property
  | 1 => g.kinds.property
  | _ => ""

/-- The guard with one dimension read from its stored form. -/
def decode (g : PacketGuard) (dimension : Nat) (raw : String) :
    PacketGuard × List UnknownCategory :=
  match dimension with
  | 0 =>
    let (points, unknown) := Selection.ofProperty raw
    ({ g with points }, unknown)
  | 1 =>
    let (kinds, unknown) := Selection.ofProperty raw
    ({ g with kinds }, unknown)
  | _ => (g, [])

/-- The inspection form of a packet guard. -/
def inspect (g : PacketGuard) : String :=
  Text.Inspect.record "PacketGuard" [("events", g.points.inspect), ("packets", g.kinds.inspect)]

end PacketGuard

instance : Guard PacketGuard where
  dimensions := 2
  empty := {}
  union g h := ⟨g.points.union h.points, g.kinds.union h.kinds⟩
  collapse g := ⟨g.points.collapse, g.kinds.collapse⟩
  isEmpty g := g.points.isEmpty && g.kinds.isEmpty
  encode := PacketGuard.encode
  decode := PacketGuard.decode
  inspect := PacketGuard.inspect

/-! ### Rooms -/

/-- What a required listener guards, and what is blocked for room events. -/
structure RoomGuard where
  events : Selection RoomCategory := ∅
  deriving DecidableEq, Inhabited

namespace RoomGuard

/-- Every room event. -/
def everything : RoomGuard := ⟨Selection.wildcard⟩

/-- The events of the category are guarded before they happen. -/
def blocks (g : RoomGuard) (c : RoomCategory) : Bool := g.events.covers c

/-- The guard read from its stored form. -/
def decode (raw : String) : RoomGuard × List UnknownCategory :=
  let (events, unknown) := Selection.ofProperty raw
  (⟨events⟩, unknown)

/-- The inspection form of a room guard. -/
def inspect (g : RoomGuard) : String :=
  Text.Inspect.record "RoomGuard" [("events", g.events.inspect)]

end RoomGuard

instance : Guard RoomGuard where
  dimensions := 1
  empty := {}
  union g h := ⟨g.events.union h.events⟩
  collapse g := ⟨g.events.collapse⟩
  isEmpty g := g.events.isEmpty
  encode g _ := g.events.property
  decode _ _ raw := RoomGuard.decode raw
  inspect := RoomGuard.inspect

end TrafficGate
