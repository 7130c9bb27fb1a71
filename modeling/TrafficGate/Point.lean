import TrafficGate.Category

/-!
# Point

The four points at which a packet passes the interceptors: before and after processing, on its way
in and on its way out.
-/

namespace TrafficGate

/-- The direction of a packet, seen from the server. -/
inductive Direction where
  | inbound | outbound
  deriving DecidableEq, Repr, Inhabited

/-- Before or after the packet is acted on; afterwards it can no longer be recalled. -/
inductive Stage where
  | pre | post
  deriving DecidableEq, Repr, Inhabited

/-- A point at which a packet passes the interceptors. -/
structure Point where
  direction : Direction
  stage : Stage
  deriving DecidableEq, Repr, Inhabited

namespace Point

/-- The four points: inbound before outbound, before processing before after it. -/
def all : List Point :=
  [⟨.inbound, .pre⟩, ⟨.inbound, .post⟩, ⟨.outbound, .pre⟩, ⟨.outbound, .post⟩]

/-- The point of a packet that is read (or sent) and has (or has not) been processed. -/
def ofFlags (incoming processed : Bool) : Point where
  direction := if incoming then .inbound else .outbound
  stage := if processed then .post else .pre

/-- The packet is read by the server. -/
def isIncoming (p : Point) : Bool := p.direction = .inbound

/-- The packet has been processed. -/
def isProcessed (p : Point) : Bool := p.stage = .post

/-- The categories a point counts as: its stage, then its direction. -/
def categories (p : Point) : List TrafficCategory :=
  [match p.stage with
    | .pre => .unprocessed
    | .post => .processed,
   match p.direction with
    | .inbound => .incoming
    | .outbound => .outgoing]

/-- The point as texts show it. -/
def render (p : Point) : String :=
  (match p.direction with
    | .inbound => "inbound"
    | .outbound => "outbound") ++ "/" ++
  (match p.stage with
    | .pre => "pre"
    | .post => "post")

end Point

end TrafficGate
