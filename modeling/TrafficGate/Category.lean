import TrafficGate.Log
import TrafficGate.Text.Inspect

/-!
# Category

The closed enumerations that guards are made of.  Each has a wildcard member that stands for all the
others, and a token per member under which it is stored.

* `TrafficCategory`: where a packet is on its way through the server.
* `PacketCategory`: the kinds of packets.
* `RoomCategory`: the room events that can be stopped before they happen.
* `Category.parse?_token`: a token names its own member.
-/

namespace TrafficGate

/-- A closed enumeration of guarded categories with a wildcard. -/
class Category (C : Type) [DecidableEq C] where
  /-- The enumeration in words. -/
  kind : String
  /-- The wildcard. -/
  all : C
  /-- Every member, in the order of the enumeration. -/
  members : List C
  /-- The stored form of a member. -/
  token : C → String
  /-- The inspection form of a member. -/
  inspect : C → String
  mem_members : ∀ c, c ∈ members
  nodup_members : members.Nodup
  token_injective : ∀ {a b : C}, token a = token b → a = b

/-- A text that is the token of no member of its enumeration. -/
structure UnknownCategory where
  kind : String
  token : String
  deriving DecidableEq, Repr, Inhabited

/-- The wording of the error. -/
def UnknownCategory.message (e : UnknownCategory) : String :=
  "Unknown " ++ e.kind ++ " category: '" ++ e.token ++ "'"

/-- What is logged about an unknown token that is passed over. -/
def UnknownCategory.warning (e : UnknownCategory) : Log.Entry where
  level := .warn
  source := .categories
  message := e.message
  fields := [("token", .text e.token), ("kind", .text e.kind)]

namespace Category

variable {C : Type} [DecidableEq C] [Category C]

/-- The member with the token, if there is one. -/
def parse? (token : String) : Option C := (members (C := C)).find? (fun c => Category.token c = token)

/-- The member with the token, or the error that names it. -/
def parse (token : String) : Except UnknownCategory C :=
  match parse? token with
  | some c => .ok c
  | none => .error ⟨kind C, token⟩

/-- The place of a member in the enumeration. -/
def index (c : C) : Nat := (members (C := C)).idxOf c

theorem parse?_eq_some_iff {token : String} {c : C} :
    parse? token = some c ↔ Category.token c = token := by
  constructor
  · intro h
    simpa using List.find?_some h
  · rintro rfl
    have hsome : (parse? (Category.token c) : Option C).isSome := by
      simp only [parse?, List.find?_isSome, decide_eq_true_eq]
      exact ⟨c, mem_members c, rfl⟩
    obtain ⟨d, hd⟩ := Option.isSome_iff_exists.mp hsome
    have htok : Category.token d = Category.token c := by simpa using List.find?_some hd
    rw [hd, token_injective htok]

@[simp] theorem parse?_token (c : C) : parse? (token c) = some c :=
  parse?_eq_some_iff.mpr rfl

end Category

/-! ### The three enumerations -/

/-- Where a packet is on its way through the server: its direction, and whether it has been
processed. -/
inductive TrafficCategory where
  | all | incoming | outgoing | processed | unprocessed
  deriving DecidableEq, Repr, Inhabited

/-- The kinds of packets; a roster packet also counts as an info/query packet. -/
inductive PacketCategory where
  | all | presence | iq | message | roster
  deriving DecidableEq, Repr, Inhabited

/-- The room events that can be stopped before they happen. -/
inductive RoomCategory where
  | all | created | destroyed | joined | left | nickChanged | messageReceived
  | privateMessageReceived | subjectChanged
  deriving DecidableEq, Repr, Inhabited

/-- The token of a traffic category. -/
def TrafficCategory.token : TrafficCategory → String
  | .all => "All"
  | .incoming => "Incoming"
  | .outgoing => "Outgoing"
  | .processed => "Processed"
  | .unprocessed => "Unprocessed"

/-- The token of a packet category. -/
def PacketCategory.token : PacketCategory → String
  | .all => "All"
  | .presence => "Presence"
  | .iq => "IQ"
  | .message => "Message"
  | .roster => "Roster"

/-- The inspection form of a packet category. -/
def PacketCategory.inspect : PacketCategory → String
  | .iq => "Iq"
  | c => c.token

/-- The token of a room event category. -/
def RoomCategory.token : RoomCategory → String
  | .all => "All"
  | .created => "BeforeCreated"
  | .destroyed => "BeforeDestroyed"
  | .joined => "BeforeJoined"
  | .left => "BeforeLeft"
  | .nickChanged => "BeforeNickChanged"
  | .messageReceived => "BeforeMessageReceived"
  | .privateMessageReceived => "BeforePrivateMessageReceived"
  | .subjectChanged => "BeforeSubjectChanged"

instance : Category TrafficCategory where
  kind := "traffic"
  all := .all
  members := [.all, .incoming, .outgoing, .processed, .unprocessed]
  token := TrafficCategory.token
  inspect := TrafficCategory.token
  mem_members := by intro c; cases c <;> decide
  nodup_members := by decide
  token_injective := by intro a b h; cases a <;> cases b <;> simp_all [TrafficCategory.token]

instance : Category PacketCategory where
  kind := "packet"
  all := .all
  members := [.all, .presence, .iq, .message, .roster]
  token := PacketCategory.token
  inspect := PacketCategory.inspect
  mem_members := by intro c; cases c <;> decide
  nodup_members := by decide
  token_injective := by intro a b h; cases a <;> cases b <;> simp_all [PacketCategory.token]

instance : Category RoomCategory where
  kind := "room event"
  all := .all
  members := [.all, .created, .destroyed, .joined, .left, .nickChanged, .messageReceived,
    .privateMessageReceived, .subjectChanged]
  token := RoomCategory.token
  inspect := RoomCategory.token
  mem_members := by intro c; cases c <;> decide
  nodup_members := by decide
  token_injective := by intro a b h; cases a <;> cases b <;> simp_all [RoomCategory.token]

end TrafficGate
