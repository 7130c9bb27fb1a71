import TrafficGate.Packet

/-!
# RoomEvent

What happens in chat rooms.  Each event can be announced before it happens, when a component may
stop it, and told of afterwards.
-/

namespace TrafficGate

/-- An event in a chat room. -/
inductive RoomEvent where
  | roomCreated (room owner : Address)
  | roomDestroyed (room : Address)
  | occupantJoined (room user : Address) (nickname : String)
  | occupantLeft (room user : Address)
  | nicknameChanged (room user : Address) (oldNickname newNickname : String)
  | messageReceived (room user : Address) (nickname : String) (message : Packet)
  | privateMessageReceived (recipient sender : Address) (message : Packet)
  | subjectChanged (room user : Address) (subject : String)
  deriving DecidableEq, Repr, Inhabited

namespace RoomEvent

/-- The category that guards an event. -/
def category : RoomEvent → RoomCategory
  | .roomCreated .. => .created
  | .roomDestroyed .. => .destroyed
  | .occupantJoined .. => .joined
  | .occupantLeft .. => .left
  | .nicknameChanged .. => .nickChanged
  | .messageReceived .. => .messageReceived
  | .privateMessageReceived .. => .privateMessageReceived
  | .subjectChanged .. => .subjectChanged

/-- The event in one word. -/
def name : RoomEvent → String
  | .roomCreated .. => "room_created"
  | .roomDestroyed .. => "room_destroyed"
  | .occupantJoined .. => "occupant_joined"
  | .occupantLeft .. => "occupant_left"
  | .nicknameChanged .. => "nickname_changed"
  | .messageReceived .. => "message_received"
  | .privateMessageReceived .. => "private_message_received"
  | .subjectChanged .. => "subject_changed"

/-- The room of an event; for a private message, the address it is sent to. -/
def room : RoomEvent → Address
  | .roomCreated room _ | .roomDestroyed room | .occupantJoined room _ _ | .occupantLeft room _
  | .nicknameChanged room _ _ _ | .messageReceived room _ _ _ | .subjectChanged room _ _ => room
  | .privateMessageReceived recipient _ _ => recipient

/-- The event with its room. -/
def render (e : RoomEvent) : String := e.name ++ "(" ++ e.room.render ++ ")"

/-- The inspection form of an event. -/
def inspect : RoomEvent → String
  | .roomCreated room owner =>
    Text.Inspect.record "RoomCreated" [("room", room.inspect), ("owner", owner.inspect)]
  | .roomDestroyed room => Text.Inspect.record "RoomDestroyed" [("room", room.inspect)]
  | .occupantJoined room user nickname =>
    Text.Inspect.record "OccupantJoined"
      [("room", room.inspect), ("user", user.inspect), ("nickname", Text.Inspect.text nickname)]
  | .occupantLeft room user =>
    Text.Inspect.record "OccupantLeft" [("room", room.inspect), ("user", user.inspect)]
  | .nicknameChanged room user oldNickname newNickname =>
    Text.Inspect.record "NicknameChanged"
      [("room", room.inspect), ("user", user.inspect),
       ("old_nickname", Text.Inspect.text oldNickname),
       ("new_nickname", Text.Inspect.text newNickname)]
  | .messageReceived room user nickname message =>
    Text.Inspect.record "MessageReceived"
      [("room", room.inspect), ("user", user.inspect), ("nickname", Text.Inspect.text nickname),
       ("message", message.inspect)]
  | .privateMessageReceived recipient sender message =>
    Text.Inspect.record "PrivateMessageReceived"
      [("to", recipient.inspect), ("from", sender.inspect), ("message", message.inspect)]
  | .subjectChanged room user subject =>
    Text.Inspect.record "SubjectChanged"
      [("room", room.inspect), ("user", user.inspect), ("subject", Text.Inspect.text subject)]

end RoomEvent

end TrafficGate
