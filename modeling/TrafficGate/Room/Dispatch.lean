import TrafficGate.Room.Pipeline
import TrafficGate.Verdict

/-!
# Room — Dispatch

Room events are announced before they happen and told of afterwards.  Before, the required listeners
are asked in order until one handles or rejects the event; an event whose category is blocked asks
nobody.  Afterwards the required listeners hear of it, unless it is blocked, and then the audience
does, always.  A listener that crashes is logged and stops no other.
-/

namespace TrafficGate

/-- Where listeners live: a state with a pipeline in it, how a listener is asked before an event and
told of it afterwards, how it is labelled, and where reports go. -/
structure RoomHost (σ H : Type) where
  pipeline : σ → RoomPipeline H
  before : H → RoomEvent → σ → Outcome Bool × σ
  hear : H → RoomEvent → σ → Outcome Unit × σ
  labelOf : H → String
  report : Report → σ → σ

namespace RoomHost

variable {σ H : Type} (host : RoomHost σ H)

/-- Counts an outcome of the room gate. -/
def count (tally : Tally) (s : σ) : σ := host.report (.counted RoomPipeline.label tally) s

/-- Logs an entry about rooms. -/
def say (level : Log.Level) (message : String) (fields : List (String × Log.Value)) (s : σ) : σ :=
  host.report (RoomPipeline.said level message fields) s

/-- Asks the required listeners in order: whether one handled the event, or the rejection. -/
def ask (event : RoomEvent) : List (Member H) → σ → Except Rejection Bool × σ
  | [], s => (.ok false, s)
  | member :: rest, s =>
    let (outcome, s) := host.before member.handle event s
    let about : List (String × Log.Value) :=
      [("listener", .shown member.name), ("event", .shown event.inspect)]
    match outcome.isolate with
    | .ok true =>
      let s := host.count .vetoed s
      (.ok true, host.say .debug "Room event handled" about s)
    | .ok false => ask event rest s
    | .error (.rejected r) =>
      let s := host.count .componentRejected s
      (.error r, host.say .debug "Room event rejected"
        (about ++ [("rejection", .shown r.message)]) s)
    | .error (.failed reason) =>
      let s := host.count .componentFault s
      ask event rest (host.say .error "Error in required room listener"
        (about ++ [("error", .shown reason)]) s)

/-- Announces an event before it happens: whether a listener handled it, or the rejection. -/
def announce (event : RoomEvent) (s : σ) : Except Rejection Bool × σ :=
  let posting := (host.pipeline s).gate.posting
  if posting.blocked.blocks event.category then
    let s := host.count .gateBlocked s
    (.ok false, host.say .debug "Room event blocked: required listener absent"
      [("category", .shown event.category.token), ("event", .shown event.inspect)] s)
  else host.ask event posting.required s

/-- Tells one listener of an event. -/
def deliver (event : RoomEvent) (s : σ) (handle : H) : σ :=
  let (outcome, s) := host.hear handle event s
  match outcome.isolate with
  | .ok () => s
  | .error fault =>
    let s := host.count .componentFault s
    host.say .error "Error in room event listener"
      [("listener", .text (host.labelOf handle)), ("event", .shown event.inspect),
       ("error", .shown fault.message)] s

/-- Tells of an event after it happened. -/
def notify (event : RoomEvent) (s : σ) : σ :=
  let posting := (host.pipeline s).gate.posting
  let s :=
    if posting.blocked.blocks event.category then s
    else (posting.required.map (·.handle)).foldl (host.deliver event) s
  (host.pipeline s).audience.foldl (host.deliver event) s

end RoomHost

end TrafficGate
