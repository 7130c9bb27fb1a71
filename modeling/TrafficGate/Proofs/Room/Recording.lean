import TrafficGate.Room.Dispatch

/-!
# Room — Recording

A host that keeps every call of a listener (`recording`), so that whom an announcement asks (`asks`)
and whom a notification tells (`tells`) can be said.

* `asks_of_blocks`, `head?_asks`: an event that is blocked asks nobody; any other asks the first
  required listener first.
* `called`, `hearers`: the listeners of both kinds that a notification goes to, in one loop
  (`notify_eq`), with one call for each (`tells_eq_map`).
* `tells_of_blocks`, `tells_of_not_blocks`: an event that is blocked is told to the audience; any
  other to every required listener and then to the audience.
* `deliver_of_step`: what a listener keeps that is told, and every report, is kept when it is told.

A listener may change anything in its host.  The audience is the one that the required listeners
leave (`afterRequired`); where listeners leave the pipeline alone (`Steady`) that is the one there was.
-/

namespace TrafficGate

/-- A call of a listener: it is asked before an event, or told of it afterwards. -/
inductive RoomCall (H : Type) where
  | asked (handle : H) (event : RoomEvent)
  | told (handle : H) (event : RoomEvent)
  deriving DecidableEq, Repr

namespace RoomHost

variable {σ H : Type} (host : RoomHost σ H)

/-- The host that also keeps the calls that are made, in order. -/
def recording : RoomHost (σ × List (RoomCall H)) H where
  pipeline t := host.pipeline t.1
  before handle event t :=
    let (outcome, s) := host.before handle event t.1
    (outcome, s, t.2 ++ [.asked handle event])
  hear handle event t :=
    let (outcome, s) := host.hear handle event t.1
    (outcome, s, t.2 ++ [.told handle event])
  labelOf := host.labelOf
  report r t := (host.report r t.1, t.2)

/-- The calls that are made when an event is announced. -/
def asks (event : RoomEvent) (s : σ) : List (RoomCall H) :=
  (host.recording.announce event (s, [])).2.2

/-- The calls that are made when an event is told of. -/
def tells (event : RoomEvent) (s : σ) : List (RoomCall H) :=
  (host.recording.notify event (s, [])).2

/-- The host after the required listeners were told of an event. -/
def afterRequired (event : RoomEvent) (s : σ) : σ :=
  ((host.pipeline s).gate.posting.required.map (·.handle)).foldl (host.deliver event) s

/-! ### Asking -/

/-- The first required listener is asked first, whatever the others are asked then. -/
theorem ask_calls (event : RoomEvent) (members : List (Member H)) (t : σ × List (RoomCall H)) :
    ∃ made, (host.recording.ask event members t).2.2 = t.2 ++ made ∧
      made.head? = members.head?.map fun member => .asked member.handle event := by
  induction members generalizing t with
  | nil => exact ⟨[], (List.append_nil _).symm, rfl⟩
  | cons member rest ih =>
      -- whatever the answer, the call is there, and what follows is added behind it
      have hmore : ∀ t' : σ × List (RoomCall H), t'.2 = t.2 ++ [.asked member.handle event] →
          ∃ made, (host.recording.ask event rest t').2.2 = t.2 ++ made ∧
            made.head? = some (.asked member.handle event) := by
        intro t' ht'
        obtain ⟨made, hmade, -⟩ := ih t'
        rw [ht', List.append_assoc] at hmade
        exact ⟨_, hmade, rfl⟩
      simp only [ask]
      split
      · exact ⟨_, rfl, rfl⟩
      · exact hmore _ rfl
      · exact ⟨_, rfl, rfl⟩
      · exact hmore _ rfl

variable {host} {event : RoomEvent} {s : σ}

/-- An event that is blocked is not handled. -/
theorem announce_of_blocks
    (h : (host.pipeline s).gate.posting.blocked.blocks event.category = true) :
    (host.announce event s).1 = .ok false := by
  simp only [announce, h, if_true]

/-- An event that is blocked asks nobody. -/
theorem asks_of_blocks
    (h : (host.pipeline s).gate.posting.blocked.blocks event.category = true) :
    host.asks event s = [] := by
  have hblocks : (host.recording.pipeline (s, [])).gate.posting.blocked.blocks event.category
      = true := h
  simp only [asks, announce, hblocks, if_true]
  rfl

/-- An event that is not blocked asks the first required listener first. -/
theorem head?_asks
    (h : (host.pipeline s).gate.posting.blocked.blocks event.category = false) :
    (host.asks event s).head? =
      (host.pipeline s).gate.posting.required.head?.map
        fun member => .asked member.handle event := by
  have hblocks : (host.recording.pipeline (s, [])).gate.posting.blocked.blocks event.category
      = false := h
  obtain ⟨made, hmade, hhead⟩ :=
    host.ask_calls event (host.recording.pipeline (s, [])).gate.posting.required (s, [])
  simp only [asks, announce, hblocks, Bool.false_eq_true, if_false, hmade, List.nil_append]
  exact hhead

/-! ### Telling -/

variable (host event)

/-- Recording is not noticed by a listener that is told, and the call is kept. -/
theorem deliver_recording (t : σ × List (RoomCall H)) (handle : H) :
    host.recording.deliver event t handle =
      (host.deliver event t.1 handle, t.2 ++ [.told handle event]) := by
  simp only [deliver, recording]
  split <;> rfl

/-- Every listener in a list is told, in its order, whatever becomes of those before it. -/
theorem foldl_deliver_recording (handles : List H) (t : σ × List (RoomCall H)) :
    handles.foldl (host.recording.deliver event) t =
      (handles.foldl (host.deliver event) t.1, t.2 ++ handles.map (.told · event)) := by
  induction handles generalizing t with
  | nil => rw [List.foldl_nil, List.foldl_nil, List.map_nil, List.append_nil]
  | cons handle rest ih =>
      rw [List.foldl_cons, ih, deliver_recording, List.foldl_cons, List.map_cons,
        List.append_assoc, List.singleton_append]

/-- The required listeners that are told of an event: none, if it is blocked. -/
def called (s : σ) : List H :=
  let posting := (host.pipeline s).gate.posting
  if posting.blocked.blocks event.category then [] else posting.required.map (·.handle)

/-- The audience that hears of an event: the one that the required listeners leave. -/
def hearers (s : σ) : List H :=
  (host.pipeline ((host.called event s).foldl (host.deliver event) s)).audience

section

variable {host event} {s : σ}

theorem called_of_blocks
    (h : (host.pipeline s).gate.posting.blocked.blocks event.category = true) :
    host.called event s = [] := if_pos h

theorem called_of_not_blocks
    (h : (host.pipeline s).gate.posting.blocked.blocks event.category = false) :
    host.called event s = (host.pipeline s).gate.posting.required.map (·.handle) :=
  if_neg (h ▸ Bool.false_ne_true)

end

/-- A notification is one loop over the listeners that are called and those that hear of the event. -/
theorem notify_eq (s : σ) :
    host.notify event s =
      (host.called event s ++ host.hearers event s).foldl (host.deliver event) s := by
  rw [List.foldl_append, hearers]
  cases h : (host.pipeline s).gate.posting.blocked.blocks event.category with
  | true => simp only [notify, called_of_blocks h, h, if_true, List.foldl_nil]
  | false => simp only [notify, called_of_not_blocks h, h, Bool.false_eq_true, if_false]

/-- It makes one call for each of them. -/
theorem tells_eq_map (s : σ) :
    host.tells event s = (host.called event s ++ host.hearers event s).map (.told · event) := by
  have hcalled : host.recording.called event (s, []) = host.called event s := rfl
  have hhearers : host.recording.hearers event (s, []) = host.hearers event s := by
    rw [hearers, hcalled, foldl_deliver_recording]
    rfl
  rw [tells, notify_eq, hcalled, hhearers, foldl_deliver_recording, List.nil_append]

variable {host event}

/-- An event that is blocked is told to the audience. -/
theorem tells_of_blocks
    (h : (host.pipeline s).gate.posting.blocked.blocks event.category = true) :
    host.tells event s = (host.pipeline s).audience.map (.told · event) := by
  rw [tells_eq_map, hearers, called_of_blocks h]
  rfl

/-- An event that is not blocked is told to every required listener and then to the audience. -/
theorem tells_of_not_blocks
    (h : (host.pipeline s).gate.posting.blocked.blocks event.category = false) :
    host.tells event s =
      ((host.pipeline s).gate.posting.required.map fun member => .told member.handle event) ++
        (host.pipeline (host.afterRequired event s)).audience.map (.told · event) := by
  rw [tells_eq_map, hearers, called_of_not_blocks h, List.map_append, List.map_map]
  rfl

/-- Delivering comes to what the listener does to the host, and perhaps to reports. -/
theorem deliver_of_step (host : RoomHost σ H) (inv : σ → Prop)
    (report : ∀ r s, inv s → inv (host.report r s)) {event : RoomEvent} {s : σ} {handle : H}
    (h : inv (host.hear handle event s).2) : inv (host.deliver event s handle) := by
  simp only [deliver]
  split
  · exact h
  · exact report _ _ (report _ _ h)

/-! ### Listeners that leave the pipeline alone -/

/-- Neither a listener that is told of an event nor a report changes the pipeline. -/
structure Steady (host : RoomHost σ H) : Prop where
  hear handle event s : host.pipeline (host.hear handle event s).2 = host.pipeline s
  report r s : host.pipeline (host.report r s) = host.pipeline s

theorem Steady.pipeline_deliver (h : host.Steady) (event : RoomEvent) (s : σ) (handle : H) :
    host.pipeline (host.deliver event s handle) = host.pipeline s :=
  deliver_of_step host (fun reached => host.pipeline reached = host.pipeline s)
    (fun r reached hreached => (h.report r reached).trans hreached) (h.hear handle event s)

theorem Steady.pipeline_foldl_deliver (h : host.Steady) (event : RoomEvent) (handles : List H)
    (s : σ) : host.pipeline (handles.foldl (host.deliver event) s) = host.pipeline s := by
  induction handles generalizing s with
  | nil => rfl
  | cons handle rest ih => rw [List.foldl_cons, ih, h.pipeline_deliver]

theorem Steady.pipeline_afterRequired (h : host.Steady) (event : RoomEvent) (s : σ) :
    host.pipeline (host.afterRequired event s) = host.pipeline s :=
  h.pipeline_foldl_deliver event _ s

end RoomHost

end TrafficGate
