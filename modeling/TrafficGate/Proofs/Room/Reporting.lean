import TrafficGate.Proofs.Metrics.Counting
import TrafficGate.Proofs.Room.Asking

/-!
# Room — Reporting

A host whose reports also go to something else that takes reports in (`reportingTo`), be it a list of
them or the metrics.  Whatever takes them in, it is told the same.

* `Inquiry.tallies`, `Hearing.tallies`: what is counted of a listener that is asked before an event,
  and of one that is told of it afterwards.
* `ask_reports`, `announce_reports_of_blocks`: an event that is blocked is counted once, as blocked;
  of any other, what is counted of the inquiries up to the first decisive one is counted.
* `tells_eq`, `notify_reports`: whom a notification tells, and that what is counted of these hearings
  is counted.
-/

namespace TrafficGate

/-- What is counted of an inquiry: what the call came to, and that the listener handled the event. -/
def Inquiry.tallies {H : Type} (inquiry : Inquiry H) : List Tally :=
  inquiry.outcome.tallies ++ if inquiry.outcome = .returned true then [.vetoed] else []

/-- One listener that is told of an event afterwards, and what the call comes to. -/
structure Hearing (H : Type) where
  handle : H
  outcome : Outcome Unit
  deriving DecidableEq, Repr

namespace Hearing

variable {H : Type}

/-- The call that a hearing makes. -/
def call (event : RoomEvent) (hearing : Hearing H) : RoomCall H := .told hearing.handle event

/-- What is counted of a hearing: a fault, unless the listener comes to an end. -/
def tallies (hearing : Hearing H) : List Tally :=
  if hearing.outcome = .returned () then [] else [.componentFault]

/-- Nothing but faults is counted of a hearing. -/
theorem eq_componentFault_of_mem_tallies {hearing : Hearing H} {tally : Tally}
    (h : tally ∈ hearing.tallies) : tally = .componentFault := by
  unfold tallies at h
  split at h
  · cases h
  · exact List.mem_singleton.mp h

end Hearing

namespace RoomHost

variable {σ ρ H : Type} (host : RoomHost σ H) (event : RoomEvent)

/-- The host whose reports also go to something else. -/
def reportingTo (take : ρ → Report → ρ) : RoomHost (σ × ρ) H where
  pipeline t := host.pipeline t.1
  before handle event t :=
    let (outcome, s) := host.before handle event t.1
    (outcome, s, t.2)
  hear handle event t :=
    let (outcome, s) := host.hear handle event t.1
    (outcome, s, t.2)
  labelOf := host.labelOf
  report r t := (host.report r t.1, take t.2 r)

/-! ### Announcements -/

/-- A listener that is asked is reported with what is counted of it. -/
theorem inquire_reports (member : Member H) (s : σ) :
    ∃ told, (∀ {ρ : Type} (take : ρ → Report → ρ) (k : ρ),
        (host.reportingTo take).inquire event member (s, k) =
          ((host.inquire event member s).1, (host.inquire event member s).2, told.foldl take k)) ∧
      Report.measured told =
        (host.inquire event member s).1.tallies.map (.counted RoomPipeline.label) := by
  rcases hbefore : host.before member.handle event s with ⟨outcome, called⟩
  simp only [inquire, ask, reportingTo, hbefore]
  cases outcome with
  | returned handled =>
      cases handled with
      | true => exact ⟨[_, _], fun _ _ => rfl, rfl⟩
      | false => exact ⟨[], fun _ _ => rfl, rfl⟩
  | faulted fault =>
      cases fault with
      | rejected r => exact ⟨[_, _], fun _ _ => rfl, rfl⟩
      | failed reason => exact ⟨[_, _], fun _ _ => rfl, rfl⟩
  | crashed text => exact ⟨[_, _], fun _ _ => rfl, rfl⟩

/-- **Asking is reported** with what is counted of the inquiries up to the first decisive one. -/
theorem ask_reports (members : List (Member H)) (s : σ) :
    ∃ told, (∀ {ρ : Type} (take : ρ → Report → ρ) (k : ρ),
        (host.reportingTo take).ask event members (s, k) =
          ((host.ask event members s).1, (host.ask event members s).2, told.foldl take k)) ∧
      Report.measured told =
        ((through Inquiry.Decisive (host.inquiries event members s)).flatMap Inquiry.tallies).map
          (.counted RoomPipeline.label) := by
  induction members generalizing s with
  | nil => exact ⟨[], fun _ _ => rfl, rfl⟩
  | cons member rest ih =>
      obtain ⟨told, hinquire, hmeasured⟩ := host.inquire_reports event member s
      obtain ⟨more, hask, hmore⟩ := ih (host.inquire event member s).2
      simp only [ask_cons, inquiries, through, hinquire]
      split
      · refine ⟨told, fun _ _ => rfl, ?_⟩
        rw [hmeasured, List.flatMap_singleton]
      · refine ⟨told ++ more, fun take k => ?_, ?_⟩
        · rw [hask, List.foldl_append]
        · rw [Report.measured_append, hmeasured, hmore, List.flatMap_cons, List.map_append]

variable {host event} {s : σ}

/-- An event that is blocked is counted once, as blocked. -/
theorem announce_reports_of_blocks
    (h : (host.pipeline s).gate.posting.blocked.blocks event.category = true) :
    ∃ told, (∀ {ρ : Type} (take : ρ → Report → ρ) (k : ρ),
        (host.reportingTo take).announce event (s, k) =
          ((host.announce event s).1, (host.announce event s).2, told.foldl take k)) ∧
      Report.measured told = [.counted RoomPipeline.label .gateBlocked] := by
  have hblocks {ρ : Type} (take : ρ → Report → ρ) (k : ρ) :
      ((host.reportingTo take).pipeline (s, k)).gate.posting.blocked.blocks event.category = true := h
  simp only [announce, h, hblocks, if_true]
  exact ⟨[_, _], fun _ _ => rfl, rfl⟩

/-- Of an event that is not blocked, what is counted of the inquiries it makes is counted. -/
theorem announce_reports_of_not_blocks
    (h : (host.pipeline s).gate.posting.blocked.blocks event.category = false) :
    ∃ told, (∀ {ρ : Type} (take : ρ → Report → ρ) (k : ρ),
        (host.reportingTo take).announce event (s, k) =
          ((host.announce event s).1, (host.announce event s).2, told.foldl take k)) ∧
      Report.measured told =
        ((through Inquiry.Decisive (host.inquiries event (host.pipeline s).gate.posting.required
          s)).flatMap Inquiry.tallies).map (.counted RoomPipeline.label) := by
  obtain ⟨told, hask, hmeasured⟩ :=
    host.ask_reports event (host.pipeline s).gate.posting.required s
  refine ⟨told, fun take k => ?_, hmeasured⟩
  have hannounce : (host.reportingTo take).announce event (s, k) = _ := announce_of_not_blocks h
  rw [hannounce, announce_of_not_blocks h]
  exact hask take k

/-! ### Notifications -/

variable (host event)

/-- Listener after listener is told, whatever becomes of those before it. -/
def hearings : List H → σ → List (Hearing H)
  | [], _ => []
  | handle :: rest, s =>
    ⟨handle, (host.hear handle event s).1⟩ :: hearings rest (host.deliver event s handle)

/-- The hearings of a notification: those of the required listeners, unless the event is blocked, and
then those of the audience. -/
def heard (s : σ) : List (Hearing H) :=
  let posting := (host.pipeline s).gate.posting
  if posting.blocked.blocks event.category then host.hearings event (host.pipeline s).audience s
  else
    host.hearings event (posting.required.map (·.handle)) s ++
      host.hearings event (host.pipeline (host.afterRequired event s)).audience
        (host.afterRequired event s)

theorem hearings_calls (handles : List H) (s : σ) :
    (host.hearings event handles s).map (·.call event) = handles.map (.told · event) := by
  induction handles generalizing s with
  | nil => rfl
  | cons handle rest ih =>
      rw [hearings, List.map_cons, ih]
      rfl

/-- A notification makes the calls of its hearings. -/
theorem tells_eq (s : σ) : host.tells event s = (host.heard event s).map (·.call event) := by
  cases h : (host.pipeline s).gate.posting.blocked.blocks event.category with
  | true => simp only [heard, h, if_true, tells_of_blocks h, hearings_calls]
  | false =>
      simp only [heard, h, Bool.false_eq_true, if_false, tells_of_not_blocks h, List.map_append,
        hearings_calls, List.map_map]
      rfl

/-- A listener that is told is reported with what is counted of it. -/
theorem deliver_reports (handle : H) (s : σ) :
    ∃ told, (∀ {ρ : Type} (take : ρ → Report → ρ) (k : ρ),
        (host.reportingTo take).deliver event (s, k) handle =
          (host.deliver event s handle, told.foldl take k)) ∧
      Report.measured told =
        (Hearing.tallies ⟨handle, (host.hear handle event s).1⟩).map
          (.counted RoomPipeline.label) := by
  rcases hhear : host.hear handle event s with ⟨outcome, called⟩
  simp only [deliver, reportingTo, hhear]
  cases outcome with
  | returned value => exact ⟨[], fun _ _ => rfl, rfl⟩
  | faulted fault => exact ⟨[_, _], fun _ _ => rfl, rfl⟩
  | crashed text => exact ⟨[_, _], fun _ _ => rfl, rfl⟩

theorem foldl_deliver_reports (handles : List H) (s : σ) :
    ∃ told, (∀ {ρ : Type} (take : ρ → Report → ρ) (k : ρ),
        handles.foldl ((host.reportingTo take).deliver event) (s, k) =
          (handles.foldl (host.deliver event) s, told.foldl take k)) ∧
      Report.measured told =
        ((host.hearings event handles s).flatMap Hearing.tallies).map
          (.counted RoomPipeline.label) := by
  induction handles generalizing s with
  | nil => exact ⟨[], fun _ _ => rfl, rfl⟩
  | cons handle rest ih =>
      obtain ⟨told, hdeliver, hmeasured⟩ := host.deliver_reports event handle s
      obtain ⟨more, hrest, hmore⟩ := ih (host.deliver event s handle)
      refine ⟨told ++ more, fun take k => ?_, ?_⟩
      · rw [List.foldl_cons, List.foldl_cons, hdeliver, hrest, List.foldl_append]
      · rw [Report.measured_append, hmeasured, hmore, hearings, List.flatMap_cons, List.map_append]

/-- **A notification is reported** with what is counted of its hearings. -/
theorem notify_reports (s : σ) :
    ∃ told, (∀ {ρ : Type} (take : ρ → Report → ρ) (k : ρ),
        (host.reportingTo take).notify event (s, k) =
          (host.notify event s, told.foldl take k)) ∧
      Report.measured told =
        ((host.heard event s).flatMap Hearing.tallies).map (.counted RoomPipeline.label) := by
  have hpipeline {ρ : Type} (take : ρ → Report → ρ) (k : ρ) (s : σ) :
      (host.reportingTo take).pipeline (s, k) = host.pipeline s := rfl
  cases h : (host.pipeline s).gate.posting.blocked.blocks event.category with
  | true =>
      obtain ⟨told, haudience, hmeasured⟩ :=
        host.foldl_deliver_reports event (host.pipeline s).audience s
      simp only [notify, heard, hpipeline, h, if_true]
      exact ⟨told, haudience, hmeasured⟩
  | false =>
      obtain ⟨told, hrequired, hmeasured⟩ := host.foldl_deliver_reports event
        ((host.pipeline s).gate.posting.required.map (·.handle)) s
      obtain ⟨more, haudience, hmore⟩ := host.foldl_deliver_reports event
        (host.pipeline (host.afterRequired event s)).audience (host.afterRequired event s)
      simp only [notify, heard, hpipeline, h, Bool.false_eq_true, if_false, hrequired]
      refine ⟨told ++ more, fun take k => ?_, ?_⟩
      · rw [List.foldl_append]
        exact haudience take _
      · rw [Report.measured_append, hmeasured, hmore, List.flatMap_append, List.map_append]

end RoomHost

end TrafficGate
