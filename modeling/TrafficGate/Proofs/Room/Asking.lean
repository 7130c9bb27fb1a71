import Mathlib.Data.List.Forall2
import TrafficGate.Proofs.Room.Pipeline
import TrafficGate.Proofs.Room.Recording
import TrafficGate.Proofs.Stopping

/-!
# Room — Asking

What an announcement answers and whom it asks, told apart from the loop that asks.

An *inquiry* is one call of a required listener, with what it comes to.  `inquiries` asks listener
after listener, whatever they answer; an announcement makes these inquiries up to the first one that
decides.

* `Inquiry.Decisive`: the listener handles the event, or rejects it.
* `ask_cons`: the loop, one inquiry at a time; `ask_answer` and `ask_recording` are what it comes to.
* `Inquiry.Eased`: a failure or a crash in place of which the listener might have answered that it did
  not handle the event.  Easing inquiries changes neither who is asked nor the answer
  (`through_eased`).
* `announcement_follows_the_listeners`: the announcement, said without its loop.
-/

namespace TrafficGate

/-- One call of a required listener before an event, and what it comes to. -/
structure Inquiry (H : Type) where
  member : Member H
  outcome : Outcome Bool
  deriving DecidableEq, Repr

namespace Inquiry

variable {H : Type} {inquiry eased : Inquiry H}

/-- The call that an inquiry makes. -/
def call (event : RoomEvent) (inquiry : Inquiry H) : RoomCall H :=
  .asked inquiry.member.handle event

/-- The listener handles the event, or rejects it. -/
def Decisive (inquiry : Inquiry H) : Prop :=
  inquiry.outcome = .returned true ∨ ∃ r, inquiry.outcome = .faulted (.rejected r)

/-- The listener fails or crashes. -/
def Fails (inquiry : Inquiry H) : Prop :=
  (∃ reason, inquiry.outcome = .faulted (.failed reason)) ∨ ∃ text, inquiry.outcome = .crashed text

/-- What the announcement answers if the inquiry is its last one. -/
def answer (inquiry : Inquiry H) : Except Rejection Bool :=
  match inquiry.outcome with
  | .returned handled => .ok handled
  | .faulted (.rejected r) => .error r
  | _ => .ok false

theorem decisive_iff : inquiry.Decisive ↔ inquiry.answer ≠ .ok false := by
  obtain ⟨member, outcome⟩ := inquiry
  unfold Decisive answer
  cases outcome with
  | returned handled => cases handled <;> simp
  | faulted fault => cases fault <;> simp
  | crashed text => simp

instance : DecidablePred (Decisive (H := H)) := fun _ =>
  decidable_of_iff _ decisive_iff.symm

theorem answer_eq_true_iff : inquiry.answer = .ok true ↔ inquiry.outcome = .returned true := by
  obtain ⟨member, outcome⟩ := inquiry
  unfold answer
  cases outcome with
  | returned handled => simp
  | faulted fault => cases fault <;> simp
  | crashed text => simp

theorem answer_eq_error_iff {r : Rejection} :
    inquiry.answer = .error r ↔ inquiry.outcome = .faulted (.rejected r) := by
  obtain ⟨member, outcome⟩ := inquiry
  unfold answer
  cases outcome with
  | returned handled => simp
  | faulted fault => cases fault <;> simp
  | crashed text => simp

/-! ### Failures and crashes -/

/-- The same listener is asked and answers the same, or it answers that it did not handle the event
where it failed or crashed before. -/
def Eased (inquiry eased : Inquiry H) : Prop :=
  eased.member = inquiry.member ∧
    (eased.outcome = inquiry.outcome ∨ inquiry.Fails ∧ eased.outcome = .returned false)

theorem Eased.answer_eq (h : inquiry.Eased eased) : eased.answer = inquiry.answer := by
  obtain ⟨-, hsame | ⟨⟨reason, hfailed⟩ | ⟨text, hcrashed⟩, hpassed⟩⟩ := h
  · rw [answer, answer, hsame]
  · rw [answer, answer, hfailed, hpassed]
  · rw [answer, answer, hcrashed, hpassed]

theorem Eased.call_eq (h : inquiry.Eased eased) (event : RoomEvent) :
    eased.call event = inquiry.call event := by
  rw [call, call, h.1]

theorem Eased.decisive_iff (h : inquiry.Eased eased) : eased.Decisive ↔ inquiry.Decisive := by
  rw [Inquiry.decisive_iff, Inquiry.decisive_iff, h.answer_eq]

/-- Easing keeps the place of the first decisive inquiry. -/
theorem through_eased {inquiries others : List (Inquiry H)}
    (h : List.Forall₂ Eased inquiries others) :
    List.Forall₂ Eased (through Decisive inquiries) (through Decisive others) := by
  induction h with
  | nil => exact .nil
  | cons heased _ ih =>
      rw [through, through]
      simp only [heased.decisive_iff]
      split
      · exact .cons heased .nil
      · exact .cons heased ih

/-- What is said of an inquiry and does not change by easing is said of eased inquiries too. -/
theorem map_eased {β : Type} {f : Inquiry H → β}
    (hf : ∀ {inquiry eased : Inquiry H}, inquiry.Eased eased → f eased = f inquiry)
    {made others : List (Inquiry H)} (h : List.Forall₂ Eased made others) :
    others.map f = made.map f := by
  induction h with
  | nil => rfl
  | cons heased _ ih => rw [List.map_cons, List.map_cons, ih, hf heased]

end Inquiry

namespace RoomHost

variable {σ τ H : Type} (host : RoomHost σ H) (event : RoomEvent)

/-! ### Inquiries -/

/-- One inquiry, and the host after it and after what is reported about it. -/
def inquire (member : Member H) (s : σ) : Inquiry H × σ :=
  (⟨member, (host.before member.handle event s).1⟩, (host.ask event [member] s).2)

/-- Listener after listener is asked, whatever they answer. -/
def inquiries : List (Member H) → σ → List (Inquiry H)
  | [], _ => []
  | member :: rest, s =>
    let (inquiry, s) := host.inquire event member s
    inquiry :: inquiries rest s

/-- There is one inquiry for each listener, in their order. -/
theorem inquiries_members (members : List (Member H)) (s : σ) :
    (host.inquiries event members s).map (·.member) = members := by
  induction members generalizing s with
  | nil => rfl
  | cons member rest ih =>
      rw [inquiries, List.map_cons, ih]
      rfl

/-! ### The loop -/

/-- **The loop, one inquiry at a time.**  A decisive inquiry is the last one. -/
theorem ask_cons (member : Member H) (rest : List (Member H)) (s : σ) :
    host.ask event (member :: rest) s =
      if (host.inquire event member s).1.Decisive then
        ((host.inquire event member s).1.answer, (host.inquire event member s).2)
      else host.ask event rest (host.inquire event member s).2 := by
  rcases hbefore : host.before member.handle event s with ⟨outcome, called⟩
  simp only [inquire, ask, hbefore]
  have hundecided (h : (⟨member, outcome⟩ : Inquiry H).answer = .ok false) :
      ¬ (⟨member, outcome⟩ : Inquiry H).Decisive :=
    fun hdecisive => Inquiry.decisive_iff.mp hdecisive h
  cases outcome with
  | returned handled =>
      cases handled with
      | true => exact (if_pos (.inl rfl)).symm
      | false => exact (if_neg (hundecided rfl)).symm
  | faulted fault =>
      cases fault with
      | rejected r => exact (if_pos (.inr ⟨r, rfl⟩)).symm
      | failed reason => exact (if_neg (hundecided rfl)).symm
  | crashed text => exact (if_neg (hundecided rfl)).symm

/-- The answer after these inquiries. -/
def lastAnswer (made : List (Inquiry H)) : Except Rejection Bool :=
  (made.map (·.answer)).getLast?.getD (.ok false)

/-- The answer is that of the last inquiry that is made. -/
theorem ask_answer (members : List (Member H)) (s : σ) :
    (host.ask event members s).1 =
      lastAnswer (through Inquiry.Decisive (host.inquiries event members s)) := by
  induction members generalizing s with
  | nil => rfl
  | cons member rest ih =>
      rw [ask_cons, inquiries, through]
      split
      · rfl
      · rename_i hundecided
        -- if nobody else is asked, an undecided listener leaves the event unhandled
        have hanswer : (host.inquire event member s).1.answer = .ok false :=
          not_not.mp fun h => hundecided (Inquiry.decisive_iff.mpr h)
        rw [ih, lastAnswer, lastAnswer, List.map_cons, List.getLast?_cons, hanswer, Option.getD_some]

/-- Recording is not noticed by a listener that is asked, and the call is kept. -/
theorem inquire_recording (member : Member H) (t : σ × List (RoomCall H)) :
    host.recording.inquire event member t =
      ((host.inquire event member t.1).1,
        (host.inquire event member t.1).2,
        t.2 ++ [(host.inquire event member t.1).1.call event]) := by
  rcases hbefore : host.before member.handle event t.1 with ⟨outcome, called⟩
  simp only [inquire, ask, recording, hbefore]
  cases outcome with
  | returned handled => cases handled <;> rfl
  | faulted fault => cases fault <;> rfl
  | crashed text => rfl

/-- The calls that are made are those of the inquiries up to the first decisive one. -/
theorem ask_recording (members : List (Member H)) (t : σ × List (RoomCall H)) :
    (host.recording.ask event members t).2.2 =
      t.2 ++ (through Inquiry.Decisive (host.inquiries event members t.1)).map (·.call event) := by
  induction members generalizing t with
  | nil => exact (List.append_nil _).symm
  | cons member rest ih =>
      rw [ask_cons, inquire_recording, inquiries, through]
      split
      · rfl
      · rw [ih, List.map_cons, List.append_assoc]
        rfl

/-! ### The announcement -/

variable {host event}

theorem lastAnswer_eq_iff {made : List (Inquiry H)} {answer : Except Rejection Bool}
    (h : answer ≠ .ok false) :
    lastAnswer made = answer ↔ ∃ last, made.getLast? = some last ∧ last.answer = answer := by
  rw [lastAnswer, List.getLast?_map]
  cases made.getLast? with
  | none => simpa using h.symm
  | some last => simp

/-- An event is unhandled when no inquiry that is made decides. -/
theorem lastAnswer_eq_unhandled_iff {made all : List (Inquiry H)}
    (h : StopsAt Inquiry.Decisive made all) :
    lastAnswer made = .ok false ↔ ∀ inquiry ∈ made, ¬ inquiry.Decisive := by
  rw [lastAnswer, List.getLast?_map]
  cases hlast : made.getLast? with
  | none => simp [List.getLast?_eq_none_iff.mp hlast]
  | some last =>
      have hmade : made.dropLast ++ [last] = made := List.dropLast_append_getLast? last hlast
      have hundecided : last.answer = .ok false ↔ ¬ last.Decisive := by
        rw [Inquiry.decisive_iff, not_not]
      rw [Option.map_some, Option.getD_some, hundecided]
      constructor
      · intro hlast inquiry hinquiry
        rw [← hmade] at hinquiry
        rcases List.mem_append.mp hinquiry with hearlier | hsame
        · exact h.undecided inquiry hearlier
        · exact List.mem_singleton.mp hsame ▸ hlast
      · exact fun hall => hall last (List.mem_of_getLast? hlast)

/-- An event that is not blocked is announced to the required listeners. -/
theorem announce_of_not_blocks {s : σ}
    (h : (host.pipeline s).gate.posting.blocked.blocks event.category = false) :
    host.announce event s = host.ask event (host.pipeline s).gate.posting.required s :=
  if_neg (Bool.eq_false_iff.mp h)

/-- The calls of an announcement that is not blocked. -/
theorem asks_of_not_blocks {s : σ}
    (h : (host.pipeline s).gate.posting.blocked.blocks event.category = false) :
    host.asks event s =
      (through Inquiry.Decisive
        (host.inquiries event (host.pipeline s).gate.posting.required s)).map (·.call event) := by
  have hrecording : host.recording.announce event (s, []) = _ := announce_of_not_blocks h
  rw [asks, hrecording]
  exact ask_recording host event _ (s, [])

/-- **An announcement follows the listeners.**  Let an event whose category is not blocked be
announced by any host, whose listeners do anything they can do: handle the event or not, reject it,
fail or crash.

* The required listeners are asked in the order of registration, up to the first one that handles the
  event or rejects it, or all of them if none does.
* The event is handled exactly when the last listener that was asked handled it, and rejected exactly
  when it rejected it, and for the reason given there; it is unhandled when nobody decided.
* In place of any failure or crash the listener might as well have answered that it did not handle
  the event: in whatever host the listeners give these answers, the announcement makes the same calls
  and answers the same. -/
theorem announcement_follows_the_listeners (host : RoomHost σ H) (event : RoomEvent) (s : σ)
    (hopen : (host.pipeline s).gate.posting.blocked.blocks event.category = false) :
    let required := (host.pipeline s).gate.posting.required
    let inquiries := host.inquiries event required s
    let answer := (host.announce event s).1
    inquiries.map (·.member) = required ∧
    (∃ made, StopsAt Inquiry.Decisive made inquiries ∧
      host.asks event s = made.map (·.call event) ∧
      (answer = .ok true ↔
        ∃ last, made.getLast? = some last ∧ last.outcome = .returned true) ∧
      (∀ r, answer = .error r ↔
        ∃ last, made.getLast? = some last ∧ last.outcome = .faulted (.rejected r)) ∧
      (answer = .ok false ↔ ∀ inquiry ∈ made, ¬ inquiry.Decisive)) ∧
    ∀ {τ : Type} (eased : RoomHost τ H) (t : τ),
      (eased.pipeline t).gate.posting.blocked.blocks event.category = false →
      List.Forall₂ Inquiry.Eased inquiries
        (eased.inquiries event (eased.pipeline t).gate.posting.required t) →
      eased.asks event t = host.asks event s ∧ (eased.announce event t).1 = answer := by
  intro required inquiries answer
  have hanswer : answer = lastAnswer (through Inquiry.Decisive inquiries) := by
    rw [← ask_answer, ← announce_of_not_blocks hopen]
  have hstops : StopsAt Inquiry.Decisive (through Inquiry.Decisive inquiries) inquiries :=
    stopsAt_through inquiries
  refine ⟨host.inquiries_members event _ s, ⟨_, hstops, asks_of_not_blocks hopen, ?_, fun r => ?_, ?_⟩,
    fun eased t heasedOpen heased => ?_⟩
  · rw [hanswer, lastAnswer_eq_iff (by simp)]
    simp only [Inquiry.answer_eq_true_iff]
  · rw [hanswer, lastAnswer_eq_iff (by simp)]
    simp only [Inquiry.answer_eq_error_iff]
  · rw [hanswer, lastAnswer_eq_unhandled_iff hstops]
  · have hthrough := Inquiry.through_eased heased
    rw [asks_of_not_blocks heasedOpen, asks_of_not_blocks hopen, announce_of_not_blocks heasedOpen,
      ask_answer, hanswer]
    refine ⟨Inquiry.map_eased (fun h => h.call_eq event) hthrough, ?_⟩
    rw [lastAnswer, Inquiry.map_eased (fun h => h.answer_eq) hthrough, lastAnswer]

/-- A host whose listeners go by numbers.  The fourth one rejects each event, the fifth one handles
it, and how the first and the third one answer is left open. -/
def panel (first third : Outcome Bool) : RoomHost (RoomPipeline Nat) Nat where
  pipeline := id
  before handle _ s :=
    (match handle with
      | 1 => first
      | 3 => third
      | 4 => .faulted (.rejected .silent)
      | 5 => .returned true
      | _ => .returned false, s)
  hear _ _ s := (.returned (), s)
  labelOf := toString
  report _ s := s

/-- All five are live, and nobody is absent. -/
def seated : RoomPipeline Nat :=
  let pipeline : RoomPipeline Nat := RoomPipeline.loaded Table.empty
  let seat (gate : Gate RoomGuard Nat) (handle : Nat) : Gate RoomGuard Nat :=
    (gate.settled (.register (toString handle) handle RoomGuard.everything)).2
  { pipeline with gate := [1, 2, 3, 4, 5].foldl seat pipeline.gate }

/-- The first listener crashes and the third one fails, and still the fourth one is asked, and
decides; the fifth one is not asked.  So it is too if these two do not handle the event. -/
theorem panel_at_work :
    let event := RoomEvent.roomCreated { domain := "hall" } { domain := "here" }
    let faulty := panel (.crashed none) (.faulted (.failed "out of order"))
    let patient := panel (.returned false) (.returned false)
    let calls : List (RoomCall Nat) :=
      [.asked 1 event, .asked 2 event, .asked 3 event, .asked 4 event]
    faulty.asks event seated = calls ∧ (faulty.announce event seated).1 = .error .silent ∧
      patient.asks event seated = calls ∧ (patient.announce event seated).1 = .error .silent := by
  intro event faulty patient calls
  obtain ⟨-, ⟨made, hmade, hasks, -, hrejected, -⟩, heased⟩ :=
    announcement_follows_the_listeners faulty event seated (by decide +kernel)
  have hthrough := hmade.eq_through
  have hcalls : faulty.asks event seated = calls := by
    rw [hasks, hthrough]
    decide +kernel
  have hanswer : (faulty.announce event seated).1 = .error .silent := by
    refine (hrejected _).mpr ?_
    rw [hthrough]
    exact ⟨⟨⟨"4", 4⟩, .faulted (.rejected .silent)⟩, by decide +kernel, rfl⟩
  -- all five are asked here, also those that the announcement does not come to
  have hfaulty : faulty.inquiries event (faulty.pipeline seated).gate.posting.required seated =
      [⟨⟨"1", 1⟩, .crashed none⟩, ⟨⟨"2", 2⟩, .returned false⟩,
        ⟨⟨"3", 3⟩, .faulted (.failed "out of order")⟩,
        ⟨⟨"4", 4⟩, .faulted (.rejected .silent)⟩, ⟨⟨"5", 5⟩, .returned true⟩] := by decide +kernel
  have hpatient : patient.inquiries event (patient.pipeline seated).gate.posting.required seated =
      [⟨⟨"1", 1⟩, .returned false⟩, ⟨⟨"2", 2⟩, .returned false⟩, ⟨⟨"3", 3⟩, .returned false⟩,
        ⟨⟨"4", 4⟩, .faulted (.rejected .silent)⟩, ⟨⟨"5", 5⟩, .returned true⟩] := by decide +kernel
  obtain ⟨hsameCalls, hsameAnswer⟩ := heased patient seated (by decide +kernel) (by
    rw [hfaulty, hpatient]
    exact .cons ⟨rfl, .inr ⟨.inr ⟨_, rfl⟩, rfl⟩⟩ (.cons ⟨rfl, .inl rfl⟩
      (.cons ⟨rfl, .inr ⟨.inl ⟨_, rfl⟩, rfl⟩⟩ (.cons ⟨rfl, .inl rfl⟩ (.cons ⟨rfl, .inl rfl⟩ .nil)))))
  exact ⟨hcalls, hanswer, hsameCalls.trans hcalls, hsameAnswer.trans hanswer⟩

end RoomHost

end TrafficGate
