import TrafficGate.Proofs.Gate.History
import TrafficGate.Proofs.Room.Gating

/-!
# Room — Telling

Whom a notification tells, whatever becomes of the listeners (`notification_reaches_everyone`).

* `RoomPipeline.final_live`: the live listeners of a room pipeline are the standing registrations of
  its history, in the order in which they were made; changes of the audience do not count.
* `RoomHost.InStep`: two hosts in which the same happens to the pipeline, although their listeners may
  fare differently.
* `InStep.foldl_deliver`: they stay so while any list of listeners is told.
* `Steady.inStep`: hosts whose listeners leave the pipeline alone are in step while they share it.
-/

namespace TrafficGate

/-! ### Required listeners and their registrations -/

namespace RoomPipeline

variable {S H : Type} [Store S] [DecidableEq H]

/-- What was asked of the gate, and what it answered. -/
def ofGate? : RoomRequest H × RoomAnswer → Option (Request RoomGuard H × Answer)
  | (.toGate request, .ofGate answer) => some (request, answer)
  | _ => none

/-- The live listeners are the standing registrations, in their order. -/
theorem final_live {store left : S} {pipeline : RoomPipeline H} {entries : List Log.Entry}
    (hload : load store = (.ok pipeline, left, entries)) (turns : List (Turn S (RoomRequest H))) :
    (Run.final attend pipeline left turns).1.gate.roll.live =
      standing ((Run.history attend pipeline left turns).filterMap ofGate?) := by
  obtain ⟨stored, -, rfl⟩ := loaded_of_load hload
  let inv : List (RoomRequest H × RoomAnswer) → RoomPipeline H → Prop := fun past reached =>
    reached.gate.roll.Sound ∧ reached.gate.roll.live = standing (past.filterMap ofGate?)
  have hloaded : inv [] (loaded stored) := ⟨Gate.loaded_sound label Layout.rooms stored, rfl⟩
  refine (Run.final_of_history inv (fun past reached store request hinv => ?_) hloaded left turns).2
  obtain ⟨hsound, hlive⟩ := hinv
  simp only [inv, List.filterMap_append, List.filterMap_cons, List.filterMap_nil]
  cases request with
  | toGate request =>
      simp only [attend, ofGate?, serve_changed, serve_result]
      refine ⟨Gate.settled_sound hsound request, ?_⟩
      rw [Gate.live_settled hsound, standing_concat, hlive]
  | addListener handle =>
      simp only [attend, ofGate?, List.append_nil]
      exact ⟨hsound, hlive⟩
  | removeListener handle =>
      simp only [attend, ofGate?, List.append_nil]
      exact ⟨hsound, hlive⟩

end RoomPipeline

/-! ### Hosts in step -/

namespace RoomHost

variable {σ τ H : Type}

/-- In both hosts the same happens to the pipeline: states that are alike have one pipeline, and they
stay alike when a listener is told in both, whatever becomes of it in either, and when something is
reported in one of them. -/
structure InStep (host : RoomHost σ H) (other : RoomHost τ H) (alike : σ → τ → Prop) : Prop where
  pipeline {s t} : alike s t → other.pipeline t = host.pipeline s
  hear {s t} handle event : alike s t →
    alike (host.hear handle event s).2 (other.hear handle event t).2
  report_left {s t} r : alike s t → alike (host.report r s) t
  report_right {s t} r : alike s t → alike s (other.report r t)

/-- The same host, except that something else becomes of the listeners that are told. -/
def faring (host : RoomHost σ H) (outcome : H → RoomEvent → σ → Outcome Unit) : RoomHost σ H :=
  { host with hear := fun handle event s => (outcome handle event s, (host.hear handle event s).2) }

namespace InStep

variable {host : RoomHost σ H} {other : RoomHost τ H} {alike : σ → τ → Prop}
  (h : host.InStep other alike) (event : RoomEvent)

include h

theorem deliver (handle : H) {s : σ} {t : τ} (hst : alike s t) :
    alike (host.deliver event s handle) (other.deliver event t handle) := by
  refine deliver_of_step host (alike · _) (fun r _ => h.report_left r) ?_
  exact deliver_of_step other (alike _ ·) (fun r _ => h.report_right r) (h.hear handle event hst)

theorem foldl_deliver (handles : List H) {s : σ} {t : τ} (hst : alike s t) :
    alike (handles.foldl (host.deliver event) s) (handles.foldl (other.deliver event) t) := by
  induction handles generalizing s t with
  | nil => exact hst
  | cons handle rest ih => exact ih (h.deliver event handle hst)

end InStep

/-- Hosts whose listeners leave the pipeline alone are in step while they share it. -/
theorem Steady.inStep {host : RoomHost σ H} {other : RoomHost τ H} (h : host.Steady)
    (h' : other.Steady) : host.InStep other fun s t => other.pipeline t = host.pipeline s where
  pipeline hst := hst
  hear handle event hst := by rw [h.hear, h'.hear, hst]
  report_left r hst := by rw [h.report, hst]
  report_right r hst := by rw [h'.report, hst]

theorem Steady.faring {host : RoomHost σ H} (h : host.Steady)
    (outcome : H → RoomEvent → σ → Outcome Unit) : (host.faring outcome).Steady :=
  ⟨h.hear, h.report⟩

/-! ### Notifications -/

/-- In hosts in step, the same listeners are told. -/
theorem InStep.notify {host : RoomHost σ H} {other : RoomHost τ H} {alike : σ → τ → Prop}
    (h : host.InStep other alike) (event : RoomEvent) {s : σ} {t : τ} (hst : alike s t) :
    other.tells event t = host.tells event s ∧ alike (host.notify event s) (other.notify event t) := by
  have hcalled : other.called event t = host.called event s := by
    simp only [called, h.pipeline hst]
  have hhearers : other.hearers event t = host.hearers event s := by
    rw [hearers, hcalled, h.pipeline (h.foldl_deliver event _ hst), hearers]
  rw [tells_eq_map, tells_eq_map, notify_eq, notify_eq, hcalled, hhearers]
  exact ⟨rfl, h.foldl_deliver event _ hst⟩

/-- **A notification reaches everyone.**  Let a host with any pipeline tell of an event.

* The calls that are made are one for each required listener, in their order, unless the event is
  blocked, and then one for each place in the audience, in its order; and each of these listeners is
  dealt with to the end, whatever became of those before it.
* In another host in which the same happens to the pipeline, the same calls are made, whichever
  listeners crash in the one and in the other.
* The audience is the one there was, if listeners leave the pipeline alone; then the calls are the same
  whatever else becomes of the listeners.
* If a run led to the pipeline, the required listeners are the standing registrations of its history,
  in the order in which they were made. -/
theorem notification_reaches_everyone [DecidableEq H] (host : RoomHost σ H) (event : RoomEvent)
    (s : σ) :
    let posting := (host.pipeline s).gate.posting
    let required :=
      if posting.blocked.blocks event.category then [] else posting.required.map (·.handle)
    let audience := (host.pipeline (required.foldl (host.deliver event) s)).audience
    host.tells event s = (required ++ audience).map (.told · event) ∧
    host.notify event s = (required ++ audience).foldl (host.deliver event) s ∧
    (∀ {τ : Type} (other : RoomHost τ H) (alike : σ → τ → Prop) (t : τ),
      host.InStep other alike → alike s t →
        other.tells event t = host.tells event s ∧
        alike (host.notify event s) (other.notify event t)) ∧
    (host.Steady → audience = (host.pipeline s).audience ∧
      ∀ outcome, (host.faring outcome).tells event s = host.tells event s) ∧
    (∀ {S : Type} [Store S] {store left : S} {pipeline : RoomPipeline H} {entries : List Log.Entry},
      RoomPipeline.load store = (.ok pipeline, left, entries) →
      ∀ turns : List (Turn S (RoomRequest H)),
        host.pipeline s = (Run.final RoomPipeline.attend pipeline left turns).1 →
        posting.required =
          standing ((Run.history RoomPipeline.attend pipeline left turns).filterMap
            RoomPipeline.ofGate?)) := by
  refine ⟨host.tells_eq_map event s, host.notify_eq event s,
    fun other alike t h hst => h.notify event hst, fun hsteady => ⟨?_, fun outcome => ?_⟩,
    fun hload turns hreached => ?_⟩
  · exact congrArg RoomPipeline.audience (hsteady.pipeline_foldl_deliver event _ s)
  · exact ((hsteady.inStep (hsteady.faring outcome)).notify event rfl).1
  · rw [hreached, RoomPipeline.final_posted hload turns]
    exact RoomPipeline.final_live hload turns

open RoomPipeline (silent steady_silent coming going after)

/-- A host that is nothing but a pipeline, and whose listeners leave the audience once when they are
told of an event. -/
def leaving : RoomHost (RoomPipeline Nat) Nat :=
  { silent with hear := fun handle _ s => (.returned (), (s.removeListener handle).2) }

theorem inStep_leaving (outcome : Nat → RoomEvent → RoomPipeline Nat → Outcome Unit) :
    leaving.InStep (leaving.faring outcome) Eq where
  pipeline hst := hst.symm
  hear handle _ hst := congrArg (fun s => (s.removeListener handle).2) hst
  report_left _ hst := hst
  report_right _ hst := hst

/-- Two listeners are required, and the audience has another one, the first of the two, and the other
one once more.  Whoever crashes, all are told, a listener in two places twice; one that leaves the
audience while it is told as a required listener is told once.  When the second one has gone, the
audience is told. -/
theorem listeners_told_whoever_crashes :
    let event := RoomEvent.roomCreated { domain := "hall" } { domain := "here" }
    let twice := after (coming ++ [Turn.calm (.addListener 1), Turn.calm (.addListener 3)])
    (∀ outcome, (silent.faring outcome).tells event twice =
      [.told 1 event, .told 2 event, .told 3 event, .told 1 event, .told 3 event]) ∧
    (∀ outcome, (leaving.faring outcome).tells event twice =
      [.told 1 event, .told 2 event, .told 3 event, .told 3 event]) ∧
    ∀ outcome, (silent.faring outcome).tells event (after going) = [.told 3 event] := by
  intro event twice
  obtain ⟨-, -, -, hsteady, -⟩ := notification_reaches_everyone silent event twice
  obtain ⟨-, -, hinStep, -, -⟩ := notification_reaches_everyone leaving event twice
  obtain ⟨-, -, -, hgone, -⟩ := notification_reaches_everyone silent event (after going)
  refine ⟨fun outcome => ?_, fun outcome => ?_, fun outcome => ?_⟩
  · exact ((hsteady steady_silent).2 outcome).trans (by decide +kernel)
  · exact (hinStep _ Eq twice (inStep_leaving outcome) rfl).1.trans (by decide +kernel)
  · exact ((hgone steady_silent).2 outcome).trans (by decide +kernel)

end RoomHost

end TrafficGate
