import TrafficGate.Proofs.Chain.Audience
import TrafficGate.Proofs.Room.Pipeline

/-!
# Room — The audience of a pipeline

Seen through a run, the audience of a room pipeline is an audience of its own, whatever is asked of the
gate between its requests (`isPart_audience`).  So it is what is left standing of those who were added
(`audience_of_run`), in the order in which they hear of events.
-/

namespace TrafficGate

/-- What is asked of the audience. -/
def RoomRequest.toAudience? {H : Type} : RoomRequest H → Option (AudienceEdit H)
  | .toGate _ => none
  | .addListener handle => some (.add handle)
  | .removeListener handle => some (.remove handle)

/-- What the audience answered. -/
def RoomAnswer.ofAudience? : RoomAnswer → Option AudienceAnswer
  | .ofGate _ => none
  | .added => some .added
  | .removed found => some (.removed found)

namespace RoomPipeline

variable {S H : Type} [Store S] [DecidableEq H]

/-- The audience is a part of the pipeline. -/
theorem isPart_audience :
    Course.IsPart RoomRequest.toAudience? RoomAnswer.ofAudience? (attend (S := S)) Audience.serve
      (audience : RoomPipeline H → List H) where
  within pipeline store request edit h := by
    cases request with
    | toGate request => cases h
    | addListener handle =>
        cases h
        exact ⟨rfl, rfl⟩
    | removeListener handle =>
        cases h
        exact ⟨rfl, rfl⟩
  aside pipeline store request h := by
    cases request with
    | toGate request => simp only [attend, serve_changed]
    | addListener handle => cases h
    | removeListener handle => cases h

/-- **The audience after any run.**  Let a pipeline be loaded and any requests be made, with anything
befalling the store between them.  The audience is everybody who was added, in order, but for the
earliest additions of each listener, of which so many are struck out as were removed with success; and
no listener was removed more often than added. -/
theorem audience_of_run {store left : S} {pipeline : RoomPipeline H} {entries : List Log.Entry}
    (hload : load store = (.ok pipeline, left, entries)) (turns : List (Turn S (RoomRequest H))) :
    let heard := (Run.history attend pipeline left turns).filterMap
      (Course.concerning RoomRequest.toAudience? RoomAnswer.ofAudience?)
    (Run.final attend pipeline left turns).1.audience =
        Audience.standing (Audience.removals heard) (Audience.additions heard) ∧
      ∀ handle, Audience.removals heard handle ≤ (Audience.additions heard).count handle := by
  intro heard
  obtain ⟨stored, -, rfl⟩ := loaded_of_load hload
  have hfollows := Audience.follows_final
    ((turns.map (·.request)).filterMap (RoomRequest.toAudience? (H := H)))
  have hheard : heard = Course.history Audience.serve [] _ := isPart_audience.history _ left turns
  rw [isPart_audience.final, hheard]
  exact ⟨hfollows.members_eq, hfollows.removals_le⟩

end RoomPipeline

end TrafficGate
