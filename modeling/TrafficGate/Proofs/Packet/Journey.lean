import TrafficGate.Proofs.Packet.Walk

/-!
# Packet — Journey

A traversal makes the legs of the packet's route up to the first one that decides.

* `visit_recording`: recording a call is not noticed, and the call is kept.
* `Follows`: a piece of a traversal makes the legs of some stations up to a decisive one, and ends as
  the last leg does.  One call does (`Follows.call`), and so do two pieces one after the other
  (`Follows.append`), so that every walk follows its stations (`walk_follows`).
* `traverse_follows`: a packet that the gate lets pass follows its route.
* `calls_of_not_blocks`, `calls_ne_nil_of_rejected`: so the calls of such a packet are those of the
  legs it makes, and it is only rejected by an interceptor.
-/

namespace TrafficGate.PacketHost

variable {σ H : Type} {host : PacketHost σ H} {passage : Passage}

/-- Recording a call is not noticed, and the call is kept. -/
theorem visit_recording (station : Station H) (packet : Packet) (t : σ × List (Call H)) :
    host.recording.visit passage station packet t =
      ((host.visit passage station packet t.1).1, (host.visit passage station packet t.1).2,
        t.2 ++ [(host.visit passage station packet t.1).1.call]) := by
  have hview : ((host.recording.visit passage station packet t).1,
      (host.recording.visit passage station packet t).2.1) =
        host.visit passage station packet t.1 := visit_view host.views_recording station packet t
  have hcalls : (host.recording.visit passage station packet t).2.2 =
      t.2 ++ [(host.visit passage station packet t.1).1.call] :=
    settle_kept Prod.snd (fun _ _ => rfl) _ _ _ _ _ _
  exact Prod.ext (Prod.ext_iff.mp hview).1 (Prod.ext (Prod.ext_iff.mp hview).2 hcalls)

/-! ### Pieces of a traversal -/

/-- How the traversal stands after these legs. -/
def lastEnding (point : Point) (made : List (Leg H)) : Ending :=
  made.getLast?.elim .passed (·.ending point)

theorem lastEnding_eq_rejected_iff {point : Point} {made : List (Leg H)} {r : Rejection} :
    lastEnding point made = .rejected r ↔ point.isProcessed = false ∧
      ∃ last, made.getLast? = some last ∧ last.outcome = .faulted (.rejected r) := by
  unfold lastEnding
  cases made.getLast? with
  | none => simp
  | some last => simp [Leg.ending_eq_rejected_iff]

/-- The packet after these legs. -/
def lastLeft (packet : Packet) (made : List (Leg H)) : Packet := made.getLast?.elim packet (·.left)

/-- From `t` to `t'` the recorded traversal made the legs of these stations, up to a decisive one,
and ended as the last of them does.  If none was decisive, it made them all. -/
structure Follows (host : PacketHost σ H) (passage : Passage) (stations : List (Station H))
    (packet : Packet) (t : σ × List (Call H)) (ending : Ending) (left : Packet)
    (t' : σ × List (Call H)) : Prop where
  ending_eq : ending = lastEnding passage.point (host.made passage stations packet t.1)
  left_eq : left = lastLeft packet (host.made passage stations packet t.1)
  calls_eq : t'.2 = t.2 ++ (host.made passage stations packet t.1).map Leg.call
  onward : ending = .passed →
    (∀ leg ∈ host.legs passage stations packet t.1, ¬ leg.Decisive passage.point) ∧
      host.after passage stations packet t.1 = (left, t'.1)
  decided : ending ≠ .passed →
    ∃ leg ∈ host.legs passage stations packet t.1, leg.Decisive passage.point

namespace Follows

variable {stations more : List (Station H)} {packet left left' : Packet} {ending : Ending}
  {t t' t'' : σ × List (Call H)}

theorem nil : Follows host passage [] packet t .passed packet t :=
  ⟨rfl, rfl, (List.append_nil _).symm, fun _ => ⟨fun _ h => absurd h List.not_mem_nil, rfl⟩,
    fun h => absurd rfl h⟩

/-- A recorded call follows its station. -/
theorem call (station : Station H) (packet : Packet) (t : σ × List (Call H)) :
    Follows host passage [station] packet t
      ((host.recording.visit passage station packet t).1.ending passage.point)
      (host.recording.visit passage station packet t).1.left
      (host.recording.visit passage station packet t).2 := by
  have hlegs : host.legs passage [station] packet t.1 = [(host.visit passage station packet t.1).1] :=
    rfl
  have hmade : host.made passage [station] packet t.1 =
      [(host.visit passage station packet t.1).1] := by
    rw [made, hlegs, through]
    split <;> rfl
  rw [visit_recording]
  refine ⟨by rw [hmade]; rfl, by rw [hmade]; rfl, by rw [hmade]; rfl, fun h => ⟨?_, rfl⟩,
    fun h => ⟨_, List.mem_singleton.mpr rfl, Leg.decisive_iff.mpr h⟩⟩
  intro leg hleg
  rw [hlegs, List.mem_singleton] at hleg
  rw [hleg, Leg.decisive_iff]
  exact not_not.mpr h

/-- Behind a piece that was not passed more may be reported. -/
theorem reported (h : Follows host passage stations packet t ending left t')
    (hending : ending ≠ .passed) (hcalls : t''.2 = t'.2) :
    Follows host passage stations packet t ending left t'' :=
  ⟨h.ending_eq, h.left_eq, hcalls.trans h.calls_eq, fun hpassed => absurd hpassed hending, h.decided⟩

/-- A piece that was passed is gone on with behind its stations. -/
theorem append (h : Follows host passage stations packet t .passed left t')
    (hmore : Follows host passage more left t' ending left' t'') :
    Follows host passage (stations ++ more) packet t ending left' t'' := by
  obtain ⟨hundecided, hafter⟩ := h.onward rfl
  have hlegs : host.legs passage (stations ++ more) packet t.1 =
      host.legs passage stations packet t.1 ++ host.legs passage more left t'.1 := by
    rw [legs_append, hafter]
  have hfirst : host.made passage stations packet t.1 = host.legs passage stations packet t.1 :=
    through_of_forall hundecided
  have hmade : host.made passage (stations ++ more) packet t.1 =
      host.made passage stations packet t.1 ++ host.made passage more left t'.1 := by
    rw [made, hlegs, through_append_of_forall hundecided, hfirst]
    rfl
  have hending := h.ending_eq
  have hleft := h.left_eq
  refine ⟨?_, ?_, ?_, fun hpassed => ⟨?_, ?_⟩, fun hstopped => ?_⟩
  · -- behind the first piece the last leg counts, if one is made there
    rw [hmore.ending_eq, hmade]
    unfold lastEnding at hending ⊢
    rw [List.getLast?_append]
    cases (host.made passage more left t'.1).getLast? with
    | none => exact hending
    | some leg => rfl
  · rw [hmore.left_eq, hmade]
    unfold lastLeft at hleft ⊢
    rw [List.getLast?_append]
    cases (host.made passage more left t'.1).getLast? with
    | none => exact hleft
    | some leg => rfl
  · rw [hmore.calls_eq, h.calls_eq, hmade, List.map_append, List.append_assoc]
  · intro leg hleg
    rw [hlegs] at hleg
    rcases List.mem_append.mp hleg with hleg | hleg
    · exact hundecided leg hleg
    · exact (hmore.onward hpassed).1 leg hleg
  · rw [after_append, hafter]
    exact (hmore.onward hpassed).2
  · obtain ⟨leg, hleg, hdecisive⟩ := hmore.decided hstopped
    exact ⟨leg, hlegs ▸ List.mem_append_right _ hleg, hdecisive⟩

/-- A piece that was not passed leaves the stations behind it out. -/
theorem stop (h : Follows host passage stations packet t ending left t') (hending : ending ≠ .passed)
    (more : List (Station H)) :
    Follows host passage (stations ++ more) packet t ending left t' := by
  obtain ⟨leg, hleg, hdecisive⟩ := h.decided hending
  have hmade : host.made passage (stations ++ more) packet t.1 =
      host.made passage stations packet t.1 := by
    rw [made, legs_append, through_append_of_exists ⟨leg, hleg, hdecisive⟩]
    rfl
  refine ⟨hmade ▸ h.ending_eq, hmade ▸ h.left_eq, hmade ▸ h.calls_eq, fun hpassed => absurd hpassed hending,
    fun _ => ⟨leg, ?_, hdecisive⟩⟩
  rw [legs_append]
  exact List.mem_append_left _ hleg

end Follows

/-- **A recorded walk follows its stations.** -/
theorem walk_follows (stations : List (Station H)) (packet : Packet) (t : σ × List (Call H)) :
    Follows host passage stations packet t (host.recording.walk passage stations packet t).1
      (host.recording.walk passage stations packet t).2.1
      (host.recording.walk passage stations packet t).2.2 := by
  induction stations generalizing packet t with
  | nil => exact .nil
  | cons station rest ih =>
      have hcall : Follows host passage [station] packet t _ _ _ := .call station packet t
      simp only [walk]
      split
      · rename_i hending
        rw [hending] at hcall
        exact hcall.append (ih _ _)
      · rename_i hending
        rw [hending] at hcall
        -- what is reported about the swallowing makes no call
        have hreported : Follows host passage [station] packet t .swallowed _
            (host.recording.noteSwallow passage station
              (host.recording.visit passage station packet t).2) := hcall.reported (by simp) rfl
        exact hreported.stop (by simp) rest
      · rename_i r hending
        rw [hending] at hcall
        exact hcall.stop (by simp) rest

/-- A packet that the gate lets pass follows its route. -/
theorem traverse_follows (packet : Packet) (t : σ × List (Call H))
    (h : (host.pipeline t.1).gate.posting.blocked.blocks packet.kind passage.point = false) :
    ∃ ending, (host.recording.traverse passage packet t).1 = ending.verdict ∧
      Follows host passage (host.route passage packet t.1) packet
        (host.checked passage packet t.1, t.2) ending
        (host.recording.traverse passage packet t).2.1
        (host.recording.traverse passage packet t).2.2 := by
  have hchecked : host.recording.checked passage packet t = (host.checked passage packet t.1, t.2) :=
    rfl
  have hwalk : host.recording.traverse passage packet t = _ := traverse_eq_walk h
  rw [hwalk, hchecked, route_view host.views_recording]
  exact ⟨_, rfl, walk_follows _ _ _⟩

variable {packet : Packet} {s : σ}

/-- The calls of a packet that the gate lets pass. -/
theorem calls_of_not_blocks
    (h : (host.pipeline s).gate.posting.blocked.blocks packet.kind passage.point = false) :
    host.calls passage packet s =
      (host.made passage (host.route passage packet s) packet (host.checked passage packet s)).map
        Leg.call := by
  obtain ⟨ending, -, hfollows⟩ := traverse_follows packet (s, []) h
  exact hfollows.calls_eq

/-- A packet that the gate lets pass is only rejected by an interceptor. -/
theorem calls_ne_nil_of_rejected
    (h : (host.pipeline s).gate.posting.blocked.blocks packet.kind passage.point = false)
    {r : Rejection} (hrejected : (host.traverse passage packet s).1 = .rejected r) :
    host.calls passage packet s ≠ [] := by
  obtain ⟨ending, hverdict, hfollows⟩ := traverse_follows packet (s, []) h
  rw [← host.traverse_recording passage packet (s, [])] at hrejected
  have hending := Ending.verdict_eq_rejected_iff.mp (hverdict.symm.trans hrejected)
  rw [hfollows.ending_eq] at hending
  obtain ⟨-, last, hlast, -⟩ := lastEnding_eq_rejected_iff.mp hending
  rw [calls_of_not_blocks h]
  intro hnil
  rw [List.map_eq_nil_iff.mp hnil] at hlast
  cases hlast

end TrafficGate.PacketHost
