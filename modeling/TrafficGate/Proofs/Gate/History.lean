import TrafficGate.Proofs.Gate.Storing
import TrafficGate.Store.Memory

/-!
# Gate — The roll and its history

What the roll of a gate is like after any run, and how it follows from what was asked and answered.

* `settled_sound`, `final_sound`: every roll that a run leads to is sound.
* `standing`: the registrations of a history that nothing later has ended or replaced.
* `standing_concat`: what one more request does to them.
* `roll_follows_the_history`: **the live components are the standing registrations**, in the order
  in which they were made.
-/

namespace TrafficGate

open DimensionalGuard

variable {S G H : Type} [Guard G]

/-! ### Standing registrations -/

/-- The component that came to life when the request was answered so. -/
def Request.came? : Request G H × Answer → Option (Member H)
  | (.register name handle _, .registered (.ok ())) => some ⟨name, handle⟩
  | _ => none

/-- The request ends whatever is live under the name. -/
def Request.ends (name : String) : Request G H → Bool
  | .register _ _ _ => false
  | .unregister other _ => other = name
  | .releaseAll => true

/-- An earlier registration under the name does not count after the request: it has ended, or
another registration has been made. -/
def Request.outdates (name : String) (served : Request G H × Answer) : Bool :=
  served.1.ends name || (came? served).any (·.name = name)

/-- The components whose latest registration is not followed by a request that ends it, in the order
of these registrations. -/
def standing : List (Request G H × Answer) → List (Member H)
  | [] => []
  | served :: later =>
    match Request.came? served with
    | none => standing later
    | some member =>
      if later.any (Request.outdates member.name) then standing later else member :: standing later

omit [Guard G] in
/-- **One more request.**  It takes away the registrations that it outdates, and adds its own. -/
theorem standing_concat (history : List (Request G H × Answer)) (served : Request G H × Answer) :
    standing (history ++ [served]) =
      (standing history).filter (fun member => !Request.outdates member.name served) ++
        (Request.came? served).toList := by
  induction history with
  | nil =>
      simp only [List.nil_append, standing, List.filter_nil]
      cases Request.came? served <;> rfl
  | cons first later ih =>
      simp only [List.cons_append, standing, List.any_append, List.any_cons, List.any_nil,
        Bool.or_false]
      cases Request.came? first with
      | none => exact ih
      | some member =>
          simp only [ih]
          cases later.any (Request.outdates member.name) <;>
            cases h : Request.outdates member.name served <;> simp [h]

namespace Gate

/-! ### One request -/

section

variable [DimensionalGuard G]

/-- The roll of a gate that is loaded is sound, whatever is stored. -/
theorem loaded_sound (label : String) (layout : Layout) (stored : Properties) :
    (loaded label layout stored : Gate G H).roll.Sound :=
  Roll.Sound.of_declarations (Layout.named_decode layout stored)
    (Layout.collapsed_decode layout stored)

theorem settled_sound {gate : Gate G H} (h : gate.roll.Sound) (request : Request G H) :
    (gate.settled request).2.roll.Sound := by
  cases request with
  | register name handle guard =>
      simp only [settled]
      cases hroll : gate.roll.register name handle guard with
      | error e => exact h
      | ok roll => exact h.register hroll
  | unregister name forget => exact h.unregister name forget
  | releaseAll => exact .of_declarations h.named h.collapsed

end

/-- What a request does to the live components: those whose registration it outdates go, and the one
that it registers comes. -/
theorem live_settled {gate : Gate G H} (h : gate.roll.Sound) (request : Request G H) :
    (gate.settled request).2.roll.live =
      gate.roll.live.filter
          (fun member => !Request.outdates member.name (request, (gate.settled request).1)) ++
        (Request.came? (request, (gate.settled request).1)).toList := by
  cases request with
  | register name handle guard =>
      simp only [settled]
      cases hroll : gate.roll.register name handle guard with
      | error e => simp [Request.outdates, Request.ends, Request.came?]
      | ok roll =>
          obtain ⟨-, hfresh, rfl⟩ := Roll.register_eq_ok_iff.mp hroll
          -- nothing live has the name, so nothing is outdated
          have hkept : ∀ member ∈ gate.roll.live, name ≠ member.name := fun member hmember =>
            (Roll.isLive_eq_false_iff.mp hfresh member hmember).symm
          refine congrArg (· ++ _) (List.filter_eq_self.mpr fun member hmember => ?_).symm
          simpa [Request.outdates, Request.ends, Request.came?] using hkept member hmember
  | unregister name forget =>
      refine (Roll.eraseP_name_eq_filter h.distinct name).trans ?_
      simp [Request.outdates, Request.ends, Request.came?, eq_comm]
  | releaseAll => simp [settled, withRoll, Request.outdates, Request.ends, Request.came?]

/-! ### Every run -/

variable [Store S] [DimensionalGuard G]

theorem final_sound {gate : Gate G H} (h : gate.roll.Sound) (store : S)
    (turns : List (Turn S (Request G H))) :
    (Run.final serve gate store turns).1.roll.Sound :=
  Run.final_of_step (fun reached : Gate G H => reached.roll.Sound)
    (fun reached store request h => by rw [serve_changed]; exact settled_sound h request)
    h store turns

/-- The live components are the standing registrations, if they are so before the run. -/
theorem final_live {gate : Gate G H} (h : gate.roll.Sound) (past : List (Request G H × Answer))
    (hlive : gate.roll.live = standing past) (store : S) (turns : List (Turn S (Request G H))) :
    (Run.final serve gate store turns).1.roll.live =
      standing (past ++ Run.history serve gate store turns) := by
  let inv : List (Request G H × Answer) → Gate G H → Prop := fun past reached =>
    reached.roll.Sound ∧ reached.roll.live = standing past
  refine (Run.final_of_history inv (fun past reached store request hinv => ?_) ⟨h, hlive⟩
    store turns).2
  obtain ⟨hsound, hstanding⟩ := hinv
  rw [serve_changed, serve_result]
  refine ⟨settled_sound hsound request, ?_⟩
  rw [live_settled hsound, standing_concat, hstanding]

/-- **The roll follows the history.**  Let a gate be loaded from any store that can be read, and let
any requests be made, with anything befalling the store between them.  Then no two live components
share a name; every live component is declared; every declared name can be registered; every declared
guard has the wildcard alone in a dimension that has it; and the live components, in their order and
with their handles, are those whose latest successful registration is not followed by a request that
ends it, in the order of these registrations. -/
theorem roll_follows_the_history {label : String} {layout : Layout} {store left : S}
    {gate : Gate G H} {entries : List Log.Entry}
    (hload : load label layout store = (.ok gate, left, entries))
    (turns : List (Turn S (Request G H))) :
    let roll := (Run.final serve gate left turns).1.roll
    (roll.live.map (·.name)).Nodup ∧
    (∀ member ∈ roll.live, member.name ∈ roll.declarations.keys) ∧
    (∀ name ∈ roll.declarations.keys, nameFault? name = none) ∧
    (∀ name guard, roll.declarations.get? name = some guard →
      ∀ d, Category.all ∈ selection guard d → selection guard d = Selection.wildcard) ∧
    roll.live = standing (Run.history serve gate left turns) := by
  intro roll
  obtain ⟨stored, -, rfl⟩ := loaded_of_load hload
  have hloaded : (loaded label layout stored : Gate G H).roll.Sound :=
    loaded_sound label layout stored
  have hsound : roll.Sound := final_sound hloaded left turns
  refine ⟨hsound.distinct, fun member hmember => ?_, fun name hname => ?_,
    fun name guard hget d hall => ?_, ?_⟩
  · exact Table.mem_keys_iff.mpr (hsound.declared member hmember)
  · obtain ⟨guard, hget⟩ := Table.mem_keys_iff.mp hname
    exact nameFault?_eq_none_iff.mpr (hsound.named name guard hget)
  · rw [← hsound.collapsed name guard hget, selection_collapse] at hall ⊢
    exact Selection.eq_wildcard_of_mem_collapse hall
  · exact final_live hloaded [] rfl left turns

/-- A list of names that was edited by hand. -/
def editedList : Properties := Table.ofList [("interceptors.required", " audit,,audit , gone")]

/-- One component goes and comes back, another is turned away while it is live, and a third one is
forgotten; from the third turn on the store cannot be read. -/
def comingAndGoing : List (Turn MemoryStore (Request PacketGuard Nat)) :=
  [Turn.calm (.register "audit" 1 {}), Turn.calm (.register "spool" 2 PacketGuard.everything),
    ⟨fun store => { store with failsReading := true }, .unregister "audit" false⟩,
    Turn.calm (.register "audit" 3 PacketGuard.everything), Turn.calm (.register "spool" 4 {}),
    Turn.calm (.unregister "gone" true)]

/-- A packet gate over that list: the component that came back stands behind the one that stayed. -/
theorem roll_of_a_returning_component :
    let gate : Gate PacketGuard Nat := loaded "packet" Layout.packets editedList
    let store : MemoryStore := { properties := editedList }
    (∃ entries, load "packet" Layout.packets store = (.ok gate, store, entries)) ∧
      (Run.final serve gate store comingAndGoing).1.roll.live =
        standing (Run.history serve gate store comingAndGoing) ∧
      standing (Run.history serve gate store comingAndGoing) = [⟨"spool", 2⟩, ⟨"audit", 3⟩] := by
  obtain ⟨entries, hload⟩ := load_of_read (S := MemoryStore) (G := PacketGuard) (H := Nat) "packet"
    Layout.packets (show Store.load { properties := editedList } = (.ok editedList, _) from rfl)
  obtain ⟨-, -, -, -, hlive⟩ := roll_follows_the_history hload comingAndGoing
  exact ⟨⟨entries, hload⟩, hlive, by decide +kernel⟩

end Gate

end TrafficGate
