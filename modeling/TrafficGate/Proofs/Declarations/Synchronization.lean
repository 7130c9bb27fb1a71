import Mathlib.Data.List.Nodup
import TrafficGate.Proofs.Declarations.Plan
import TrafficGate.Proofs.Declarations.RoundTrip

/-!
# Declarations — Synchronization

The plan brings stored properties in line with declarations, and does no more than that
(`plan_synchronizes`).

* `ownedPart_eq_encode_iff`: properties are in line when their owned part is the stored form.
* `nodup_keys_plan`: no two planned writes are about one key, so their order does not matter.
* `plan_eq_nil_iff`: nothing is planned exactly when the properties are in line already.
* `plan_applyAll_plan`: after the planned writes nothing is left to be planned.
-/

namespace TrafficGate

namespace Table

variable {V : Type}

theorem nodup_keys (t : Table V) : t.keys.Nodup :=
  t.ascending.map _ fun _ _ hlt heq => String.lt_irrefl _ (heq ▸ hlt)

end Table

namespace Layout

variable {G : Type} [Guard G] {layout : Layout} {declarations : Declarations G}

/-! ### The owned part -/

/-- The properties under the keys of the layout. -/
def ownedPart (layout : Layout) (properties : Properties) : Properties where
  entries := properties.entries.filter fun (key, _) => layout.owns key
  ascending := properties.ascending.filter _

theorem get?_ownedPart (layout : Layout) (properties : Properties) (key : String) :
    (layout.ownedPart properties).get? key =
      if layout.owns key then properties.get? key else none := by
  refine Option.ext fun value => ?_
  rw [Table.get?_eq_some_iff, ownedPart, List.mem_filter, ← Table.get?_eq_some_iff]
  cases howned : layout.owns key <;> simp [howned]

/-! ### What is planned -/

/-- **No key twice.**  Removed keys are not wanted, and set keys are. -/
theorem nodup_keys_plan (layout : Layout) (declarations : Declarations G) (stored : Properties) :
    ((layout.plan declarations stored).map Write.key).Nodup := by
  let wanted := layout.encode declarations
  let stale := stored.keys.filter fun key => layout.owns key && !wanted.contains key
  let missing := wanted.entries.filter fun (key, value) => stored.get? key ≠ some value
  have hkeys : (layout.plan declarations stored).map Write.key = stale ++ missing.map (·.1) := by
    simp only [plan, List.map_append, List.map_map]
    exact congrArg (· ++ _) (List.map_id _)
  rw [hkeys]
  refine List.Nodup.append (stored.nodup_keys.filter _) ?_ fun key hstale hmissing => ?_
  · exact wanted.nodup_keys.sublist (List.filter_sublist.map _)
  · have hunwanted : wanted.contains key = false := by
      have hboth := (List.mem_filter.mp hstale).2
      rw [Bool.and_eq_true, Bool.not_eq_true'] at hboth
      exact hboth.2
    obtain ⟨⟨_, value⟩, hentry, rfl⟩ := List.mem_map.mp hmissing
    have hwanted := Table.get?_eq_some_iff.mpr (List.mem_filter.mp hentry).1
    rw [Table.contains_eq_false_iff.mp hunwanted] at hwanted
    cases hwanted

section

variable (hstems : Guard.dimensions G ≤ layout.stems.length) (hnamed : declarations.Named)

include hstems hnamed

/-- The owned part is the stored form when every owned key holds what the stored form has there. -/
theorem ownedPart_eq_encode_iff {properties : Properties} :
    layout.ownedPart properties = layout.encode declarations ↔
      ∀ key, layout.owns key = true →
        properties.get? key = (layout.encode declarations).get? key := by
  constructor
  · intro h key howned
    rw [← h, get?_ownedPart, if_pos howned]
  · intro h
    refine Table.ext_get? fun key => ?_
    rw [get?_ownedPart]
    cases howned : layout.owns key with
    | true => exact h key howned
    | false =>
        -- the stored form has owned keys only
        refine (Option.eq_none_iff_forall_ne_some.mpr fun value hvalue => ?_).symm
        exact Bool.false_ne_true (howned.symm.trans (owns_of_get?_encode hstems hnamed hvalue))

/-- **Nothing to be done.**  The plan is empty exactly when the owned part is the stored form. -/
theorem plan_eq_nil_iff {stored : Properties} :
    layout.plan declarations stored = [] ↔
      layout.ownedPart stored = layout.encode declarations := by
  rw [ownedPart_eq_encode_iff hstems hnamed]
  constructor
  · intro h key howned
    -- no writes leave the properties as they are, and bring them in line
    have hbatch : ∀ w, w ∈ ([] : List Write) ↔ w ∈ layout.plan declarations stored :=
      fun w => by rw [h]
    have hsync : stored.get? key = _ :=
      get?_applyAll_plan hstems hnamed hbatch (fun _ _ => rfl) key
    rwa [if_pos howned] at hsync
  · intro h
    refine List.eq_nil_iff_forall_not_mem.mpr fun w hw => ?_
    have howned := owns_of_mem_plan hstems hnamed hw
    rcases mem_plan.mp hw with ⟨-, ⟨value, hstored⟩, -, hwanted⟩ | ⟨value, -, hwanted, hstored⟩
    · rw [h _ howned, hwanted] at hstored
      cases hstored
    · exact hstored ((h _ howned).trans hwanted)

/-- **Once is enough.**  After the planned writes nothing is left to be planned. -/
theorem plan_applyAll_plan {stored properties : Properties} {batch : List Write}
    (hbatch : ∀ w, w ∈ batch ↔ w ∈ layout.plan declarations stored)
    (hagree : ∀ key, layout.owns key = true → properties.get? key = stored.get? key) :
    layout.plan declarations (Write.applyAll properties batch) = [] := by
  rw [plan_eq_nil_iff hstems hnamed, ownedPart_eq_encode_iff hstems hnamed]
  intro key howned
  rw [get?_applyAll_plan hstems hnamed hbatch hagree, if_pos howned]

end

/-- **The plan is an exact synchronization.**  Let a layout fit the guards, let every declared name be
one that can be registered, and let the planned writes be applied, in any order, to properties that
agree with those they were planned against on the keys of the layout.

* Afterwards the owned keys hold the stored form of the declarations, and every other key what it
  held.
* Every write is about an owned key, and no two are about one key.
* Nothing is planned exactly when the owned part is the stored form already.
* Nothing is left to be planned afterwards. -/
theorem plan_synchronizes (fits : layout.Fits (Guard.dimensions G))
    (hnames : ∀ name ∈ declarations.keys, nameFault? name = none) {current properties : Properties}
    (hagree : ∀ key, layout.owns key = true → properties.get? key = current.get? key)
    {batch : List Write} (horder : batch.Perm (layout.plan declarations current)) :
    let result := Write.applyAll properties batch
    (layout.ownedPart result = layout.encode declarations ∧
      ∀ key, layout.owns key = false → result.get? key = properties.get? key) ∧
    (∀ write ∈ batch, layout.owns write.key = true) ∧
    (batch.map Write.key).Nodup ∧
    (layout.plan declarations current = [] ↔
      layout.ownedPart current = layout.encode declarations) ∧
    layout.plan declarations result = [] := by
  intro result
  have hnamed : declarations.Named := Declarations.named_iff.mpr hnames
  have hstems : Guard.dimensions G ≤ layout.stems.length := Nat.le_of_eq fits.length_stems.symm
  have hbatch : ∀ w, w ∈ batch ↔ w ∈ layout.plan declarations current := fun w => horder.mem_iff
  have hkeys := get?_applyAll_plan hstems hnamed hbatch hagree
  refine ⟨⟨?_, fun key hother => ?_⟩, fun write hwrite => ?_, ?_, ?_, ?_⟩
  · refine (ownedPart_eq_encode_iff hstems hnamed).mpr fun key howned => ?_
    exact (hkeys key).trans (if_pos howned)
  · exact (hkeys key).trans (if_neg (Bool.eq_false_iff.mp hother))
  · exact owns_of_mem_plan hstems hnamed ((hbatch write).mp hwrite)
  · exact (horder.map Write.key).nodup_iff.mpr (layout.nodup_keys_plan declarations current)
  · exact plan_eq_nil_iff hstems hnamed
  · exact plan_applyAll_plan hstems hnamed hbatch hagree

/-- What is stored of one packet interceptor, with a key of another one left over and a value that
nobody wrote; by the time of writing someone else has written a key of his own. -/
theorem plans_of_packets_and_rooms :
    let current : Properties := Table.ofList
      [("interceptors.required", "audit,gone"), ("interceptor.blocking.type.gone", "Message"),
        ("muc.listeners.required", "log"), ("muc.listener.blocking.event.log", "Bogus")]
    let properties := current.insert "server.name" "here"
    let packets : Declarations PacketGuard := Table.ofList [("audit", PacketGuard.everything)]
    let rooms : Declarations RoomGuard := Table.ofList [("log", RoomGuard.everything)]
    let packetWrites := (Layout.packets.plan packets current).reverse
    let roomWrites := (Layout.rooms.plan rooms current).reverse
    (∀ name ∈ packets.keys, nameFault? name = none) ∧
    packetWrites = [.set "interceptors.required" "audit",
      .set "interceptor.blocking.type.audit" "All", .set "interceptor.blocking.event.audit" "All",
      .remove "interceptor.blocking.type.gone"] ∧
    Layout.packets.ownedPart (Write.applyAll properties packetWrites) =
      Layout.packets.encode packets ∧
    (∀ name ∈ rooms.keys, nameFault? name = none) ∧
    roomWrites = [.set "muc.listener.blocking.event.log" "All"] ∧
    Layout.rooms.ownedPart (Write.applyAll properties roomWrites) = Layout.rooms.encode rooms := by
  intro current properties packets rooms packetWrites roomWrites
  have hagree : ∀ layout : Layout, layout.owns "server.name" = false →
      ∀ key, layout.owns key = true → properties.get? key = current.get? key := by
    intro layout hother key howned
    have hkey : key ≠ "server.name" := fun e => by rw [e, hother] at howned; cases howned
    exact (Table.get?_insert _ _ _ _).trans (if_neg hkey)
  have hpacketNames : ∀ name ∈ packets.keys, nameFault? name = none := by decide +kernel
  have hroomNames : ∀ name ∈ rooms.keys, nameFault? name = none := by decide +kernel
  obtain ⟨⟨hpackets, -⟩, -⟩ := plan_synchronizes Layout.fits_packets hpacketNames
    (hagree Layout.packets (by decide)) (List.reverse_perm (Layout.packets.plan packets current))
  obtain ⟨⟨hrooms, -⟩, -⟩ := plan_synchronizes Layout.fits_rooms hroomNames
    (hagree Layout.rooms (by decide)) (List.reverse_perm (Layout.rooms.plan rooms current))
  exact ⟨hpacketNames, by decide +kernel, hpackets, hroomNames, by decide +kernel, hrooms⟩

end Layout

end TrafficGate
