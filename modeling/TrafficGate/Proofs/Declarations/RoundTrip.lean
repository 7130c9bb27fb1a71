import TrafficGate.Proofs.Roll

/-!
# Declarations — The round trip

Which declarations come back when they are stored and read again.

* `decode_encode_eq_collapsed_iff`: for a layout that fits the guards, those whose names can be
  registered, and their guards come back collapsed.
* `round_trip_iff_names_admissible`: the same of the keys of packets and of rooms.
* `reading_normalizes`: what is read of any properties comes back as it is, so reading and storing
  bring every store into one form, and doing both once more changes nothing.

A name that cannot be registered spoils the round trip by itself: what is read has tokens for names
only (`Layout.named_decode`), whatever the other names and the guards are.
-/

namespace TrafficGate

variable {G : Type} [Guard G]

namespace Declarations

/-- The declarations with every guard collapsed. -/
def collapsed (declarations : Declarations G) : Declarations G := declarations.mapValues Guard.collapse

/-- Collapsing keeps the names. -/
theorem named_collapsed_iff {declarations : Declarations G} :
    declarations.collapsed.Named ↔ declarations.Named := by
  constructor
  · intro h name guard hget
    refine h name (Guard.collapse guard) ?_
    rw [collapsed, Table.get?_mapValues, hget, Option.map_some]
  · intro h name guard hget
    rw [collapsed, Table.get?_mapValues] at hget
    obtain ⟨original, horiginal, -⟩ := Option.map_eq_some_iff.mp hget
    exact h name original horiginal

omit [Guard G] in
/-- The declared names are tokens when nothing is wrong with any of them. -/
theorem named_iff {declarations : Declarations G} :
    declarations.Named ↔ ∀ name ∈ declarations.keys, nameFault? name = none := by
  simp only [Table.mem_keys_iff, nameFault?_eq_none_iff]
  constructor
  · rintro h name ⟨guard, hget⟩
    exact h name guard hget
  · intro h name guard hget
    exact h name ⟨guard, hget⟩

end Declarations

namespace Layout

variable [DimensionalGuard G] {layout : Layout} (fits : layout.Fits (Guard.dimensions G))

include fits

/-- Declarations come back, collapsed, exactly when each of their names can be registered. -/
theorem decode_encode_eq_collapsed_iff (declarations : Declarations G) :
    (layout.decode (layout.encode declarations)).1 = declarations.collapsed ↔
      ∀ name ∈ declarations.keys, nameFault? name = none := by
  rw [← Declarations.named_iff]
  constructor
  · intro h
    -- what is read is named, so what was stored is
    have hread := named_decode (G := G) layout (layout.encode declarations)
    rw [h] at hread
    exact Declarations.named_collapsed_iff.mp hread
  · intro hnamed
    refine Table.ext_get? fun name => ?_
    rw [get?_decode_encode fits hnamed, Declarations.collapsed, Table.get?_mapValues]

end Layout

/-- **The round trip, exactly.**  For the keys of packets and for those of rooms: whatever the names
and the guards of some declarations are, reading what is stored for them gives the declarations with
every guard collapsed if and only if nothing is wrong with any of the names. -/
theorem round_trip_iff_names_admissible :
    (∀ declarations : Declarations PacketGuard,
      (Layout.packets.decode (Layout.packets.encode declarations)).1 = declarations.collapsed ↔
        ∀ name ∈ declarations.keys, nameFault? name = none) ∧
    (∀ declarations : Declarations RoomGuard,
      (Layout.rooms.decode (Layout.rooms.encode declarations)).1 = declarations.collapsed ↔
        ∀ name ∈ declarations.keys, nameFault? name = none) :=
  ⟨Layout.decode_encode_eq_collapsed_iff Layout.fits_packets,
    Layout.decode_encode_eq_collapsed_iff Layout.fits_rooms⟩

/-! ### What is read of any properties -/

namespace Layout

open DimensionalGuard

/-- **Reading normalizes.**  Let a layout fit the guards, and let any properties be read: whatever
stands in the list of names, under the keys of the layout and under other keys.

* Nothing is wrong with any name that is read, and a dimension with the wildcard in it holds nothing
  else.
* What is read comes back when it is stored and read again, so its stored form is its own stored
  form after reading.
* Properties that agree on the keys of the layout are read alike. -/
theorem reading_normalizes [DimensionalGuard G] {layout : Layout}
    (fits : layout.Fits (Guard.dimensions G)) (properties : Properties) :
    let read : Declarations G := (layout.decode properties).1
    let stored : Properties := layout.encode read
    (∀ name ∈ read.keys, nameFault? name = none) ∧
    (∀ name guard, read.get? name = some guard →
      ∀ d, Category.all ∈ selection guard d → selection guard d = Selection.wildcard) ∧
    (layout.decode stored).1 = read ∧
    layout.encode (layout.decode (G := G) stored).1 = stored ∧
    ∀ other : Properties,
      (∀ key, layout.owns key = true → other.get? key = properties.get? key) →
      (layout.decode other).1 = read := by
  intro read stored
  have hnamed : read.Named := named_decode layout properties
  have hcollapsed : read.Collapsed := collapsed_decode layout properties
  have hback : (layout.decode stored).1 = read := decode_encode fits hnamed hcollapsed
  refine ⟨Declarations.named_iff.mp hnamed, fun name guard hget d hall => ?_, hback, ?_,
    fun other hagree => ?_⟩
  · rw [← hcollapsed name guard hget, selection_collapse] at hall ⊢
    exact Selection.eq_wildcard_of_mem_collapse hall
  · rw [hback]
  · exact congrArg Prod.fst (decode_congr (Nat.le_of_eq fits.length_stems.symm) hagree)

/-- Properties that were edited by hand: in the lists blanks, empty pieces and a name twice, under
the keys an unknown token, the wildcard among others, and what is left of a name that is gone.  A
foreign key does not matter. -/
theorem reading_of_edited_lists :
    let edited : Properties := Table.ofList
      [("interceptors.required", " audit ,, spool,audit"), ("server.name", "here"),
        ("interceptor.blocking.event.audit", "Bogus, Incoming"),
        ("interceptor.blocking.type.audit", "Message,All,IQ"),
        ("interceptor.blocking.type.gone", "Message"), ("muc.listeners.required", "\tlog,"),
        ("muc.listener.blocking.event.log", "BeforeJoined,,BeforeJoined")]
    let packets : Declarations PacketGuard := (Layout.packets.decode edited).1
    let rooms : Declarations RoomGuard := (Layout.rooms.decode edited).1
    Layout.packets.encode packets = Table.ofList
        [("interceptors.required", "audit,spool"), ("interceptor.blocking.event.audit", "Incoming"),
          ("interceptor.blocking.type.audit", "All")] ∧
      (Layout.packets.decode (Layout.packets.encode packets)).1 = packets ∧
      (Layout.packets.decode (edited.erase "server.name")).1 = packets ∧
      Layout.rooms.encode rooms = Table.ofList
        [("muc.listeners.required", "log"), ("muc.listener.blocking.event.log", "BeforeJoined")] ∧
      (Layout.rooms.decode (Layout.rooms.encode rooms)).1 = rooms ∧
      (Layout.rooms.decode (edited.erase "server.name")).1 = rooms := by
  intro edited packets rooms
  have hagree : ∀ layout : Layout, layout.owns "server.name" = false →
      ∀ key, layout.owns key = true → (edited.erase "server.name").get? key = edited.get? key := by
    intro layout hother key howned
    have hkey : key ≠ "server.name" := fun e => by rw [e, hother] at howned; cases howned
    exact (Table.get?_erase _ _ _).trans (if_neg hkey)
  obtain ⟨-, -, hpackets, -, hpacketsOnly⟩ := reading_normalizes (G := PacketGuard) fits_packets edited
  obtain ⟨-, -, hrooms, -, hroomsOnly⟩ := reading_normalizes (G := RoomGuard) fits_rooms edited
  exact ⟨by decide +kernel, hpackets, hpacketsOnly _ (hagree Layout.packets (by decide)),
    by decide +kernel, hrooms, hroomsOnly _ (hagree Layout.rooms (by decide))⟩

end Layout

end TrafficGate
