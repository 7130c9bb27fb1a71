import TrafficGate.Proofs.Gate.Storing
import TrafficGate.Proofs.Packet.Pipeline
import TrafficGate.Proofs.Room.Pipeline
import TrafficGate.Server

/-!
# Server — One store for both gates

The packet gate and the room gate of a server store their declarations in one store, and neither
notices the other (`gates_do_not_interfere`).

* `Store.AgreeOn`: two stores keep the same under the keys of a layout.  A request to a gate keeps
  two stores in agreement on the keys of its layout, and one store in agreement with what it was on
  the keys of another one (`Gate.agreeOn_serve`, `Gate.agreeOn_serve_of_apart`).
* `Server.Sound`: both gates keep to their layouts and declare tokens, so neither plans a write under
  a key that it does not own.
* `Alike`: the relation between a run and the run without the requests to the other gate.
-/

namespace TrafficGate

/-! ### Stores that agree on the keys of a layout -/

/-- Both stores keep the same under the keys of the layout. -/
def Store.AgreeOn {S : Type} (keeps : S → Properties → Prop) (layout : Layout) (store store' : S) :
    Prop :=
  ∃ properties properties', keeps store properties ∧ keeps store' properties' ∧
    ∀ key, layout.owns key = true → properties.get? key = properties'.get? key

namespace Gate

variable {S G H : Type} [Guard G] [Store S] {keeps : S → Properties → Prop}
  (hstore : Store.NeverFails keeps) {gate : Gate G H}
  (hstems : Guard.dimensions G ≤ gate.layout.stems.length)
  (hnamed : gate.roll.declarations.Named)

include hstore hstems hnamed

/-- Two stores that agree on the keys of a gate still do when both serve a request to it. -/
theorem agreeOn_serve {store store' : S} (h : Store.AgreeOn keeps gate.layout store store')
    (request : Request G H) :
    Store.AgreeOn keeps gate.layout (gate.serve store request).store
      (gate.serve store' request).store := by
  obtain ⟨properties, properties', hkeeps, hkeeps', hagree⟩ := h
  obtain ⟨stored, hstored, hkeys⟩ := get?_serve hstore hkeeps hstems hnamed request
  obtain ⟨stored', hstored', hkeys'⟩ := get?_serve hstore hkeeps' hstems hnamed request
  refine ⟨stored, stored', hstored, hstored', fun key howned => ?_⟩
  rw [hkeys key, hkeys' key, hagree key howned]

/-- A request to a gate leaves the keys of a layout apart from its own alone. -/
theorem agreeOn_serve_of_apart {other : Layout} (apart : gate.layout.Apart other) {store store' : S}
    (h : Store.AgreeOn keeps other store store') (request : Request G H) :
    Store.AgreeOn keeps other (gate.serve store request).store store' := by
  obtain ⟨properties, properties', hkeeps, hkeeps', hagree⟩ := h
  obtain ⟨stored, hstored, hkeys⟩ := get?_serve hstore hkeeps hstems hnamed request
  refine ⟨stored, properties', hstored, hkeeps', fun key howned => ?_⟩
  rw [hkeys key, apart.symm.not_owns howned, Bool.false_and]
  exact hagree key howned

end Gate

/-! ### Requests to a server -/

/-- What is asked of a server: something of the packet gate, or of the room gate. -/
inductive ServerRequest (H : Type) where
  | toPackets (request : Request PacketGuard H)
  | toRooms (request : Request RoomGuard H)

/-- The packet gate is asked. -/
def ServerRequest.isToPackets {H : Type} : ServerRequest H → Bool
  | .toPackets _ => true
  | .toRooms _ => false

namespace Server

variable {S H : Type} [Store S]

/-- Serves a request, both gates over the one store. -/
def serve (server : Server H) (store : S) : ServerRequest H → Change (Server H) S Answer
  | .toPackets request =>
    let change := server.packets.serve store request
    ⟨change.result, { server with packets := change.changed }, change.store, change.reports⟩
  | .toRooms request =>
    let change := server.rooms.serve store request
    ⟨change.result, { server with rooms := change.changed }, change.store, change.reports⟩

/-- Each gate stores its declarations under the keys of its own layout, and what it declares are
tokens. -/
structure Sound (server : Server H) : Prop where
  packet_layout : server.packets.gate.layout = Layout.packets
  room_layout : server.rooms.gate.layout = Layout.rooms
  packets_named : server.packets.gate.roll.declarations.Named
  rooms_named : server.rooms.gate.roll.declarations.Named

namespace Sound

variable {server : Server H} (h : server.Sound)

include h

omit [Store S] in
theorem packet_stems :
    Guard.dimensions PacketGuard ≤ server.packets.gate.layout.stems.length := by
  rw [h.packet_layout]
  exact Nat.le_refl 2

omit [Store S] in
theorem room_stems : Guard.dimensions RoomGuard ≤ server.rooms.gate.layout.stems.length := by
  rw [h.room_layout]
  exact Nat.le_refl 1

theorem serve (store : S) (request : ServerRequest H) : (server.serve store request).changed.Sound := by
  cases request with
  | toPackets request =>
      simp only [Server.serve, PacketPipeline.serve_changed]
      exact ⟨(Gate.settled_sameSite _ request).layout.trans h.packet_layout, h.room_layout,
        Gate.settled_named h.packets_named request, h.rooms_named⟩
  | toRooms request =>
      simp only [Server.serve, RoomPipeline.serve_changed]
      exact ⟨h.packet_layout, (Gate.settled_sameSite _ request).layout.trans h.room_layout,
        h.packets_named, Gate.settled_named h.rooms_named request⟩

end Sound

/-! ### Loading -/

/-- The server that stored properties call for. -/
def loaded (domain : String) (stored : Properties) : Server H :=
  ⟨PacketPipeline.loaded domain stored, RoomPipeline.loaded stored⟩

omit [Store S] in
theorem sound_loaded (domain : String) (stored : Properties) :
    (loaded domain stored : Server H).Sound :=
  ⟨rfl, rfl, Gate.named_loaded _ _ stored, Gate.named_loaded _ _ stored⟩

/-- A server can be loaded from a store that never fails, and the store keeps what it kept. -/
theorem load_of_keeps {keeps : S → Properties → Prop} (hstore : Store.NeverFails keeps)
    (domain : String) {store : S} {properties : Properties} (hkeeps : keeps store properties) :
    ∃ left reports, load domain store = (.ok (loaded domain properties : Server H), left, reports) ∧
      keeps left properties := by
  obtain ⟨between, hread, hbetween, -⟩ := hstore store properties hkeeps
  obtain ⟨left, hread', hleft, -⟩ := hstore between properties hbetween
  obtain ⟨entries, hpackets⟩ := PacketPipeline.load_of_read (H := H) domain hread
  obtain ⟨entries', hrooms⟩ := RoomPipeline.load_of_read (H := H) hread'
  have hload : ∃ reports,
      load domain store = (.ok (loaded domain properties : Server H), left, reports) := by
    rw [load, hpackets]
    simp only [hrooms]
    exact ⟨_, rfl⟩
  obtain ⟨reports, hload⟩ := hload
  exact ⟨left, reports, hload, hleft⟩

/-! ### A run and the run without the other gate's requests -/

/-- The servers have a part in common, and their stores agree on the keys of a layout. -/
structure Alike {Part : Type} (part : Server H → Part) (keeps : S → Properties → Prop)
    (layout : Layout) (server : Server H) (store : S) (server' : Server H) (store' : S) : Prop where
  sound : server.Sound
  same : part server' = part server
  agree : Store.AgreeOn keeps layout store store'

variable {keeps : S → Properties → Prop} (hstore : Store.NeverFails keeps) {server server' : Server H}
  {store store' : S}

include hstore

theorem Alike.serve_packets (h : Alike packets keeps Layout.packets server store server' store')
    (request : Request PacketGuard H) :
    Alike packets keeps Layout.packets
      (server.serve store (.toPackets request)).changed (server.serve store (.toPackets request)).store
      (server'.serve store' (.toPackets request)).changed
      (server'.serve store' (.toPackets request)).store := by
  refine ⟨h.sound.serve store _, ?_, ?_⟩
  · simp only [Server.serve, PacketPipeline.serve_changed, h.same]
  · have hagree := h.agree
    rw [← h.sound.packet_layout] at hagree ⊢
    simp only [Server.serve, PacketPipeline.serve_store, h.same]
    exact Gate.agreeOn_serve hstore h.sound.packet_stems h.sound.packets_named hagree request

theorem Alike.serve_rooms (h : Alike rooms keeps Layout.rooms server store server' store')
    (request : Request RoomGuard H) :
    Alike rooms keeps Layout.rooms
      (server.serve store (.toRooms request)).changed (server.serve store (.toRooms request)).store
      (server'.serve store' (.toRooms request)).changed
      (server'.serve store' (.toRooms request)).store := by
  refine ⟨h.sound.serve store _, ?_, ?_⟩
  · simp only [Server.serve, RoomPipeline.serve_changed, h.same]
  · have hagree := h.agree
    rw [← h.sound.room_layout] at hagree ⊢
    simp only [Server.serve, RoomPipeline.serve_store, h.same]
    exact Gate.agreeOn_serve hstore h.sound.room_stems h.sound.rooms_named hagree request

/-- The packet gate does not notice a request to the room gate. -/
theorem Alike.pass_rooms (h : Alike packets keeps Layout.packets server store server' store')
    (request : Request RoomGuard H) :
    Alike packets keeps Layout.packets (server.serve store (.toRooms request)).changed
      (server.serve store (.toRooms request)).store server' store' := by
  refine ⟨h.sound.serve store _, h.same, ?_⟩
  simp only [Server.serve, RoomPipeline.serve_store]
  exact Gate.agreeOn_serve_of_apart hstore h.sound.room_stems h.sound.rooms_named
    (h.sound.room_layout ▸ Layout.apart_packets_rooms.symm) h.agree request

/-- The room gate does not notice a request to the packet gate. -/
theorem Alike.pass_packets (h : Alike rooms keeps Layout.rooms server store server' store')
    (request : Request PacketGuard H) :
    Alike rooms keeps Layout.rooms (server.serve store (.toPackets request)).changed
      (server.serve store (.toPackets request)).store server' store' := by
  refine ⟨h.sound.serve store _, h.same, ?_⟩
  simp only [Server.serve, PacketPipeline.serve_store]
  exact Gate.agreeOn_serve_of_apart hstore h.sound.packet_stems h.sound.packets_named
    (h.sound.packet_layout ▸ Layout.apart_packets_rooms) h.agree request

/-- The packet gate does not notice that requests to the room gate are made. -/
theorem Alike.final_packets (h : Alike packets keeps Layout.packets server store server' store')
    (requests : List (ServerRequest H)) :
    Alike packets keeps Layout.packets
      (Run.final serve server store (requests.map Turn.calm)).1
      (Run.final serve server store (requests.map Turn.calm)).2
      (Run.final serve server' store' ((requests.filter (·.isToPackets)).map Turn.calm)).1
      (Run.final serve server' store' ((requests.filter (·.isToPackets)).map Turn.calm)).2 := by
  refine Run.final_filter (·.isToPackets) (Alike packets keeps Layout.packets)
    (fun server store server' store' request hto h => ?_)
    (fun server store server' store' request hto h => ?_) h requests
  · cases request with
    | toPackets request => exact h.serve_packets hstore request
    | toRooms request => cases hto
  · cases request with
    | toPackets request => cases hto
    | toRooms request => exact h.pass_rooms hstore request

/-- The room gate does not notice that requests to the packet gate are made. -/
theorem Alike.final_rooms (h : Alike rooms keeps Layout.rooms server store server' store')
    (requests : List (ServerRequest H)) :
    Alike rooms keeps Layout.rooms
      (Run.final serve server store (requests.map Turn.calm)).1
      (Run.final serve server store (requests.map Turn.calm)).2
      (Run.final serve server' store' ((requests.filter (!·.isToPackets)).map Turn.calm)).1
      (Run.final serve server' store' ((requests.filter (!·.isToPackets)).map Turn.calm)).2 := by
  refine Run.final_filter (!·.isToPackets) (Alike rooms keeps Layout.rooms)
    (fun server store server' store' request hto h => ?_)
    (fun server store server' store' request hto h => ?_) h requests
  · cases request with
    | toPackets request => cases hto
    | toRooms request => exact h.serve_rooms hstore request
  · cases request with
    | toPackets request => exact h.pass_packets hstore request
    | toRooms request => cases hto

/-- The server is sound, and its store keeps what it kept at first under the keys that neither gate
owns. -/
def SparesOthers (keeps : S → Properties → Prop) (first : Properties) (server : Server H) (store : S) :
    Prop :=
  server.Sound ∧ ∃ properties, keeps store properties ∧
    ∀ key, Layout.packets.owns key = false → Layout.rooms.owns key = false →
      properties.get? key = first.get? key

theorem SparesOthers.serve {first : Properties} (h : SparesOthers keeps first server store)
    (request : ServerRequest H) :
    SparesOthers keeps first (server.serve store request).changed
      (server.serve store request).store := by
  obtain ⟨hsound, properties, hkeeps, hspares⟩ := h
  refine ⟨hsound.serve store request, ?_⟩
  cases request with
  | toPackets request =>
      obtain ⟨stored, hstored, hkeys⟩ :=
        Gate.get?_serve hstore hkeeps hsound.packet_stems hsound.packets_named request
      refine ⟨stored, (PacketPipeline.serve_store server.packets store request).symm ▸ hstored,
        fun key hpackets hrooms => ?_⟩
      rw [hkeys key, hsound.packet_layout, hpackets, Bool.false_and]
      exact hspares key hpackets hrooms
  | toRooms request =>
      obtain ⟨stored, hstored, hkeys⟩ :=
        Gate.get?_serve hstore hkeeps hsound.room_stems hsound.rooms_named request
      refine ⟨stored, (RoomPipeline.serve_store server.rooms store request).symm ▸ hstored,
        fun key hpackets hrooms => ?_⟩
      rw [hkeys key, hsound.room_layout, hrooms, Bool.false_and]
      exact hspares key hpackets hrooms

/-! ### Neither gate interferes with the other -/

/-- **The gates do not interfere.**  No key belongs to both layouts, and what is read from properties
depends, for each layout, on the keys that it owns.  Let a server be loaded from any properties, in
a store that never fails, and let any requests to both gates be made.

* The packet pipeline, with the declarations and the posting of its gate, and what is stored under
  the keys of packets are those of the run from which the requests to the room gate are deleted.
* The same holds of the room pipeline and the keys of rooms when the requests to the packet gate are
  deleted.
* A key that belongs to neither layout holds what it held at first.
* Whatever is stored at that moment, each gate only plans writes under keys that its layout owns. -/
theorem gates_do_not_interfere (domain : String) {properties : Properties}
    (hkeeps : keeps store properties) :
    (∀ key, ¬ (Layout.packets.owns key = true ∧ Layout.rooms.owns key = true)) ∧
    (∀ p q : Properties, (∀ key, Layout.packets.owns key = true → p.get? key = q.get? key) →
      Layout.packets.decode (G := PacketGuard) p = Layout.packets.decode q) ∧
    (∀ p q : Properties, (∀ key, Layout.rooms.owns key = true → p.get? key = q.get? key) →
      Layout.rooms.decode (G := RoomGuard) p = Layout.rooms.decode q) ∧
    ∃ (server : Server H) (left : S) (reports : List Report),
      load domain store = (.ok server, left, reports) ∧
      ∀ requests : List (ServerRequest H),
        let run (requests : List (ServerRequest H)) : Server H × S :=
          Run.final Server.serve server left (requests.map Turn.calm)
        let reached := run requests
        let packetsAlone := run (requests.filter (·.isToPackets))
        let roomsAlone := run (requests.filter (!·.isToPackets))
        reached.1.packets = packetsAlone.1.packets ∧
        reached.1.rooms = roomsAlone.1.rooms ∧
        (∃ stored storedByPackets storedByRooms,
          (Store.load reached.2).1 = .ok stored ∧
          (Store.load packetsAlone.2).1 = .ok storedByPackets ∧
          (Store.load roomsAlone.2).1 = .ok storedByRooms ∧
          (∀ key, Layout.packets.owns key = true →
            stored.get? key = storedByPackets.get? key) ∧
          (∀ key, Layout.rooms.owns key = true → stored.get? key = storedByRooms.get? key) ∧
          ∀ key, Layout.packets.owns key = false → Layout.rooms.owns key = false →
            stored.get? key = properties.get? key) ∧
        ∀ (stored : Properties) (write : Write),
          (write ∈ Layout.packets.plan reached.1.packets.gate.roll.declarations stored →
            Layout.packets.owns write.key = true) ∧
          (write ∈ Layout.rooms.plan reached.1.rooms.gate.roll.declarations stored →
            Layout.rooms.owns write.key = true) := by
  have hstemsPackets : Guard.dimensions PacketGuard ≤ Layout.packets.stems.length := Nat.le_refl 2
  have hstemsRooms : Guard.dimensions RoomGuard ≤ Layout.rooms.stems.length := Nat.le_refl 1
  obtain ⟨left, reports, hload, hleft⟩ := load_of_keeps (H := H) hstore domain hkeeps
  refine ⟨fun key ⟨hpackets, hrooms⟩ => ?_, fun p q h => Layout.decode_congr hstemsPackets h,
    fun p q h => Layout.decode_congr hstemsRooms h,
    loaded domain properties, left, reports, hload, fun requests => ?_⟩
  · rw [Layout.apart_packets_rooms.not_owns hpackets] at hrooms
    cases hrooms
  · intro run reached packetsAlone roomsAlone
    have hsound : (loaded domain properties : Server H).Sound := sound_loaded domain properties
    -- the loaded server and its store are alike to themselves, in either respect
    have hpackets : Alike packets keeps Layout.packets reached.1 reached.2 packetsAlone.1
        packetsAlone.2 :=
      Alike.final_packets hstore
        ⟨hsound, rfl, properties, properties, hleft, hleft, fun _ _ => rfl⟩ requests
    have hrooms : Alike rooms keeps Layout.rooms reached.1 reached.2 roomsAlone.1 roomsAlone.2 :=
      Alike.final_rooms hstore
        ⟨hsound, rfl, properties, properties, hleft, hleft, fun _ _ => rfl⟩ requests
    have hspares : SparesOthers keeps properties reached.1 reached.2 :=
      Run.final_calm_of_step (SparesOthers keeps properties)
        (fun _ _ request h => SparesOthers.serve hstore h request)
        ⟨hsound, properties, hleft, fun _ _ _ => rfl⟩ requests
    refine ⟨hpackets.same.symm, hrooms.same.symm, ?_, fun stored write => ⟨fun h => ?_, fun h => ?_⟩⟩
    · obtain ⟨stored, storedByPackets, hstored, hbyPackets, hagree⟩ := hpackets.agree
      obtain ⟨stored', storedByRooms, hstored', hbyRooms, hagree'⟩ := hrooms.agree
      obtain ⟨stored'', hstored'', hfirst⟩ := hspares.2
      obtain rfl := hstore.keeps_unique hstored hstored'
      obtain rfl := hstore.keeps_unique hstored hstored''
      exact ⟨stored, storedByPackets, storedByRooms, hstore.load_eq hstored,
        hstore.load_eq hbyPackets, hstore.load_eq hbyRooms, hagree, hagree', hfirst⟩
    · exact Layout.owns_of_mem_plan hstemsPackets hpackets.sound.packets_named h
    · exact Layout.owns_of_mem_plan hstemsRooms hpackets.sound.rooms_named h

omit hstore [Store S] in
/-- A memory in which an interceptor goes by the name of the key of rooms, and a run in which another
one comes under the key of a listener while that listener is forgotten. -/
theorem no_interference_between_look_alikes :
    let stored : Properties := Table.ofList
      [("interceptors.required", "muc.listeners.required"), ("muc.listeners.required", " audit ,"),
        ("muc.listener.blocking.event.audit", "BeforeJoined"), ("server.name", "here")]
    let store : MemoryStore := { properties := stored }
    let name := "muc.listener.blocking.event.audit"
    ∃ (server : Server Nat) (left : MemoryStore) (reports : List Report),
      load "localhost" store = (.ok server, left, reports) ∧
      let run (requests : List (ServerRequest Nat)) : Server Nat × MemoryStore :=
        Run.final Server.serve server left (requests.map Turn.calm)
      let reached := run [.toPackets (.register name 1 PacketGuard.everything),
        .toRooms (.unregister "audit" true), .toPackets .releaseAll]
      let packetsAlone := run [.toPackets (.register name 1 PacketGuard.everything),
        .toPackets .releaseAll]
      reached.1.packets = packetsAlone.1.packets ∧
      ∃ stored' storedByPackets, (Store.load reached.2).1 = .ok stored' ∧
        (Store.load packetsAlone.2).1 = .ok storedByPackets ∧
        (∀ key, Layout.packets.owns key = true → stored'.get? key = storedByPackets.get? key) ∧
        stored'.get? "server.name" = stored.get? "server.name" := by
  intro stored store name
  have hkeeps : store.Keeps stored := ⟨rfl, rfl, rfl⟩
  obtain ⟨-, -, -, server, left, reports, hload, hrun⟩ :=
    gates_do_not_interfere (H := Nat) MemoryStore.neverFails "localhost" hkeeps
  refine ⟨server, left, reports, hload, ?_⟩
  obtain ⟨hpackets, -, ⟨stored', storedByPackets, -, hread, hbyPackets, -, hagree, -, hothers⟩, -⟩ :=
    hrun [.toPackets (.register name 1 PacketGuard.everything), .toRooms (.unregister "audit" true),
      .toPackets .releaseAll]
  exact ⟨hpackets, stored', storedByPackets, hread, hbyPackets, hagree,
    hothers "server.name" (by decide) (by decide)⟩

end Server

end TrafficGate
