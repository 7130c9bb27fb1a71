import TrafficGate.Proofs.Declarations.Blocked
import TrafficGate.Proofs.Gate.Storing

/-!
# Gate — Restart

Over a store that never fails, what is stored is always read back as the declarations of the running
gate (`Mirrors`), although only some requests store anything and what is stored at first need not be
in the form that a gate writes.  So a gate that is loaded anew takes up where the running one would
be after a release (`restart_refines_release`).
-/

namespace TrafficGate.Gate

open DimensionalGuard

variable {S G H : Type} [Guard G] [DimensionalGuard G] [Store S]

/-! ### What is stored is what is declared -/

/-- The store keeps properties that are read back as the declarations of the gate. -/
def Mirrors (keeps : S → Properties → Prop) (gate : Gate G H) (store : S) : Prop :=
  ∃ properties, keeps store properties ∧
    (gate.layout.decode properties).1 = gate.roll.declarations

namespace Mirrors

variable {keeps : S → Properties → Prop} {gate : Gate G H} {store : S}

omit [DimensionalGuard G] [Store S] in
theorem named (h : Mirrors keeps gate store) : gate.roll.declarations.Named := by
  obtain ⟨properties, -, hread⟩ := h
  exact hread ▸ Layout.named_decode gate.layout properties

omit [Store S] in
theorem collapsed (h : Mirrors keeps gate store) : gate.roll.declarations.Collapsed := by
  obtain ⟨properties, -, hread⟩ := h
  exact hread ▸ Layout.collapsed_decode gate.layout properties

omit [DimensionalGuard G] [Store S] in
theorem of_loaded (label : String) (layout : Layout) {properties : Properties}
    (h : keeps store properties) :
    Mirrors keeps (loaded label layout properties : Gate G H) store :=
  ⟨properties, h, rfl⟩

/-- Storing declarations makes the store mirror them, if they stand under tokens and their guards
are collapsed. -/
theorem of_persist (hstore : Store.NeverFails keeps) {properties : Properties}
    (hkeeps : keeps store properties) (fits : gate.layout.Fits (Guard.dimensions G))
    (hnamed : gate.roll.declarations.Named) (hcollapsed : gate.roll.declarations.Collapsed) :
    Mirrors keeps gate (gate.persist store).1 := by
  have hstems : Guard.dimensions G ≤ gate.layout.stems.length := Nat.le_of_eq fits.length_stems.symm
  obtain ⟨stored, hstored, hkeys⟩ := get?_persist (hstore store properties hkeeps) hstems hnamed
  refine ⟨stored, hstored, ?_⟩
  -- only owned keys are read, and these hold the stored form of the declarations
  have hread : gate.layout.decode (G := G) stored =
      gate.layout.decode (gate.layout.encode gate.roll.declarations) :=
    Layout.decode_congr hstems fun k hk => (hkeys k).trans (if_pos hk)
  rw [hread]
  exact Layout.decode_encode fits hnamed hcollapsed

/-- A request keeps the store a mirror, whether it stores the declarations or not. -/
theorem serve (h : Mirrors keeps gate store) (hstore : Store.NeverFails keeps)
    (fits : gate.layout.Fits (Guard.dimensions G)) (request : Request G H) :
    Mirrors keeps (gate.serve store request).changed (gate.serve store request).store := by
  have hlayout := (gate.settled_sameSite request).layout
  have hcollapsed := h.collapsed
  have hnamed := settled_named h.named request
  obtain ⟨properties, hkeeps, hread⟩ := h
  rw [serve_changed, serve_store]
  rcases gate.settled_declarations request with ⟨hpersists, hsame⟩ | ⟨hpersists, hchange⟩
  · -- nothing is stored, and nothing has to be
    rw [hpersists]
    refine ⟨properties, hkeeps, ?_⟩
    rw [hlayout, hsame, hread]
  · -- everything is stored anew, whatever the store held
    rw [hpersists, if_pos rfl]
    refine of_persist hstore hkeeps (hlayout ▸ fits) hnamed ?_
    rcases hchange with ⟨name, guard, -, hinsert⟩ | ⟨name, herase⟩
    · exact hinsert ▸ hcollapsed.insert (collapse_collapse guard) name
    · exact herase ▸ hcollapsed.erase name

/-- Over a store that never fails every run of requests keeps the store a mirror. -/
theorem final (h : Mirrors keeps gate store) (hstore : Store.NeverFails keeps)
    (fits : gate.layout.Fits (Guard.dimensions G)) (requests : List (Request G H)) :
    Mirrors keeps (Run.final Gate.serve gate store (requests.map Turn.calm)).1
      (Run.final Gate.serve gate store (requests.map Turn.calm)).2 := by
  let inv : Gate G H → S → Prop := fun reached left =>
    reached.layout = gate.layout ∧ Mirrors keeps reached left
  refine (Run.final_calm_of_step inv (fun reached left request hinv => ?_) ⟨rfl, h⟩ requests).2
  obtain ⟨hlayout, hmirrors⟩ := hinv
  refine ⟨?_, hmirrors.serve hstore (hlayout ▸ fits) request⟩
  rw [serve_changed]
  exact (reached.settled_sameSite request).layout.trans hlayout

end Mirrors

/-! ### Loading anew -/

omit [DimensionalGuard G] in
/-- What is read back as the declarations of a gate is loaded as that gate after a release. -/
theorem loaded_eq_releaseAll {gate : Gate G H} {properties : Properties}
    (hread : (gate.layout.decode properties).1 = gate.roll.declarations) :
    loaded gate.label gate.layout properties = gate.releaseAll.2.1 := by
  rw [releaseAll_eq, loaded, withRoll, hread]

/-- Where nothing is live every declared guard is blocked. -/
theorem covers_blocked_of_released (declarations : Declarations G) {name : String} {guard : G}
    (h : declarations.get? name = some guard) (d : Fin (Guard.dimensions G)) (c : Kind d)
    (hc : (selection guard d).covers c = true) :
    (selection (⟨declarations, []⟩ : Roll G H).blocked d).covers c = true :=
  (Declarations.covers_blocked _ _ d c).mpr ⟨name, guard, ⟨h, rfl⟩, hc⟩

/-- **A restart refines a release.**  Let a gate be loaded from any properties, in a store that
never fails, and let any requests be made.  Afterwards the store is read as properties whose
declarations are those of the gate.  So a gate that is loaded from the store then has the same
declarations, no live component and every declared guard blocked, and it is the very gate that the
running one becomes when everything is released. -/
theorem restart_refines_release {layout : Layout} (fits : layout.Fits (Guard.dimensions G))
    {keeps : S → Properties → Prop} (hstore : Store.NeverFails keeps) (label : String) {store : S}
    {properties : Properties} (hkeeps : keeps store properties) :
    ∃ (gate : Gate G H) (left : S) (entries : List Log.Entry),
      load label layout store = (.ok gate, left, entries) ∧
      ∀ requests : List (Request G H),
        let reached := Run.final serve gate left (requests.map Turn.calm)
        ∃ stored, (Store.load reached.2).1 = .ok stored ∧
          (layout.decode stored).1 = reached.1.roll.declarations ∧
          ∃ (again : Gate G H) (left' : S) (entries' : List Log.Entry),
            load label layout reached.2 = (.ok again, left', entries') ∧
            again.roll.declarations = reached.1.roll.declarations ∧
            again.roll.live = [] ∧
            (∀ name guard d (c : Kind d), again.roll.declarations.get? name = some guard →
              (selection guard d).covers c = true →
              (selection again.posting.blocked d).covers c = true) ∧
            again = reached.1.releaseAll.2.1 := by
  obtain ⟨left, hread, hleft, -⟩ := hstore store properties hkeeps
  obtain ⟨entries, hload⟩ := load_of_read (G := G) (H := H) label layout hread
  refine ⟨_, left, entries, hload, fun requests => ?_⟩
  intro reached
  have hsite : (loaded label layout properties).SameSite reached.1 :=
    final_sameSite (loaded label layout properties) left _
  obtain ⟨stored, hstored, hdeclared⟩ : Mirrors keeps reached.1 reached.2 :=
    (Mirrors.of_loaded label layout hleft).final hstore fits requests
  obtain ⟨after, hreadAgain, -, -⟩ := hstore reached.2 stored hstored
  obtain ⟨entries', hagain⟩ := load_of_read (G := G) (H := H) label layout hreadAgain
  have hlabel : reached.1.label = label := hsite.label
  have hlayout : reached.1.layout = layout := hsite.layout
  rw [hlayout] at hdeclared
  refine ⟨stored, congrArg Prod.fst hreadAgain, hdeclared, _, after, entries', hagain, hdeclared,
    rfl, fun name guard d c hget hc => covers_blocked_of_released _ hget d c hc, ?_⟩
  rw [← loaded_eq_releaseAll (hlayout ▸ hdeclared), hlabel, hlayout]

/-- Both gates over one memory whose properties were edited by hand: a list with blanks, an empty
piece and a name twice, and an unknown category. -/
theorem restart_of_packets_and_rooms :
    let stored : Properties := Table.ofList
      [("interceptors.required", " audit ,,spool,audit"), ("muc.listeners.required", "log"),
        ("interceptor.blocking.event.audit", "Bogus, Incoming"),
        ("muc.listener.blocking.event.log", "Joined,All")]
    let store : MemoryStore := { properties := stored }
    (∃ (gate : Gate PacketGuard Nat) (left : MemoryStore) (entries : List Log.Entry),
      load "packet" Layout.packets store = (.ok gate, left, entries) ∧
      ∀ requests : List (Request PacketGuard Nat),
        let reached := Run.final serve gate left (requests.map Turn.calm)
        ∃ (again : Gate PacketGuard Nat) (left' : MemoryStore) (entries' : List Log.Entry),
          load "packet" Layout.packets reached.2 = (.ok again, left', entries') ∧
          again = reached.1.releaseAll.2.1) ∧
    ∃ (gate : Gate RoomGuard Nat) (left : MemoryStore) (entries : List Log.Entry),
      load "room" Layout.rooms store = (.ok gate, left, entries) ∧
      ∀ requests : List (Request RoomGuard Nat),
        let reached := Run.final serve gate left (requests.map Turn.calm)
        ∃ (again : Gate RoomGuard Nat) (left' : MemoryStore) (entries' : List Log.Entry),
          load "room" Layout.rooms reached.2 = (.ok again, left', entries') ∧
          again = reached.1.releaseAll.2.1 := by
  intro stored store
  have hkeeps : store.Keeps stored := ⟨rfl, rfl, rfl⟩
  constructor
  · obtain ⟨gate, left, entries, hload, hrun⟩ := restart_refines_release (G := PacketGuard)
      (H := Nat) Layout.fits_packets MemoryStore.neverFails "packet" hkeeps
    refine ⟨gate, left, entries, hload, fun requests => ?_⟩
    obtain ⟨-, -, -, again, left', entries', hagain, -, -, -, hsame⟩ := hrun requests
    exact ⟨again, left', entries', hagain, hsame⟩
  · obtain ⟨gate, left, entries, hload, hrun⟩ := restart_refines_release (G := RoomGuard)
      (H := Nat) Layout.fits_rooms MemoryStore.neverFails "room" hkeeps
    refine ⟨gate, left, entries, hload, fun requests => ?_⟩
    obtain ⟨-, -, -, again, left', entries', hagain, -, -, -, hsame⟩ := hrun requests
    exact ⟨again, left', entries', hagain, hsame⟩

end TrafficGate.Gate
