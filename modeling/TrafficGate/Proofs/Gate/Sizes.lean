import TrafficGate.Proofs.Gate.Metering
import TrafficGate.Proofs.Metrics.Gauges
import TrafficGate.Store.Memory

/-!
# Gate — Reported sizes

The size of a gate's roll, as the metrics know it.

* `Watched`: the latest size that was reported of a gate is the present one, and no reported size has
  more live components than declared ones.
* `Watched.serve`, `Watched.final`: a request keeps this, and so do any requests.
* `reported_sizes_are_current`: **reported sizes are current** after any requests, whatever befalls the
  store, and the gauges of the gate hold the present size.
-/

namespace TrafficGate.Gate

variable {S G H : Type} [Guard G]

/-- How many components are live, and how many are declared. -/
def size (gate : Gate G H) : Nat × Nat := (gate.roll.live.length, gate.roll.declarations.size)

omit [Guard G] in
theorem sizes_sized (gate : Gate G H) : Report.sizes gate.label [gate.sized] = [gate.size] := by
  simp [Report.sizes, Report.size?, sized, size]

/-! ### Listed components -/

theorem listed_loaded (label : String) (layout : Layout) (stored : Properties) :
    (loaded label layout stored : Gate G H).roll.Listed :=
  .of_declarations _

theorem settled_listed {gate : Gate G H} (h : gate.roll.Listed) (request : Request G H) :
    (gate.settled request).2.roll.Listed := by
  cases request with
  | register name handle guard =>
      simp only [settled]
      cases hroll : gate.roll.register name handle guard with
      | error e => exact h
      | ok roll => exact h.register hroll
  | unregister name forget => exact h.unregister name forget
  | releaseAll => exact .of_declarations _

/-! ### Watched gates -/

/-- A gate of which all that was told is known: the latest size that was told is the present one, and
no size that was told has more live components than declared ones. -/
structure Watched (label : String) (told : List Report) (gate : Gate G H) : Prop where
  label_eq : gate.label = label
  listed : gate.roll.Listed
  latest : (Report.sizes label told).getLast? = some gate.size
  covered : ∀ size ∈ Report.sizes label told, size.1 ≤ size.2

omit [Guard G] in
/-- From the moment on at which its size is told a gate is watched. -/
theorem watched_sized {gate : Gate G H} (h : gate.roll.Listed) :
    Watched gate.label [gate.sized] gate := by
  refine ⟨rfl, h, ?_, fun size hsize => ?_⟩
  · rw [sizes_sized]
    rfl
  · rw [sizes_sized] at hsize
    obtain rfl := List.mem_singleton.mp hsize
    exact h.length_live_le

variable [Store S] {label : String} {told : List Report} {gate : Gate G H}

theorem Watched.serve (h : Watched label told gate) (store : S) (request : Request G H) :
    Watched label (told ++ (gate.serve store request).reports) (gate.serve store request).changed := by
  have hlisted : (gate.serve store request).changed.roll.Listed := by
    rw [serve_changed]
    exact settled_listed h.listed request
  have hlabel : (gate.serve store request).changed.label = label := by
    rw [serve_changed]
    exact (gate.settled_sameSite request).label.trans h.label_eq
  have hsizes : Report.sizes label (gate.serve store request).reports =
      Report.sizes label (Report.measured (gate.serve store request).reports) :=
    (Report.sizes_measured _).symm
  rcases gate.measured_serve_cases store request with ⟨-, hchanged, hmeasured⟩ | ⟨-, hmeasured⟩
  · -- nothing is told, and nothing has changed
    rw [hmeasured] at hsizes
    have htold : Report.sizes label (told ++ (gate.serve store request).reports) =
        Report.sizes label told := by
      rw [Report.sizes_append, hsizes, Report.sizes_nil, List.append_nil]
    refine ⟨hlabel, hlisted, ?_, ?_⟩ <;> rw [htold]
    · rw [hchanged]
      exact h.latest
    · exact h.covered
  · rw [hmeasured, ← hlabel, sizes_sized, hlabel] at hsizes
    refine ⟨hlabel, hlisted, ?_, fun size hsize => ?_⟩
    · rw [Report.sizes_append, hsizes, List.getLast?_concat]
    · rw [Report.sizes_append, hsizes] at hsize
      rcases List.mem_append.mp hsize with hsize | hsize
      · exact h.covered size hsize
      · obtain rfl := List.mem_singleton.mp hsize
        exact hlisted.length_live_le

theorem Watched.final (h : Watched label told gate) (store : S)
    (turns : List (Turn S (Request G H))) :
    Watched label (told ++ Run.reports Gate.serve gate store turns)
      (Run.final Gate.serve gate store turns).1 :=
  Run.final_of_reports (Watched label) (fun _ _ store request h => h.serve store request) h store
    turns

theorem final_listed (h : gate.roll.Listed) (store : S) (turns : List (Turn S (Request G H))) :
    (Run.final Gate.serve gate store turns).1.roll.Listed :=
  Run.final_of_step (fun reached : Gate G H => reached.roll.Listed)
    (fun reached store request h => by rw [serve_changed]; exact settled_listed h request)
    h store turns

/-- **Reported sizes are current.**  Let a gate be loaded from any store that can be read, let any
requests be made before somebody watches, and any others from then on, with anything befalling the
store between them.

* The latest size that was reported is the present one: so many components are live, and so many are
  declared.
* No size that was reported has more live components than declared ones.
* A further request reports the size of the roll afterwards once, and nothing else is told to the
  metrics; but a registration that is refused reports nothing.
* Metrics that are told this, and whatever else but no other size of a gate by this name, hold the
  present size in the two gauges of the gate, each number cut off at the largest one that a gauge can
  hold. -/
theorem reported_sizes_are_current {layout : Layout} {store left : S} {entries : List Log.Entry}
    (hload : load label layout store = (.ok gate, left, entries))
    (earlier later : List (Turn S (Request G H))) :
    let watched := Run.final serve gate left earlier
    let told := watched.1.sized :: Run.reports serve watched.1 watched.2 later
    let reached := (Run.final serve watched.1 watched.2 later).1
    let live := reached.roll.live.length
    let declared := reached.roll.declarations.size
    (Report.sizes label told).getLast? = some (live, declared) ∧
    (∀ size ∈ Report.sizes label told, size.1 ≤ size.2) ∧
    (∀ (present : S) (request : Request G H),
      let change := reached.serve present request
      ((∃ e, change.result = .registered (.error e)) → Report.measured change.reports = []) ∧
      ((∀ e, change.result ≠ .registered (.error e)) → Report.measured change.reports =
        [.sized label change.changed.roll.live.length change.changed.roll.declarations.size])) ∧
    ∀ (metrics : Metrics) (all : List Report), Report.sizes label all = Report.sizes label told →
      let gauges := all.foldl Metrics.record metrics
      gauges.live.get? label = some (min live (Nat.pow 2 63 - 1)) ∧
      gauges.declared.get? label = some (min declared (Nat.pow 2 63 - 1)) := by
  intro watched told reached live declared
  obtain ⟨stored, -, rfl⟩ := loaded_of_load hload
  have hlisted : watched.1.roll.Listed :=
    final_listed (listed_loaded label layout stored) left earlier
  have hlabel : watched.1.label = label := (final_sameSite _ left earlier).label
  have hwatched : Watched label told reached := by
    have hfirst := watched_sized hlisted
    rw [hlabel] at hfirst
    exact hfirst.final watched.2 later
  refine ⟨hwatched.latest, hwatched.covered, fun present request => ?_, fun metrics all hall => ?_⟩
  · have hsite : (reached.serve present request).changed.label = label :=
      (hwatched.serve present request).label_eq
    rcases reached.measured_serve_cases present request with
      ⟨hrefused, -, hmeasured⟩ | ⟨hserved, hmeasured⟩
    · exact ⟨fun _ => hmeasured, fun h => absurd hrefused.choose_spec (h _)⟩
    · refine ⟨fun h => absurd h.choose_spec (hserved _), fun _ => ?_⟩
      rw [hmeasured, sized, hsite]
  · have hheld := Metrics.held_foldl_record all metrics label
    rw [hall, hwatched.latest] at hheld
    exact ⟨congrArg Prod.fst hheld, congrArg Prod.snd hheld⟩

/-- Once somebody watches, a component comes to life while nothing can be written, another one is turned
away because its name is taken, and a third one, which is not live, is forgotten while nothing can be
read. -/
def watchedTurns : List (Turn MemoryStore (Request PacketGuard Nat)) :=
  [⟨fun store => { store with failsWriting := true }, .register "log" 2 PacketGuard.everything⟩,
    .calm (.register "audit" 3 {}),
    ⟨fun store => { store with failsReading := true }, .unregister "spool" true⟩]

/-- A packet gate over two declarations, one of which is live when somebody begins to watch.  The room
gate tells its sizes to the same metrics. -/
theorem sizes_of_a_watched_gate :
    let stored : Properties := Table.ofList [("interceptors.required", "audit,spool")]
    let store : MemoryStore := { properties := stored }
    let gate : Gate PacketGuard Nat := loaded "packet" Layout.packets stored
    let watched := Run.final serve gate store [.calm (.register "audit" 1 {})]
    let told := watched.1.sized :: Run.reports serve watched.1 watched.2 watchedTurns
    let reached := (Run.final serve watched.1 watched.2 watchedTurns).1
    let released := reached.serve store .releaseAll
    let metrics := (told ++ [Report.sized "room" 4 5]).foldl Metrics.record {}
    (∃ entries, load "packet" Layout.packets store = (.ok gate, store, entries)) ∧
    Report.sizes "packet" told = [(1, 2), (2, 3), (2, 2)] ∧
    (Report.sizes "packet" told).getLast? = some (2, 2) ∧
    (reached.roll.live.length = 2 ∧ reached.roll.declarations.size = 2) ∧
    (∀ size ∈ Report.sizes "packet" told, size.1 ≤ size.2) ∧
    Report.measured released.reports = [.sized "packet" 0 2] ∧
    metrics.live.get? "packet" = some 2 ∧ metrics.declared.get? "packet" = some 2 := by
  intro stored store gate watched told reached released metrics
  obtain ⟨entries, hload⟩ := load_of_read (G := PacketGuard) (H := Nat) "packet" Layout.packets
    (show Store.load store = (.ok stored, store) from rfl)
  obtain ⟨hlatest, hcovered, hreports, hgauges⟩ :=
    reported_sizes_are_current hload [.calm (.register "audit" 1 {})] watchedTurns
  have hothers : Report.sizes "packet" [Report.sized "room" 4 5] = [] := by decide
  obtain ⟨hlive, hdeclared⟩ := hgauges {} (told ++ [Report.sized "room" 4 5])
    (by rw [Report.sizes_append, hothers, List.append_nil])
  have hreleased := (hreports store .releaseAll).2 fun e h => by cases h
  refine ⟨⟨entries, hload⟩, by decide +kernel, hlatest.trans (by decide +kernel), by decide +kernel,
    hcovered, hreleased.trans (by decide +kernel), hlive.trans (by decide +kernel),
    hdeclared.trans (by decide +kernel)⟩

end TrafficGate.Gate
