import TrafficGate.Proofs.Gate.History

/-!
# Gate — Registration

When a registration is refused, and that it then leaves no trace.

* `register_of_refused`: a gate whose roll refuses a registration answers so, and neither it nor its
  store is touched, and nothing is reported.
* `isLive_eq`: what is posted as live is live.
* `registration_refused_iff`: the same of every gate that a run leads to, said of the characters of
  the name and of what the gate posts, and what a registration that succeeds changes.
-/

namespace TrafficGate.Gate

variable {S G H : Type} [Guard G]

/-! ### One registration -/

section

variable [Store S] {gate : Gate G H} {store : S} {name : String} {handle : H} {guard : G}

/-- A registration that the roll refuses comes to nothing but that answer. -/
theorem register_of_refused {e : RegisterError}
    (h : gate.roll.register name handle guard = .error e) :
    gate.register store name handle guard = ⟨.error e, gate, store, []⟩ := by
  simp only [register, h]

theorem result_register_eq_error_iff {e : RegisterError} :
    (gate.register store name handle guard).result = .error e ↔
      gate.roll.register name handle guard = .error e := by
  simp only [register]
  cases gate.roll.register name handle guard <;> simp

/-- A registration succeeds for a token that is not live. -/
theorem result_register_eq_ok_iff :
    (gate.register store name handle guard).result = .ok () ↔
      Text.IsToken name ∧ gate.roll.isLive name = false := by
  have hroll : (gate.register store name handle guard).result = .ok () ↔
      ∃ after, gate.roll.register name handle guard = .ok after := by
    simp only [register]
    cases gate.roll.register name handle guard <;> simp
  simp only [hroll, Roll.register_eq_ok_iff, exists_and_left, exists_eq, and_true]

/-- What a registration that succeeds makes of the roll. -/
theorem roll_register_of_ok (h : (gate.register store name handle guard).result = .ok ()) :
    (gate.register store name handle guard).changed.roll =
      ⟨gate.roll.declarations.insert name (Guard.collapse guard),
        gate.roll.live ++ [⟨name, handle⟩]⟩ := by
  obtain ⟨hname, hfresh⟩ := result_register_eq_ok_iff.mp h
  have hroll : gate.roll.register name handle guard = .ok _ :=
    Roll.register_eq_ok_iff.mpr ⟨hname, hfresh, rfl⟩
  simp only [register, hroll, post]

omit [Store S] in
/-- What is posted as live is live. -/
theorem isLive_eq (h : gate.Posted) (name : String) : gate.isLive name = gate.roll.isLive name := by
  rw [isLive, h]
  rfl

end

/-! ### Every run -/

variable [Store S] [DimensionalGuard G]

/-- **When a registration is refused.**  Let a gate be loaded from any store that can be read, and let
any requests be made, with anything befalling the store between them; then let a component be
registered, whatever becomes of the store.

* The name is refused if it is blank, if it starts or ends with a blank, or if a comma is in it, and
  for no other reason.
* Any other name is refused if a component is live under it, and else the registration succeeds.  What
  is live has such a name, even if the stored list was edited by hand.
* A refusal leaves the gate, with its declarations, its live components and its posting, and the store
  as they are, and reports nothing to the metrics or to the log.
* A registration that succeeds declares the collapsed guard under the name and leaves every other
  declaration as it was, and the component comes last among the live ones. -/
theorem registration_refused_iff {label : String} {layout : Layout} {store left : S}
    {gate : Gate G H} {entries : List Log.Entry}
    (hload : load label layout store = (.ok gate, left, entries))
    (turns : List (Turn S (Request G H))) (present : S) (name : String) (handle : H) (guard : G) :
    let reached := (Run.final serve gate left turns).1
    let change := reached.register present name handle guard
    let inadmissible := (∀ c ∈ name.toList, Text.isBlank c = true) ∨
      (∃ c, name.toList.head? = some c ∧ Text.isBlank c = true) ∨
      (∃ c, name.toList.getLast? = some c ∧ Text.isBlank c = true) ∨ ',' ∈ name.toList
    ((∃ fault, change.result = .error (.invalidName fault)) ↔ inadmissible) ∧
    (change.result = .error (.duplicateName name) ↔
      ¬ inadmissible ∧ reached.isLive name = true) ∧
    (change.result = .ok () ↔ ¬ inadmissible ∧ reached.isLive name = false) ∧
    (reached.isLive name = true → ¬ inadmissible) ∧
    (∀ e, change.result = .error e →
      change.changed = reached ∧ change.store = present ∧ change.reports = []) ∧
    (change.result = .ok () →
      (∀ other, change.changed.roll.declarations.get? other =
        if other = name then some (Guard.collapse guard)
        else reached.roll.declarations.get? other) ∧
      change.changed.roll.live = reached.roll.live ++ [⟨name, handle⟩]) := by
  intro reached change inadmissible
  obtain ⟨stored, -, rfl⟩ := loaded_of_load hload
  have hsound : reached.roll.Sound := final_sound (loaded_sound label layout stored) left turns
  have hposted : reached.Posted := final_posted (posted_loaded label layout stored) left turns
  have hadmissible : ¬ inadmissible ↔ Text.IsToken name :=
    (not_congr Text.not_isToken_iff.symm).trans not_not
  rw [isLive_eq hposted, hadmissible]
  refine ⟨?_, ?_, result_register_eq_ok_iff, fun hlive => ?_, fun e he => ?_, fun hok => ?_⟩
  · simp only [change, result_register_eq_error_iff, Roll.register_eq_invalidName_iff]
    rw [← Option.ne_none_iff_exists', ne_eq, nameFault?_eq_none_iff, ← hadmissible, not_not]
  · simp only [change, result_register_eq_error_iff, Roll.register_eq_duplicateName_iff, and_true]
  · -- what is live is declared, and what is declared can be listed
    obtain ⟨member, hmember, rfl⟩ := by simpa [Roll.isLive] using hlive
    obtain ⟨guard', hget⟩ := hsound.declared member hmember
    exact hsound.named _ guard' hget
  · have hchange : change = ⟨.error e, reached, present, []⟩ :=
      register_of_refused (result_register_eq_error_iff.mp he)
    exact ⟨congrArg Change.changed hchange, congrArg Change.store hchange,
      congrArg Change.reports hchange⟩
  · have hroll : change.changed.roll = _ := roll_register_of_ok hok
    rw [hroll]
    exact ⟨fun other => Table.get?_insert _ _ _ _, rfl⟩

/-- The gate of the edited list, after components came and went. -/
def settledGate : Gate PacketGuard Nat :=
  (Run.final serve (loaded "packet" Layout.packets editedList)
    ({ properties := editedList } : MemoryStore) comingAndGoing).1

/-- Two components are live, and a third one was forgotten.  A name that starts with a no-break space
and one with a comma in it are refused, and so is one that is live, which leaves no trace; the
forgotten one comes last, although nothing can be written. -/
theorem registrations_after_coming_and_going :
    let present : MemoryStore := { failsWriting := true }
    let spaced := settledGate.register present "\u00a0late" 5 PacketGuard.everything
    let joined := settledGate.register present "early,late" 5 PacketGuard.everything
    let again := settledGate.register present "audit" 5 PacketGuard.everything
    let gone := settledGate.register present "gone" 5 PacketGuard.everything
    (∃ fault, spaced.result = .error (.invalidName fault)) ∧
    (∃ fault, joined.result = .error (.invalidName fault)) ∧
    again.result = .error (.duplicateName "audit") ∧ again.changed = settledGate ∧
    again.store = present ∧ again.reports = [] ∧
    gone.result = .ok () ∧ settledGate.roll.live = [⟨"spool", 2⟩, ⟨"audit", 3⟩] ∧
    gone.changed.roll.live = settledGate.roll.live ++ [⟨"gone", 5⟩] := by
  intro present spaced joined again gone
  obtain ⟨entries, hload⟩ := load_of_read (S := MemoryStore) (G := PacketGuard) (H := Nat) "packet"
    Layout.packets (show Store.load { properties := editedList } = (.ok editedList, _) from rfl)
  have hregister := fun name =>
    registration_refused_iff hload comingAndGoing present name 5 PacketGuard.everything
  obtain ⟨hspaced, -⟩ := hregister "\u00a0late"
  obtain ⟨hjoined, -⟩ := hregister "early,late"
  obtain ⟨-, hduplicate, -, hlisted, hrefused, -⟩ := hregister "audit"
  obtain ⟨-, -, hsucceeds, -, -, hcame⟩ := hregister "gone"
  have hlive : settledGate.isLive "audit" = true := by decide +kernel
  have hagain : again.result = .error (.duplicateName "audit") :=
    hduplicate.mpr ⟨hlisted hlive, hlive⟩
  have hgone : gone.result = .ok () := hsucceeds.mpr
    ⟨fun h => Text.not_isToken_iff.mpr h (nameFault?_eq_none_iff.mp (by decide +kernel)),
      by decide +kernel⟩
  obtain ⟨hchanged, hstore, hreports⟩ := hrefused _ hagain
  exact ⟨hspaced.mpr (.inr (.inl ⟨'\u00a0', rfl, by decide⟩)),
    hjoined.mpr (.inr (.inr (.inr (by decide)))), hagain, hchanged, hstore, hreports, hgone,
    by decide +kernel, (hcame hgone).2⟩

end TrafficGate.Gate
