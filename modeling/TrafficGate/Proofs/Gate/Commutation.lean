import TrafficGate.Proofs.Gate.History

/-!
# Gate — Requests about different names

Two requests about different names can be served in either order (`distinct_names_commute`).

A request about a name (`Request.subject?`) is answered by what is live under that name, changes the
declarations under it, and takes away or brings live components under it; all of this does not touch
other names.  So the answers and the declarations come out the same, and so does what is blocked.

* `settled_answer_congr`, `isLive_settled`: the answer looks at the name alone, and what is live under
  other names stays.
* `get?_declarations_settled`: what a request does to the declarations, by look-ups.
* `live_settled_settled`: the live components after two requests.
* `get?_serve_serve`: what two requests leave in a store that never fails.  It is planned twice or
  once, against different properties, and comes out as the declarations call for in the end.
-/

namespace TrafficGate

variable {S G H : Type} [Guard G]

/-- The name that a request is about; a release is about no name in particular. -/
def Request.subject? : Request G H → Option String
  | .register name _ _ => some name
  | .unregister name _ => some name
  | .releaseAll => none

/-- What a request that was answered so leaves declared under its subject. -/
def Request.leaves (before : Option G) : Request G H → Answer → Option G
  | .register _ _ guard, .registered (.ok ()) => some (Guard.collapse guard)
  | .unregister _ true, _ => none
  | _, _ => before

omit [Guard G] in
/-- What comes to life has the name that the request is about. -/
theorem Request.name_of_came? {request : Request G H} {answer : Answer} {member : Member H}
    (h : Request.came? (request, answer) = some member) : request.subject? = some member.name := by
  unfold came? at h
  split at h
  · rename_i heq
    cases heq
    cases h
    rfl
  · cases h

omit [Guard G] in
/-- A request about one name outdates no registration under another one. -/
theorem Request.outdates_eq_false {request : Request G H} {subject name : String}
    (h : request.subject? = some subject) (hne : subject ≠ name) (answer : Answer) :
    Request.outdates name (request, answer) = false := by
  have hcame : (came? (request, answer)).any (·.name = name) = false := by
    cases hcame : came? (request, answer) with
    | none => rfl
    | some member =>
        have hname := (Request.name_of_came? hcame).symm.trans h
        simpa using fun e => hne ((Option.some.inj hname).symm.trans e)
  have hends : request.ends name = false := by
    cases request with
    | register => rfl
    | unregister other forget =>
        cases h
        exact decide_eq_false hne
    | releaseAll => cases h
  rw [outdates, hcame, hends, Bool.or_false]

namespace Gate

/-! ### One request -/

/-- A request is answered by whether something is live under the name that it is about. -/
theorem settled_answer_congr {gate gate' : Gate G H} {request : Request G H} {subject : String}
    (h : request.subject? = some subject)
    (hlive : gate.roll.isLive subject = gate'.roll.isLive subject) :
    (gate.settled request).1 = (gate'.settled request).1 := by
  cases request with
  | register name handle guard =>
      cases h
      simp only [settled, Roll.register, hlive]
      cases nameFault? subject with
      | some fault => rfl
      | none => cases gate'.roll.isLive subject <;> rfl
  | unregister name forget =>
      cases h
      simp only [settled, hlive]
  | releaseAll => cases h

/-- What a request does to the declarations. -/
theorem get?_declarations_settled (gate : Gate G H) (request : Request G H) (name : String) :
    (gate.settled request).2.roll.declarations.get? name =
      if request.subject? = some name then
        request.leaves (gate.roll.declarations.get? name) (gate.settled request).1
      else gate.roll.declarations.get? name := by
  cases request with
  | register subject handle guard =>
      simp only [settled, Request.subject?, Option.some.injEq]
      cases hroll : gate.roll.register subject handle guard with
      | error e => exact (ite_self _).symm
      | ok roll =>
          obtain ⟨-, -, rfl⟩ := Roll.register_eq_ok_iff.mp hroll
          refine (Table.get?_insert _ _ _ _).trans ?_
          simp only [eq_comm (a := name)]
          rfl
  | unregister subject forget =>
      simp only [settled, Request.subject?, Option.some.injEq]
      cases forget with
      | false => exact (ite_self _).symm
      | true =>
          refine (Table.get?_erase _ _ _).trans ?_
          simp only [eq_comm (a := name)]
          rfl
  | releaseAll => rfl

/-- What is live under another name stays so, and nothing else comes to life there. -/
theorem isLive_settled {gate : Gate G H} (hsound : gate.roll.Sound) {request : Request G H}
    {subject name : String} (h : request.subject? = some subject) (hne : subject ≠ name) :
    (gate.settled request).2.roll.isLive name = gate.roll.isLive name := by
  have hkept : ∀ member : Member H, member.name = name →
      Request.outdates member.name (request, (gate.settled request).1) = false :=
    fun member hname => hname ▸ Request.outdates_eq_false h hne _
  have hother : ∀ member, Request.came? (request, (gate.settled request).1) = some member →
      member.name ≠ name := fun member hcame e =>
    hne (Option.some.inj (h.symm.trans ((Request.name_of_came? hcame).trans (congrArg some e))))
  rw [Roll.isLive, Roll.isLive, live_settled hsound, Bool.eq_iff_iff]
  simp only [List.any_eq_true, List.mem_append, List.mem_filter, Option.mem_toList,
    decide_eq_true_eq, Bool.not_eq_true']
  constructor
  · rintro ⟨member, ⟨hmember, -⟩ | hcame, hname⟩
    · exact ⟨member, hmember, hname⟩
    · exact absurd hname (hother member hcame)
  · rintro ⟨member, hmember, hname⟩
    exact ⟨member, .inl ⟨hmember, hkept member hname⟩, hname⟩

/-! ### Two requests -/

section

variable [DimensionalGuard G] {gate : Gate G H} (hsound : gate.roll.Sound)
  {first second : Request G H} {a b : String} (hfirst : first.subject? = some a)
  (hsecond : second.subject? = some b) (hne : a ≠ b)

include hsound hfirst hsecond hne

omit [DimensionalGuard G] in
/-- The second request is answered as it would be without the first one. -/
theorem settled_settled_answer :
    ((gate.settled first).2.settled second).1 = (gate.settled second).1 :=
  settled_answer_congr hsecond (isLive_settled hsound hfirst hne)

omit [DimensionalGuard G] in
/-- The declarations do not depend on the order. -/
theorem settled_settled_declarations :
    ((gate.settled first).2.settled second).2.roll.declarations =
      ((gate.settled second).2.settled first).2.roll.declarations := by
  have hanswer := settled_settled_answer hsound hfirst hsecond hne
  have hanswer' := settled_settled_answer hsound hsecond hfirst hne.symm
  refine Table.ext_get? fun name => ?_
  simp only [get?_declarations_settled, hanswer, hanswer', hfirst, hsecond, Option.some.injEq]
  by_cases ha : a = name
  · have hb : b ≠ name := fun hb => hne (ha.trans hb.symm)
    rw [if_neg hb, if_pos ha, if_pos ha, if_neg hb]
  · rw [if_neg ha, if_neg ha]

/-- **The live components after two requests**: those that neither takes away, and what the requests
bring to life, in their order. -/
theorem live_settled_settled :
    ((gate.settled first).2.settled second).2.roll.live =
      gate.roll.live.filter (fun member =>
          !Request.outdates member.name (first, (gate.settled first).1) &&
            !Request.outdates member.name (second, (gate.settled second).1)) ++
        ((Request.came? (first, (gate.settled first).1)).toList ++
          (Request.came? (second, (gate.settled second).1)).toList) := by
  rw [live_settled (settled_sound hsound first), live_settled hsound,
    settled_settled_answer hsound hfirst hsecond hne, List.filter_append, List.filter_filter,
    List.append_assoc]
  have hcame : (Request.came? (first, (gate.settled first).1)).toList.filter (fun member =>
      !Request.outdates member.name (second, (gate.settled second).1)) =
        (Request.came? (first, (gate.settled first).1)).toList := by
    refine List.filter_eq_self.mpr fun member hmember => ?_
    have hname := (Request.name_of_came? (Option.mem_toList.mp hmember)).symm.trans hfirst
    rw [Request.outdates_eq_false hsecond fun e =>
      hne (((Option.some.inj hname).symm.trans e.symm)), Bool.not_false]
  rw [hcame]
  simp only [Bool.and_comm]

/-- The same names are live in either order. -/
theorem settled_settled_isLive (name : String) :
    ((gate.settled first).2.settled second).2.roll.isLive name =
      ((gate.settled second).2.settled first).2.roll.isLive name := by
  rw [Roll.isLive, Roll.isLive, live_settled_settled hsound hfirst hsecond hne,
    live_settled_settled hsound hsecond hfirst hne.symm]
  simp only [List.any_append, Bool.and_comm, Bool.or_comm]

end

/-! ### What is stored -/

section

variable [Store S] {keeps : S → Properties → Prop} (hstore : Store.NeverFails keeps) {store : S}
  {properties : Properties} (hkeeps : keeps store properties) {gate : Gate G H}
  (hstems : Guard.dimensions G ≤ gate.layout.stems.length)
  (hnamed : gate.roll.declarations.Named)

include hstore hkeeps hstems hnamed

/-- **What two requests leave in the store.**  If either stores the declarations, the owned keys hold
what the declarations call for after both of them; everything else stays as it was. -/
theorem get?_serve_serve (first second : Request G H) :
    let between := gate.serve store first
    let after := between.changed.serve between.store second
    ∃ stored, keeps after.store stored ∧ ∀ key, stored.get? key =
      if gate.layout.owns key &&
          (first.persists between.result || second.persists after.result) then
        (gate.layout.encode after.changed.roll.declarations).get? key
      else properties.get? key := by
  intro between after
  have hbetween : between.changed = (gate.settled first).2 := gate.serve_changed store first
  have hafter : after.changed = (between.changed.settled second).2 := serve_changed _ _ second
  have hlayout : between.changed.layout = gate.layout := by
    rw [hbetween]
    exact (gate.settled_sameSite first).layout
  obtain ⟨stored, hstored, hkeys⟩ := get?_serve hstore hkeeps hstems hnamed first
  obtain ⟨stored', hstored', hkeys'⟩ := get?_serve hstore hstored (hlayout ▸ hstems)
    (hbetween ▸ settled_named hnamed first) second
  refine ⟨stored', hstored', fun key => ?_⟩
  rw [hkeys' key, hkeys key, hlayout, hafter, serve_result, serve_result, ← hbetween]
  rcases between.changed.settled_declarations second with ⟨hpersists, hsame⟩ | ⟨hpersists, -⟩
  · -- the second request stores nothing, and changes nothing that is stored
    rw [hpersists, hsame, Bool.or_false, Bool.and_false]
    exact if_neg Bool.false_ne_true
  · rw [hpersists, Bool.or_true, Bool.and_true]
    split
    · rfl
    · rename_i hother
      rw [Bool.eq_false_iff.mpr hother]
      rfl

end

/-- Whichever of two requests about different names is served first, the store keeps the same in the
end, although other writes may have been planned on the way. -/
theorem stored_alike [Store S] [DimensionalGuard G] {keeps : S → Properties → Prop}
    (hstore : Store.NeverFails keeps) {store : S} {properties : Properties}
    (hkeeps : keeps store properties) {gate : Gate G H} (hsound : gate.roll.Sound)
    (hstems : Guard.dimensions G ≤ gate.layout.stems.length) {first second : Request G H}
    {a b : String} (hfirst : first.subject? = some a) (hsecond : second.subject? = some b)
    (hne : a ≠ b) :
    ∃ stored,
      keeps ((gate.serve store first).changed.serve (gate.serve store first).store second).store
        stored ∧
      keeps ((gate.serve store second).changed.serve (gate.serve store second).store first).store
        stored := by
  obtain ⟨stored, hstored, hkeys⟩ :=
    get?_serve_serve hstore hkeeps hstems hsound.named first second
  obtain ⟨stored', hstored', hkeys'⟩ :=
    get?_serve_serve hstore hkeeps hstems hsound.named second first
  have hsame : stored = stored' := by
    refine Table.ext_get? fun key => ?_
    rw [hkeys key, hkeys' key]
    simp only [serve_result, serve_changed, settled_settled_answer hsound hfirst hsecond hne,
      settled_settled_answer hsound hsecond hfirst hne.symm,
      settled_settled_declarations hsound hfirst hsecond hne, Bool.or_comm]
  exact ⟨stored, hstored, hsame ▸ hstored'⟩

/-! ### Either order -/

section

variable [Store S] [DimensionalGuard G]

/-- **Requests about different names commute.**  Let a gate be loaded from any store that can be
read, let any requests be made, with anything befalling the store between them, and let the store
then keep properties and not fail any more.  Of two requests about different names, either may be
served first:

* each of them is answered alike;
* the declarations come out the same, and so does what is blocked;
* the store is read as the same properties;
* if both bring a component to life, these stand last among the live components, in the order of the
  requests, behind the same others; if not, the live components are the same. -/
theorem distinct_names_commute {label : String} {layout : Layout}
    (hstems : Guard.dimensions G ≤ layout.stems.length) {keeps : S → Properties → Prop}
    (hstore : Store.NeverFails keeps) {store left : S} {gate : Gate G H} {entries : List Log.Entry}
    (hload : load label layout store = (.ok gate, left, entries))
    (turns : List (Turn S (Request G H))) {properties : Properties}
    (hkeeps : keeps (Run.final serve gate left turns).2 properties) {first second : Request G H}
    {a b : String} (hfirst : first.subject? = some a) (hsecond : second.subject? = some b)
    (hne : a ≠ b) :
    let reached := Run.final serve gate left turns
    let answers (requests : List (Request G H)) : List (Request G H × Answer) :=
      Run.history serve reached.1 reached.2 (requests.map Turn.calm)
    let one := Run.final serve reached.1 reached.2 ([first, second].map Turn.calm)
    let other := Run.final serve reached.1 reached.2 ([second, first].map Turn.calm)
    answers [second, first] = (answers [first, second]).reverse ∧
    one.1.roll.declarations = other.1.roll.declarations ∧
    one.1.posting.blocked = other.1.posting.blocked ∧
    (∃ stored, (Store.load one.2).1 = .ok stored ∧ (Store.load other.2).1 = .ok stored) ∧
    ∃ others came came', (answers [first, second]).map Request.came? = [came, came'] ∧
      one.1.roll.live = others ++ came.toList ++ came'.toList ∧
      other.1.roll.live = others ++ came'.toList ++ came.toList := by
  intro reached answers one other
  obtain ⟨stored₀, -, rfl⟩ := loaded_of_load hload
  have hsound : reached.1.roll.Sound := final_sound (loaded_sound label layout stored₀) left turns
  have hposted : reached.1.Posted := final_posted (posted_loaded label layout stored₀) left turns
  have hlayout : reached.1.layout = layout :=
    (final_sameSite (loaded label layout stored₀) left turns).layout
  -- two requests in a row, without the store
  have hfinal : ∀ x y, (Run.final serve reached.1 reached.2 ([x, y].map Turn.calm)).1 =
      ((reached.1.settled x).2.settled y).2 := fun x y => by
    simp only [List.map, Run.final, Turn.calm, id, serve_changed]
  have hhistory : ∀ x y, answers [x, y] =
      [(x, (reached.1.settled x).1), (y, ((reached.1.settled x).2.settled y).1)] := fun x y => by
    simp only [answers, List.map, Run.history, Turn.calm, id, serve_result, serve_changed]
  have hsecondAlike := settled_settled_answer hsound hfirst hsecond hne
  have hfirstAlike := settled_settled_answer hsound hsecond hfirst hne.symm
  have hdeclarations : one.1.roll.declarations = other.1.roll.declarations := by
    rw [hfinal, hfinal]
    exact settled_settled_declarations hsound hfirst hsecond hne
  have hisLive : one.1.roll.isLive = other.1.roll.isLive := by
    rw [hfinal, hfinal]
    exact funext (settled_settled_isLive hsound hfirst hsecond hne)
  refine ⟨?_, hdeclarations, ?_, ?_, ?_⟩
  · rw [hhistory, hhistory, hsecondAlike, hfirstAlike]
    rfl
  · have honePosted : one.1.Posted := final_posted hposted reached.2 _
    have hotherPosted : other.1.Posted := final_posted hposted reached.2 _
    rw [honePosted, hotherPosted, Roll.posting, Roll.posting, Roll.blocked, Roll.blocked,
      hdeclarations, hisLive]
  · obtain ⟨stored, hone, hother⟩ := stored_alike hstore hkeeps hsound (hlayout.symm ▸ hstems) hfirst
      hsecond hne
    exact ⟨stored, hstore.load_eq hone, hstore.load_eq hother⟩
  · refine ⟨reached.1.roll.live.filter fun member =>
        !Request.outdates member.name (first, (reached.1.settled first).1) &&
          !Request.outdates member.name (second, (reached.1.settled second).1),
      Request.came? (first, (reached.1.settled first).1),
      Request.came? (second, (reached.1.settled second).1), ?_, ?_, ?_⟩
    · rw [hhistory, hsecondAlike]
      rfl
    · rw [hfinal, live_settled_settled hsound hfirst hsecond hne, List.append_assoc]
    · rw [hfinal, live_settled_settled hsound hsecond hfirst hne.symm, List.append_assoc]
      simp only [Bool.and_comm]

end

/-- A packet gate over a list that was edited by hand, with one component live.  Two more come, in
either order; or a name is forgotten while another one, which is live, is turned away. -/
theorem either_order_of_packets :
    let edited : Properties := Table.ofList
      [("interceptors.required", " gone ,,audit"), ("interceptor.blocking.type.gone", "IQ,All")]
    let gate : Gate PacketGuard Nat := loaded "packet" Layout.packets edited
    let turns : List (Turn MemoryStore (Request PacketGuard Nat)) :=
      [Turn.calm (.register "spool" 1 {})]
    let reached := Run.final serve gate ({ properties := edited } : MemoryStore) turns
    let run (requests : List (Request PacketGuard Nat)) : Gate PacketGuard Nat × MemoryStore :=
      Run.final serve reached.1 reached.2 (requests.map Turn.calm)
    let audit : Request PacketGuard Nat := .register "audit" 2 PacketGuard.everything
    let log : Request PacketGuard Nat := .register "log" 3 {}
    let again : Request PacketGuard Nat := .register "spool" 4 PacketGuard.everything
    let forget : Request PacketGuard Nat := .unregister "gone" true
    (run [audit, log]).1.roll.live = [⟨"spool", 1⟩, ⟨"audit", 2⟩, ⟨"log", 3⟩] ∧
      (run [log, audit]).1.roll.live = [⟨"spool", 1⟩, ⟨"log", 3⟩, ⟨"audit", 2⟩] ∧
      (∃ stored, (Store.load (run [audit, log]).2).1 = .ok stored ∧
        (Store.load (run [log, audit]).2).1 = .ok stored) ∧
      (∃ stored, (Store.load (run [again, forget]).2).1 = .ok stored ∧
        (Store.load (run [forget, again]).2).1 = .ok stored) := by
  intro edited gate turns reached run audit log again forget
  obtain ⟨entries, hload⟩ := load_of_read (S := MemoryStore) (G := PacketGuard) (H := Nat) "packet"
    Layout.packets (show Store.load { properties := edited } = (.ok edited, _) from rfl)
  have hkeeps : reached.2.Keeps reached.2.properties := ⟨rfl, by decide +kernel, by decide +kernel⟩
  obtain ⟨-, -, -, hcoming, -⟩ := distinct_names_commute (Nat.le_refl 2) MemoryStore.neverFails hload
    turns hkeeps (show audit.subject? = some "audit" from rfl)
    (show log.subject? = some "log" from rfl) (by decide)
  obtain ⟨-, -, -, hforgetting, -⟩ := distinct_names_commute (Nat.le_refl 2)
    MemoryStore.neverFails hload turns hkeeps (show again.subject? = some "spool" from rfl)
    (show forget.subject? = some "gone" from rfl) (by decide)
  exact ⟨by decide +kernel, by decide +kernel, hcoming, hforgetting⟩

end Gate

end TrafficGate
