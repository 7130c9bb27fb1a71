import TrafficGate.Proofs.Chain
import TrafficGate.Proofs.Packet.Pipeline
import TrafficGate.Store.Memory

/-!
# Packet — Chains of a pipeline

What is asked of a packet pipeline: something of its gate, a change of the chain for all packets, or a
change of the chain of one principal.

The chains of principals are entries of one table, made when the first interceptor comes and dropped
when the last one goes.  Seen through a run, each of them is a chain of its own.

* `isPart_chain`, `isPart_principalChain`: every chain of a pipeline is a part of it, to which some of
  the requests are addressed.
* `Occupied`: no principal has an empty chain in the table, which every request keeps.
* `chains_go_their_own_course`: **every chain is what the requests addressed to it make of a new
  chain**, answers included.
-/

namespace TrafficGate

/-- What is asked of a packet pipeline. -/
inductive PacketRequest (H : Type) where
  | toGate (request : Request PacketGuard H)
  | toChain (edit : ChainEdit H)
  | addPrincipal (principal : String) (index : Nat) (handle : H)
  | removePrincipal (principal : String) (handle : H)

/-- What a packet pipeline answers. -/
inductive PacketAnswer where
  | ofGate (answer : Answer)
  | ofChain (answer : ChainAnswer)

namespace PacketRequest

variable {H : Type}

/-- What is asked of the chain for all packets. -/
def toChain? : PacketRequest H → Option (ChainEdit H)
  | .toChain edit => some edit
  | _ => none

/-- What is asked of the chain of a principal. -/
def toPrincipal? (principal : String) : PacketRequest H → Option (ChainEdit H)
  | .addPrincipal other index handle =>
    if other = principal then some (.insert index handle) else none
  | .removePrincipal other handle => if other = principal then some (.remove handle) else none
  | _ => none

end PacketRequest

/-- What a chain answered. -/
def PacketAnswer.ofChain? : PacketAnswer → Option ChainAnswer
  | .ofGate _ => none
  | .ofChain answer => some answer

namespace PacketPipeline

variable {S H : Type}

/-! ### One request -/

/-- The answer to a request to place an interceptor. -/
def placing (pipeline : PacketPipeline H) (store : S) :
    Except ChainError (PacketPipeline H) → Change (PacketPipeline H) S PacketAnswer
  | .error e => ⟨.ofChain (.refused e), pipeline, store, []⟩
  | .ok changed => ⟨.ofChain .placed, changed, store, []⟩

/-- The answer to a request to remove an interceptor. -/
def removing (pipeline : PacketPipeline H) (store : S) :
    Option (PacketPipeline H × List Report) → Change (PacketPipeline H) S PacketAnswer
  | none => ⟨.ofChain (.removed false), pipeline, store, []⟩
  | some (changed, reports) => ⟨.ofChain (.removed true), changed, store, reports⟩

/-- Where an interceptor is not placed, nothing changes. -/
theorem changed_of_refused {pipeline : PacketPipeline H} {store : S}
    {outcome : Except ChainError (PacketPipeline H)} {e : ChainError}
    (h : (pipeline.placing store outcome).result = .ofChain (.refused e)) :
    (pipeline.placing store outcome).changed = pipeline := by
  cases outcome with
  | error _ => rfl
  | ok changed => cases h

variable [Store S] [DecidableEq H]

/-- Serves a request, to the gate or about a chain. -/
def attend (pipeline : PacketPipeline H) (store : S) :
    PacketRequest H → Change (PacketPipeline H) S PacketAnswer
  | .toGate request =>
    let change := pipeline.serve store request
    ⟨.ofGate change.result, change.changed, change.store, change.reports⟩
  | .toChain (.push handle) => ⟨.ofChain .placed, pipeline.addInterceptor handle, store, []⟩
  | .toChain (.insert index handle) =>
    pipeline.placing store (pipeline.insertInterceptor index handle)
  | .toChain (.remove handle) =>
    pipeline.removing store ((pipeline.removeInterceptor handle).map (·, []))
  | .addPrincipal principal index handle =>
    pipeline.placing store (pipeline.addPrincipal principal index handle)
  | .removePrincipal principal handle =>
    pipeline.removing store (pipeline.removePrincipal principal handle)

theorem attend_toGate (pipeline : PacketPipeline H) (store : S) (request : Request PacketGuard H) :
    (pipeline.attend store (.toGate request)).changed =
      { pipeline with gate := (pipeline.gate.settled request).2 } :=
  pipeline.serve_changed store request

theorem attend_toChain (pipeline : PacketPipeline H) (store : S) (edit : ChainEdit H) :
    (pipeline.attend store (.toChain edit)).result = .ofChain (Chain.serve pipeline.chain edit).1 ∧
      (pipeline.attend store (.toChain edit)).changed =
        { pipeline with chain := (Chain.serve pipeline.chain edit).2 } := by
  cases edit with
  | push handle => exact ⟨rfl, rfl⟩
  | insert index handle =>
      simp only [attend, insertInterceptor, Chain.serve]
      cases Chain.insert? pipeline.chain index handle <;> exact ⟨rfl, rfl⟩
  | remove handle =>
      simp only [attend, removeInterceptor, Chain.serve]
      cases Chain.remove? pipeline.chain handle <;> exact ⟨rfl, rfl⟩

/-- The pipeline with another chain of a principal; an empty chain has no entry. -/
def rechained (pipeline : PacketPipeline H) (principal : String) (members : List H) :
    PacketPipeline H :=
  { pipeline with
    principals := if members.isEmpty then pipeline.principals.erase principal
      else pipeline.principals.insert principal members }

omit [Store S] [DecidableEq H] in
theorem get?_rechained (pipeline : PacketPipeline H) (principal : String) (members : List H)
    (other : String) :
    (pipeline.rechained principal members).principals.get? other =
      if other = principal then (if members = [] then none else some members)
      else pipeline.principals.get? other := by
  by_cases h : members = []
  · simp [rechained, h, Table.get?_erase]
  · simp [rechained, h, Table.get?_insert]

omit [Store S] [DecidableEq H] in
theorem principalChain_rechained (pipeline : PacketPipeline H) (principal : String)
    (members : List H) (other : String) :
    (pipeline.rechained principal members).principalChain other =
      if other = principal then members else pipeline.principalChain other := by
  rw [principalChain, get?_rechained]
  split
  · split
    · rename_i hmembers
      exact hmembers.symm
    · rfl
  · rfl

/-- A request that is addressed to a principal has the answer of the principal's chain, and either
leaves that chain alone or gives the principal what the chain makes of itself. -/
theorem attend_principal (pipeline : PacketPipeline H) (store : S) {request : PacketRequest H}
    {principal : String} {edit : ChainEdit H} (h : request.toPrincipal? principal = some edit) :
    let served := Chain.serve (pipeline.principalChain principal) edit
    (pipeline.attend store request).result = .ofChain served.1 ∧
      ((pipeline.attend store request).changed = pipeline ∧
          served.2 = pipeline.principalChain principal ∨
        (pipeline.attend store request).changed = pipeline.rechained principal served.2) := by
  cases request with
  | toGate request => cases h
  | toChain edit => cases h
  | addPrincipal other index handle =>
      obtain ⟨rfl, rfl⟩ : other = principal ∧ .insert index handle = edit := by
        simpa [PacketRequest.toPrincipal?] using h
      simp only [attend, addPrincipal, Chain.serve]
      cases hinsert : Chain.insert? (pipeline.principalChain other) index handle with
      | error e => exact ⟨rfl, .inl ⟨rfl, rfl⟩⟩
      | ok members =>
          have hmembers : members ≠ [] := Chain.insert?_ne_nil hinsert
          exact ⟨rfl, .inr (by simp [rechained, placing, Except.map, hmembers])⟩
  | removePrincipal other handle =>
      obtain ⟨rfl, rfl⟩ : other = principal ∧ .remove handle = edit := by
        simpa [PacketRequest.toPrincipal?] using h
      simp only [attend, removePrincipal, Chain.serve]
      cases Chain.remove? (pipeline.principalChain other) handle with
      | none => exact ⟨rfl, .inl ⟨rfl, rfl⟩⟩
      | some members =>
          simp only [Option.map_some, rechained]
          cases members.isEmpty <;> exact ⟨rfl, .inr rfl⟩

/-- A request that is not addressed to a principal does not touch the principal's entry. -/
theorem get?_attend (pipeline : PacketPipeline H) (store : S) {request : PacketRequest H}
    {principal : String} (h : request.toPrincipal? principal = none) :
    (pipeline.attend store request).changed.principals.get? principal =
      pipeline.principals.get? principal := by
  -- a request to another principal gives only that one another chain
  have hother : ∀ {other edit}, request.toPrincipal? other = some edit →
      (pipeline.attend store request).changed.principals.get? principal =
        pipeline.principals.get? principal := by
    intro other edit hedit
    have hne : principal ≠ other := by
      rintro rfl
      rw [h] at hedit
      cases hedit
    obtain ⟨-, ⟨hsame, -⟩ | hchain⟩ := pipeline.attend_principal store hedit
    · rw [hsame]
    · rw [hchain, get?_rechained, if_neg hne]
  cases request with
  | toGate request => rw [attend_toGate]
  | toChain edit => rw [(pipeline.attend_toChain store edit).2]
  | addPrincipal other index handle => exact hother (if_pos rfl)
  | removePrincipal other handle => exact hother (if_pos rfl)

/-! ### The parts of a pipeline -/

/-- The chain for all packets is a part of the pipeline. -/
theorem isPart_chain :
    Course.IsPart PacketRequest.toChain? PacketAnswer.ofChain? (attend (S := S)) Chain.serve
      (chain : PacketPipeline H → List H) where
  within pipeline store request edit h := by
    cases request with
    | toChain edit' =>
        cases h
        obtain ⟨hanswer, hchanged⟩ := pipeline.attend_toChain store edit
        rw [hanswer, hchanged]
        exact ⟨rfl, rfl⟩
    | _ => cases h
  aside pipeline store request h := by
    have hprincipal : ∀ {principal edit}, request.toPrincipal? principal = some edit →
        (pipeline.attend store request).changed.chain = pipeline.chain := by
      intro principal edit hedit
      obtain ⟨-, ⟨hsame, -⟩ | hchain⟩ := pipeline.attend_principal store hedit
      · rw [hsame]
      · rw [hchain]
        rfl
    cases request with
    | toGate request => rw [attend_toGate]
    | toChain edit => cases h
    | addPrincipal other index handle => exact hprincipal (if_pos rfl)
    | removePrincipal other handle => exact hprincipal (if_pos rfl)

/-- The chain of a principal is a part of the pipeline. -/
theorem isPart_principalChain (principal : String) :
    Course.IsPart (PacketRequest.toPrincipal? principal) PacketAnswer.ofChain? (attend (S := S))
      Chain.serve (principalChain · principal : PacketPipeline H → List H) where
  within pipeline store request edit h := by
    obtain ⟨hanswer, ⟨hsame, hkept⟩ | hchain⟩ := pipeline.attend_principal store h
    · rw [hanswer, hsame]
      exact ⟨rfl, hkept.symm⟩
    · rw [hanswer, hchain, principalChain_rechained, if_pos rfl]
      exact ⟨rfl, rfl⟩
  aside pipeline store request h := by
    rw [principalChain, pipeline.get?_attend store h]
    rfl

/-- No principal has an empty chain in the table. -/
def Occupied (pipeline : PacketPipeline H) : Prop :=
  ∀ principal, pipeline.principals.get? principal ≠ some []

theorem Occupied.attend {pipeline : PacketPipeline H} (h : pipeline.Occupied) (store : S)
    (request : PacketRequest H) : (pipeline.attend store request).changed.Occupied := by
  intro principal
  cases hrequest : request.toPrincipal? principal with
  | none =>
      rw [pipeline.get?_attend store hrequest]
      exact h principal
  | some edit =>
      obtain ⟨-, ⟨hsame, -⟩ | hchain⟩ := pipeline.attend_principal store hrequest
      · rw [hsame]
        exact h principal
      · rw [hchain, get?_rechained, if_pos rfl]
        split
        · exact nofun
        · rename_i hmembers
          exact fun e => hmembers (Option.some.inj e)

omit [Store S] [DecidableEq H] in
/-- The table has an entry of a principal exactly when the principal has a chain that is not empty. -/
theorem Occupied.get?_eq {pipeline : PacketPipeline H} (h : pipeline.Occupied) (principal : String) :
    pipeline.principals.get? principal =
      if pipeline.principalChain principal = [] then none
      else some (pipeline.principalChain principal) := by
  cases hget : pipeline.principals.get? principal with
  | none => simp [principalChain, hget]
  | some members =>
      have hmembers : members ≠ [] := fun e => h principal (e ▸ hget)
      simp [principalChain, hget, hmembers]

/-! ### Every run -/

/-- **Every chain goes its own course.**  Let a pipeline be loaded and any requests be made, to its gate
and about its chains, with anything befalling the store between them.

* The table of principals holds no empty chain, and no chain in which a member stands twice.
* The chain of every principal, and the answers about it, are those of a new chain that gets the
  requests addressed to the principal and no others; the principal has an entry exactly when that
  chain is not empty.
* A request to place an interceptor in the chain of a principal, if it is refused, changes nothing.
* The chain for all packets, and the answers about it, are those of a new chain that gets the requests
  addressed to it and no others. -/
theorem chains_go_their_own_course {domain : String} {store left : S} {pipeline : PacketPipeline H}
    {entries : List Log.Entry} (hload : load store domain = (.ok pipeline, left, entries))
    (turns : List (Turn S (PacketRequest H))) :
    let reached := (Run.final attend pipeline left turns).1
    let requests := turns.map (·.request)
    let history := Run.history attend pipeline left turns
    (∀ principal members, reached.principals.get? principal = some members →
      members ≠ [] ∧ members.Nodup) ∧
    (∀ principal,
      let edits := requests.filterMap (PacketRequest.toPrincipal? principal)
      let alone := Course.final Chain.serve [] edits
      reached.principalChain principal = alone ∧
      reached.principals.get? principal = (if alone = [] then none else some alone) ∧
      history.filterMap
          (Course.concerning (PacketRequest.toPrincipal? principal) PacketAnswer.ofChain?) =
        Course.history Chain.serve [] edits) ∧
    (∀ (store : S) principal index handle e,
      (reached.attend store (.addPrincipal principal index handle)).result =
          .ofChain (.refused e) →
        (reached.attend store (.addPrincipal principal index handle)).changed = reached) ∧
    reached.chain = Course.final Chain.serve [] (requests.filterMap PacketRequest.toChain?) ∧
    history.filterMap (Course.concerning PacketRequest.toChain? PacketAnswer.ofChain?) =
      Course.history Chain.serve [] (requests.filterMap PacketRequest.toChain?) := by
  intro reached requests history
  obtain ⟨stored, -, rfl⟩ := loaded_of_load hload
  have hnew : (loaded domain stored : PacketPipeline H).Occupied := fun _ h => nomatch h
  have hoccupied : reached.Occupied :=
    Run.final_of_step Occupied (fun _ store request h => h.attend store request) hnew left turns
  have halone : ∀ principal, reached.principalChain principal =
      Course.final Chain.serve [] (requests.filterMap (PacketRequest.toPrincipal? principal)) :=
    fun principal => (isPart_principalChain principal).final _ left turns
  refine ⟨?entries, ?principals, ?refused, isPart_chain.final _ left turns,
    isPart_chain.history _ left turns⟩
  case entries =>
    intro principal members hget
    have hmembers : reached.principalChain principal = members := by
      rw [principalChain, hget]
      rfl
    refine ⟨fun e => hoccupied principal (e ▸ hget), ?_⟩
    rw [← hmembers, halone]
    exact (Chain.follows_final _).1
  case principals =>
    intro principal edits alone
    refine ⟨halone principal, ?_, (isPart_principalChain principal).history _ left turns⟩
    rw [hoccupied.get?_eq, halone]
  case refused =>
    intro store principal index handle e hrefused
    exact changed_of_refused hrefused

/-- A chain that is emptied and made again, places that are refused, and requests to the gate and about
the chain for all packets between them. -/
def comingToPrincipals : List (PacketRequest Nat) :=
  [.addPrincipal "ann" 0 1, .toChain (.push 9), .addPrincipal "ann" 5 2, .addPrincipal "ben" 1 7,
    .removePrincipal "ann" 1, .toGate (.register "audit" 3 {}), .addPrincipal "ann" 0 4,
    .toChain (.insert 0 8)]

/-- What is left of them: the one principal has the chain that was made last, and the other one, to
whom nothing could be added, has none. -/
theorem chains_of_two_principals :
    let store : MemoryStore := {}
    ∃ (pipeline : PacketPipeline Nat) (entries : List Log.Entry),
      load store "localhost" = (.ok pipeline, store, entries) ∧
      let reached := (Run.final attend pipeline store (comingToPrincipals.map Turn.calm)).1
      reached.principals.get? "ann" = some [4] ∧ [4].Nodup ∧
      reached.principals.get? "ben" = none ∧
      (reached.attend store (.addPrincipal "ben" 1 7)).changed = reached ∧
      reached.chain = [8, 9] := by
  intro store
  obtain ⟨entries, hload⟩ := load_of_read (S := MemoryStore) (H := Nat) "localhost"
    (show Store.load store = (.ok Table.empty, store) from rfl)
  generalize loaded "localhost" Table.empty = pipeline at hload
  refine ⟨pipeline, entries, hload, ?_⟩
  obtain ⟨hwell, hprincipals, hrefused, hchain, -⟩ :=
    chains_go_their_own_course hload (comingToPrincipals.map Turn.calm)
  generalize (Run.final attend pipeline store (comingToPrincipals.map Turn.calm)).1 = reached
    at hwell hprincipals hrefused hchain ⊢
  have hann : reached.principals.get? "ann" = some [4] :=
    (hprincipals "ann").2.1.trans (by decide +kernel)
  have hben : reached.principalChain "ben" = [] := (hprincipals "ben").1.trans (by decide +kernel)
  have hbehind : (reached.attend store (.addPrincipal "ben" 1 7)).result =
      .ofChain (.refused ⟨1, 0⟩) := by
    rw [attend, addPrincipal, hben]
    rfl
  exact ⟨hann, (hwell "ann" [4] hann).2, (hprincipals "ben").2.1.trans (by decide +kernel),
    hrefused store "ben" 1 7 ⟨1, 0⟩ hbehind, hchain.trans (by decide +kernel)⟩

end PacketPipeline

end TrafficGate
