import TrafficGate.Roll
import TrafficGate.Store

/-!
# Gate

A gate blocks the traffic that declared components guard while they are not live.  It keeps the roll
of components, posts what is blocked and who is live after every change, and stores the declarations.

* `Gate.load`: a gate over the stored declarations, with nothing live.
* `Gate.register`, `Gate.unregister`, `Gate.releaseAll`: changes of the roll.
* `persist`: storing the declarations; a store that fails is logged and changes nothing else.
-/

namespace TrafficGate

/-- What a gate posts: the blocked categories, and the live components in order of registration. -/
structure Posting (G H : Type) where
  blocked : G
  required : List (Member H)

/-- The posting that a roll calls for. -/
def Roll.posting {G H : Type} [Guard G] (roll : Roll G H) : Posting G H :=
  ⟨roll.blocked, roll.live⟩

/-- A gate: the name it goes by, the keys of its declarations, its roll and its posting. -/
structure Gate (G H : Type) where
  label : String
  layout : Layout
  roll : Roll G H
  posting : Posting G H

namespace Gate

variable {S G H : Type} [Guard G]

/-- The size of the roll. -/
def sized (gate : Gate G H) : Report :=
  .sized gate.label gate.roll.live.length gate.roll.declarations.size

/-- An entry about a gate. -/
def said (level : Log.Level) (message : String) (fields : List (String × Log.Value) := []) : Report :=
  .log ⟨level, .gate, message, fields⟩

/-- A flag in a message. -/
def yesNo (b : Bool) : String := if b then "true" else "false"

/-- A gate over the stored declarations.  Nothing is live yet, so every declaration blocks. -/
def load [Store S] (label : String) (layout : Layout) (store : S) :
    Except StoreError (Gate G H) × S × List Log.Entry :=
  match Store.load store with
  | (.error e, store) => (.error e, store, [])
  | (.ok properties, store) =>
    let (declarations, unknown) := layout.decode (G := G) properties
    let roll : Roll G H := { declarations }
    let loaded : Log.Entry :=
      { level := .info
        source := .gate
        message := "[" ++ label ++ "] Loaded " ++ toString declarations.size ++
          " required component declaration(s), blocked: " ++ Guard.inspect roll.blocked }
    (.ok ⟨label, layout, roll, roll.posting⟩, store, unknown.map UnknownCategory.warning ++ [loaded])

/-- The gate with another roll, and its posting brought up to date. -/
def post (gate : Gate G H) (roll : Roll G H) : Gate G H × List Report :=
  let gate := { gate with roll, posting := roll.posting }
  (gate,
    [said .debug "Block set recomputed"
      [("gate", .text gate.label), ("blocked", .shown (Guard.inspect gate.posting.blocked))],
     gate.sized])

/-- Stores the declarations.  What cannot be read or written is logged; the next time the writes are
planned against what is stored then. -/
def persist [Store S] (gate : Gate G H) (store : S) : S × List Report :=
  let failed (message : String) (e : StoreError) : Report :=
    said .error message [("gate", .text gate.label), ("error", .shown e.message)]
  match Store.load store with
  | (.error e, store) => (store, [failed "Failed to read property store before persisting" e])
  | (.ok stored, store) =>
    match gate.layout.plan gate.roll.declarations stored with
    | [] => (store, [])
    | batch =>
      match Store.apply store batch with
      | (.ok (), store, entries) =>
        (store, entries.map Report.log ++
          [said .debug "Declarations persisted"
            [("gate", .text gate.label), ("operations", .count batch.length)]])
      | (.error e, store, entries) =>
        (store, entries.map Report.log ++ [failed "Failed to persist declarations" e])

/-- A component comes to life under a name and declares what it guards. -/
def register [Store S] (gate : Gate G H) (store : S) (name : String) (handle : H) (guard : G) :
    Change (Gate G H) S (Except RegisterError Unit) :=
  match gate.roll.register name handle guard with
  | .error e => ⟨.error e, gate, store, []⟩
  | .ok roll =>
    let (gate, posted) := gate.post roll
    let (store, stored) := gate.persist store
    ⟨.ok (), gate, store, posted ++ stored ++
      [said .info ("[" ++ gate.label ++ "] Required component '" ++ name ++ "' registered")]⟩

/-- The component with the name goes; its declaration is stored no longer if it is to be forgotten.
The result tells whether it was live. -/
def unregister [Store S] (gate : Gate G H) (store : S) (name : String) (forget : Bool) :
    Change (Gate G H) S Bool :=
  let wasLive := gate.roll.isLive name
  let (gate, posted) := gate.post (gate.roll.unregister name forget)
  let (store, stored) := if forget then gate.persist store else (store, [])
  ⟨wasLive, gate, store, posted ++ stored ++
    [said .info ("[" ++ gate.label ++ "] Required component '" ++ name ++
      "' unregistered (was live: " ++ yesNo wasLive ++ ", forgotten: " ++ yesNo forget ++ ")")]⟩

/-- Every live component goes and every declaration stays.  The result lists the names. -/
def releaseAll (gate : Gate G H) : List String × Gate G H × List Report :=
  let names := gate.roll.live.map (·.name)
  let roll := names.foldl (fun roll name => roll.unregister name false) gate.roll
  let (gate, posted) := gate.post roll
  (names, gate,
    if names.isEmpty then posted
    else posted ++
      [said .info ("[" ++ gate.label ++ "] Released " ++ toString names.length ++
        " required component(s)")])

/-- A live component is posted under the name. -/
def isLive (gate : Gate G H) (name : String) : Bool := gate.posting.required.any (·.name = name)

end Gate

end TrafficGate
