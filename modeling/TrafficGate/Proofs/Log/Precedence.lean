import TrafficGate.Log.Logger

/-!
# Log — Which variable decides

The filter of a logger may come from the settings, from a variable of its own and from a general one.
The two variables meet twice: where the settings are overridden the own one goes first, and where the
logger is set up the general one does.

* `setUp_of_general`, `setUp_of_no_general`: the two cases, by whether the general variable holds a
  filter.
* `not_ownVariableDecides`: it is not the own variable that decides.
* `general_variable_decides`: **the general variable decides** whenever it holds a filter, and only
  then is the own one overruled.
-/

namespace TrafficGate.Logger

/-- The variable with the name holds a filter. -/
def Holds (environment : Environment) (name : String) (filter : Filter) : Prop :=
  ∃ text, environment name = some text ∧ Filter.parse text = .ok filter

/-- A variable holds at most one filter. -/
theorem Holds.unique {environment : Environment} {name : String} {filter other : Filter}
    (h : Holds environment name filter) (hother : Holds environment name other) : other = filter := by
  obtain ⟨text, htext, hparse⟩ := h
  obtain ⟨text', htext', hparse'⟩ := hother
  obtain rfl := Option.some.inj (htext.symm.trans htext')
  exact Except.ok.inj (hparse'.symm.trans hparse)

/-- A logger whose filter is read from a text. -/
def ofText (settings : LogSettings) (text : String) : Except LoggerError Logger :=
  match Filter.parse text with
  | .ok filter => .ok { settings, filter }
  | .error e => .error (.badFilter e)

variable {settings : LogSettings} {environment : Environment}

theorem setUp_of_general {filter : Filter} (h : Holds environment "RUST_LOG" filter) :
    setUp none settings environment = .ok { settings, filter } := by
  obtain ⟨text, htext, hfilter⟩ := h
  rw [setUp, Filter.choose, htext, Option.map_some, hfilter]
  rfl

theorem setUp_of_no_general (h : ∀ filter, ¬ Holds environment "RUST_LOG" filter) :
    setUp none settings environment = ofText settings settings.filter := by
  have hchoose : Filter.choose (environment "RUST_LOG") settings.filter =
      Filter.parse settings.filter := by
    rw [Filter.choose]
    split
    · rename_i filter hparse
      obtain ⟨text, htext, hfilter⟩ := Option.map_eq_some_iff.mp hparse
      exact absurd ⟨text, htext, hfilter⟩ (h filter)
    · rfl
  rw [setUp, hchoose, ofText]
  cases Filter.parse settings.filter <;> rfl

/-! ### Which one decides -/

/-- The filter in the own variable is the one that is in force, whatever the general variable holds. -/
def OwnVariableDecides : Prop :=
  ∀ (settings : LogSettings) (environment : Environment) (filter : Filter),
    Holds environment "RG_LOG_LEVEL" filter →
    setUp none (settings.override environment) environment =
      .ok { settings := settings.override environment, filter }

/-- A quiet own variable beside a talkative general one. -/
def quietAndTalkative : Environment
  | "RG_LOG_LEVEL" => some "off"
  | "RUST_LOG" => some "info"
  | _ => none

theorem holds_off : Holds quietAndTalkative "RG_LOG_LEVEL" ⟨[{ limit := none }]⟩ := ⟨"off", rfl, rfl⟩

theorem holds_info : Holds quietAndTalkative "RUST_LOG" ⟨[{ limit := some .info }]⟩ := ⟨"info", rfl, rfl⟩

/-- **The own variable does not decide**: where it asks for silence, the general one makes the logger
talk. -/
theorem not_ownVariableDecides : ¬ OwnVariableDecides := by
  intro h
  have hquiet := h {} quietAndTalkative _ holds_off
  rw [setUp_of_general holds_info] at hquiet
  injection hquiet with hlogger
  injection hlogger with _ hfilter
  exact absurd hfilter (by decide)

/-- **The general variable decides** whenever it holds a filter, whatever the own variable and the
settings hold.  When it holds none,

* what the own variable holds is read as the filter, also when it is none and the logger fails;
* if the own variable is not set but the general one is, the logger fails over the general one;
* if neither is set the filter of the settings is read.

So a filter in the own variable is in force exactly if the general variable does not hold a different
one. -/
theorem general_variable_decides (settings : LogSettings) (environment : Environment) :
    let overridden := settings.override environment
    let made := setUp none overridden environment
    (∀ filter, Holds environment "RUST_LOG" filter →
      made = .ok { settings := overridden, filter }) ∧
    ((∀ filter, ¬ Holds environment "RUST_LOG" filter) →
      (∀ own, environment "RG_LOG_LEVEL" = some own → made = ofText overridden own) ∧
      (environment "RG_LOG_LEVEL" = none → ∀ general, environment "RUST_LOG" = some general →
        ∃ e, Filter.parse general = .error e ∧ made = .error (.badFilter e)) ∧
      (environment "RG_LOG_LEVEL" = none → environment "RUST_LOG" = none →
        made = ofText overridden settings.filter)) ∧
    ∀ filter, Holds environment "RG_LOG_LEVEL" filter →
      (made = .ok { settings := overridden, filter } ↔
        ∀ other, Holds environment "RUST_LOG" other → other = filter) := by
  intro overridden made
  have hfilter : overridden.filter =
      ((environment "RG_LOG_LEVEL").or (environment "RUST_LOG")).getD settings.filter := rfl
  refine ⟨fun filter => setUp_of_general, fun hnone => ?_, fun filter hown => ?_⟩
  · have hmade : made = ofText overridden overridden.filter := setUp_of_no_general hnone
    rw [hfilter] at hmade
    refine ⟨fun own hown => ?_, fun hown general hgeneral => ?_, fun hown hgeneral => ?_⟩
    · rw [hmade, hown]
      rfl
    · rw [hown, hgeneral] at hmade
      cases hparse : Filter.parse general with
      | ok filter => exact absurd ⟨general, hgeneral, hparse⟩ (hnone filter)
      | error e =>
          refine ⟨e, rfl, hmade.trans ?_⟩
          simp only [Option.none_or, Option.getD_some, ofText, hparse]
    · rw [hmade, hown, hgeneral]
      rfl
  · by_cases hgeneral : ∃ other, Holds environment "RUST_LOG" other
    · obtain ⟨other, hother⟩ := hgeneral
      have hmade : made = .ok { settings := overridden, filter := other } := setUp_of_general hother
      rw [hmade]
      constructor
      · intro h another hanother
        injection h with hlogger
        injection hlogger with _ hfilter
        exact (hother.unique hanother).trans hfilter
      · intro h
        rw [h other hother]
    · have hnone : ∀ other, ¬ Holds environment "RUST_LOG" other := not_exists.mp hgeneral
      obtain ⟨own, htext, hparse⟩ := hown
      have hmade : made = ofText overridden overridden.filter := setUp_of_no_general hnone
      refine iff_of_true ?_ fun other hother => absurd hother (hnone other)
      rw [hmade, hfilter, htext, Option.some_or, Option.getD_some, ofText, hparse]

/-- A talkative general variable overrules a quiet own one; where it holds no filter the own one is in
force, and alone it makes the logger fail. -/
theorem general_variable_overrules :
    let misspelt : Environment := fun name => if name = "RUST_LOG" then some "gate=loud" else none
    let both : Environment := fun name => if name = "RG_LOG_LEVEL" then some "off" else misspelt name
    (setUp none (LogSettings.override {} quietAndTalkative) quietAndTalkative).map (·.filter) =
        .ok ⟨[{ limit := some .info }]⟩ ∧
      (setUp none (LogSettings.override {} both) both).map (·.filter) = .ok ⟨[{ limit := none }]⟩ ∧
      ∃ e, setUp none (LogSettings.override {} misspelt) misspelt = .error (.badFilter e) := by
  intro misspelt both
  have hnone : ∀ environment : Environment, environment "RUST_LOG" = some "gate=loud" →
      ∀ filter, ¬ Holds environment "RUST_LOG" filter := by
    rintro environment hmisspelt filter ⟨text, htext, hparse⟩
    obtain rfl := Option.some.inj (hmisspelt.symm.trans htext)
    have hfails : Filter.parse "gate=loud" = .error .badLevel := rfl
    rw [hfails] at hparse
    cases hparse
  refine ⟨?_, ?_, ?_⟩
  · rw [(general_variable_decides {} quietAndTalkative).1 _ holds_info]
    rfl
  · rw [((general_variable_decides {} both).2.1 (hnone both rfl)).1 "off" rfl]
    rfl
  · obtain ⟨e, -, hfails⟩ :=
      ((general_variable_decides {} misspelt).2.1 (hnone misspelt rfl)).2.1 rfl "gate=loud" rfl
    exact ⟨e, hfails⟩

end TrafficGate.Logger
