import TrafficGate.Address
import TrafficGate.Proofs.Text.Cuts
import TrafficGate.Proofs.Text.Tokens

/-!
# Address — Reading and writing

Which addresses are read back from what is written of them.

Reading cuts the trimmed text (`cut`), and then drops the node or the resource where it is empty
(`pruned`).  A text has the parts of exactly one legible address, the one of which it is written
(`cut_eq_iff`).

* `parse_render_eq_ok_iff`: **which addresses are read back as they are**, among all.
* `not_stable`: an address that was read need not be among them.  When an empty node is dropped, an
  at-sign or a blank of the domain comes to stand in front; when an empty resource is dropped, a blank
  of the domain comes to stand at the end.
* `reread_iff`: those are all the addresses that were read and are not read back.
-/

namespace TrafficGate.Address

open Text

variable {a : Address}

/-! ### Cutting -/

/-- What stands before the first slash, and what stands behind it. -/
def cutResource (text : String) : String × Option String :=
  match cutFirst '/' text with
  | some (bare, resource) => (bare, some resource)
  | none => (text, none)

/-- What stands before the first at-sign, and the domain. -/
def cutNode (bare : String) : Option String × String :=
  match cutFirst '@' bare with
  | some (node, domain) => (some node, domain)
  | none => (none, bare)

/-- The parts of a text, empty ones included. -/
def cut (text : String) : Address :=
  let (bare, resource) := cutResource text
  let (node, domain) := cutNode bare
  ⟨node, domain, resource⟩

/-- No separator of the written address stands where it would be taken for another one. -/
structure Legible (a : Address) : Prop where
  node : ∀ node, a.node = some node → '@' ∉ node.toList ∧ '/' ∉ node.toList
  domain : '/' ∉ a.domain.toList
  nodeless : a.node = none → '@' ∉ a.domain.toList

theorem cutResource_eq_iff {text bare : String} {resource : Option String} :
    cutResource text = (bare, resource) ↔
      '/' ∉ bare.toList ∧ text = bare ++ resource.elim "" ("/" ++ ·) := by
  cases resource with
  | none =>
      have hcut : cutResource text = (bare, none) ↔ cutFirst '/' text = none ∧ text = bare := by
        rw [cutResource]
        cases cutFirst '/' text <;> simp
      rw [hcut, cutFirst_eq_none_iff, Option.elim_none, String.append_empty]
      exact and_congr_left fun htext => by rw [htext]
  | some resource =>
      have hcut : cutResource text = (bare, some resource) ↔
          cutFirst '/' text = some (bare, resource) := by
        rw [cutResource]
        cases cutFirst '/' text <;> simp [Prod.ext_iff]
      rw [hcut, cutFirst_eq_some_iff (show "/".toList = ['/'] from rfl), Option.elim_some,
        String.append_assoc]

theorem cutNode_eq_iff {bare domain : String} {node : Option String} :
    cutNode bare = (node, domain) ↔
      (∀ part, node = some part → '@' ∉ part.toList) ∧ (node = none → '@' ∉ domain.toList) ∧
        bare = node.elim "" (· ++ "@") ++ domain := by
  cases node with
  | none =>
      have hcut : cutNode bare = (none, domain) ↔ cutFirst '@' bare = none ∧ bare = domain := by
        rw [cutNode]
        cases cutFirst '@' bare <;> simp
      rw [hcut, cutFirst_eq_none_iff, Option.elim_none, String.empty_append]
      simp only [reduceCtorEq, false_implies, implies_true, true_and, forall_const]
      exact and_congr_left fun hbare => by rw [hbare]
  | some node =>
      have hcut : cutNode bare = (some node, domain) ↔
          cutFirst '@' bare = some (node, domain) := by
        rw [cutNode]
        cases cutFirst '@' bare <;> simp [Prod.ext_iff]
      rw [hcut, cutFirst_eq_some_iff (show "@".toList = ['@'] from rfl)]
      simp

/-- **Cutting and writing.**  A text is cut into the parts of the legible address of which it is
written. -/
theorem cut_eq_iff {text : String} : cut text = a ↔ a.Legible ∧ text = render a := by
  obtain ⟨node, domain, resource⟩ := a
  have hcut : cut text = ⟨node, domain, resource⟩ ↔
      ∃ bare, cutResource text = (bare, resource) ∧ cutNode bare = (node, domain) := by
    simp only [cut, mk.injEq]
    constructor
    · rintro ⟨rfl, rfl, rfl⟩
      exact ⟨(cutResource text).1, (Prod.eta _).symm, (Prod.eta _).symm⟩
    · rintro ⟨bare, htext, hbare⟩
      simp [htext, hbare]
  have hslash : '/' ∉ (node.elim "" (· ++ "@") ++ domain).toList ↔
      (∀ part, node = some part → '/' ∉ part.toList) ∧ '/' ∉ domain.toList := by
    cases node <;> simp
  rw [hcut]
  constructor
  · rintro ⟨bare, htext, hbare⟩
    obtain ⟨hplain, rfl⟩ := cutResource_eq_iff.mp htext
    obtain ⟨hnode, hnodeless, rfl⟩ := cutNode_eq_iff.mp hbare
    obtain ⟨hpart, hdomain⟩ := hslash.mp hplain
    exact ⟨⟨fun part h => ⟨hnode part h, hpart part h⟩, hdomain, hnodeless⟩, rfl⟩
  · rintro ⟨h, rfl⟩
    have hplain := hslash.mpr ⟨fun part hpart => (h.node part hpart).2, h.domain⟩
    exact ⟨_, cutResource_eq_iff.mpr ⟨hplain, rfl⟩,
      cutNode_eq_iff.mpr ⟨fun part hpart => (h.node part hpart).1, h.nodeless, rfl⟩⟩

/-! ### Dropping empty parts -/

/-- The address without its empty parts. -/
def pruned (a : Address) : Address :=
  { a with node := a.node.bind nonempty, resource := a.resource.bind nonempty }

/-- **Reading is cutting and pruning**, unless there is no domain. -/
theorem parse_eq (s : String) :
    parse s =
      if trim s = "" then .error .empty
      else if (cut (trim s)).domain = "" then .error (.missingDomain (trim s))
      else .ok (cut (trim s)).pruned := by
  rcases hslash : cutFirst '/' (trim s) with _ | ⟨bare, resource⟩
  · rcases hat : cutFirst '@' (trim s) with _ | ⟨node, domain⟩ <;>
      simp only [parse, cut, cutResource, cutNode, pruned, hslash, hat, Option.bind]
  · rcases hat : cutFirst '@' bare with _ | ⟨node, domain⟩ <;>
      simp only [parse, cut, cutResource, cutNode, pruned, hslash, hat, Option.bind]

theorem parse_eq_ok_iff {s : String} :
    parse s = .ok a ↔ (cut (trim s)).domain ≠ "" ∧ (cut (trim s)).pruned = a := by
  rw [parse_eq]
  split
  · rename_i hempty
    have hcut : (cut "").domain = "" := by decide +kernel
    simp [hempty, hcut]
  · split <;> simp_all

/-- The separator of a part that is dropped. -/
def dropped (separator : Char) (part : Option String) : List Char :=
  if part = some "" then [separator] else []

theorem dropped_eq_nil_iff {separator : Char} {part : Option String} :
    dropped separator part = [] ↔ part ≠ some "" := by
  simp [dropped]

/-- A part is kept where it is not empty. -/
theorem bind_nonempty_eq_some_iff {part : Option String} {text : String} :
    part.bind nonempty = some text ↔ part = some text ∧ text ≠ "" := by
  cases part with
  | none => simp
  | some kept =>
      by_cases h : kept = ""
      · simp [nonempty, h, eq_comm]
      · have hkept : kept = text → text ≠ "" := fun e => e ▸ h
        simpa [nonempty, h] using hkept

theorem pruned_eq_self_iff : a.pruned = a ↔ a.node ≠ some "" ∧ a.resource ≠ some "" := by
  have hpart : ∀ part : Option String, part.bind nonempty = part ↔ part ≠ some "" := by
    intro part
    cases part with
    | none => simp
    | some text => by_cases h : text = "" <;> simp [nonempty, h]
  rw [← hpart, ← hpart]
  obtain ⟨node, domain, resource⟩ := a
  simp [pruned]

/-- What is written of an address is what is written of it without its empty parts, between the
separators of these parts. -/
theorem toList_render_eq (a : Address) :
    (render a).toList =
      dropped '@' a.node ++ (render a.pruned).toList ++ dropped '/' a.resource := by
  obtain ⟨node, domain, resource⟩ := a
  have hnode : (node.elim "" (· ++ "@")).toList =
      dropped '@' node ++ ((node.bind nonempty).elim "" (· ++ "@")).toList := by
    cases node with
    | none => simp [dropped]
    | some text => by_cases h : text = "" <;> simp [dropped, nonempty, h]
  have hresource : (resource.elim "" ("/" ++ ·)).toList =
      ((resource.bind nonempty).elim "" ("/" ++ ·)).toList ++ dropped '/' resource := by
    cases resource with
    | none => simp [dropped]
    | some text => by_cases h : text = "" <;> simp [dropped, nonempty, h]
  simp only [render, pruned, String.toList_append, hnode, hresource, List.append_assoc]

/-! ### Reading what was written -/

/-- An address that is read back is legible, has a domain and no empty part, and nothing is trimmed
from what is written of it. -/
theorem parse_render_iff :
    parse (render a) = .ok a ↔
      a.Legible ∧ a.domain ≠ "" ∧ a.pruned = a ∧ trim (render a) = render a := by
  rw [parse_eq_ok_iff]
  constructor
  · rintro ⟨hdomain, hpruned⟩
    generalize hraw : cut (trim (render a)) = raw at hdomain hpruned
    obtain ⟨hlegible, htrim⟩ := cut_eq_iff.mp hraw
    -- trimming only takes characters away, and dropping parts only adds them back
    have hwritten : (trim (render a)).toList =
        dropped '@' raw.node ++ (render a).toList ++ dropped '/' raw.resource := by
      rw [htrim, toList_render_eq raw, hpruned]
    have hshorter : (trim (render a)).toList.length ≤ (render a).toList.length := by
      rw [toList_trim]
      exact (trimChars_sublist _).length_le
    rw [hwritten, List.length_append, List.length_append] at hshorter
    have hnode : dropped '@' raw.node = [] := List.length_eq_zero_iff.mp (by omega)
    have hresource : dropped '/' raw.resource = [] := List.length_eq_zero_iff.mp (by omega)
    have hself : raw.pruned = raw :=
      pruned_eq_self_iff.mpr ⟨dropped_eq_nil_iff.mp hnode, dropped_eq_nil_iff.mp hresource⟩
    obtain rfl : raw = a := hself.symm.trans hpruned
    exact ⟨hlegible, hdomain, hself, htrim⟩
  · rintro ⟨hlegible, hdomain, hpruned, htrim⟩
    rw [cut_eq_iff.mpr ⟨hlegible, htrim⟩]
    exact ⟨hdomain, hpruned⟩

/-- **Which addresses are read back.**  An address, built in whatever way, is read back from what is
written of it exactly when its node is missing, or is not empty and has neither separator; its domain
is not empty and has no slash, and no at-sign either if there is no node; its resource is missing or
not empty; and what is written neither starts nor ends with a blank. -/
theorem parse_render_eq_ok_iff (a : Address) :
    parse (render a) = .ok a ↔
      (∀ node, a.node = some node → node ≠ "" ∧ '@' ∉ node.toList ∧ '/' ∉ node.toList) ∧
      (a.domain ≠ "" ∧ '/' ∉ a.domain.toList ∧ (a.node = none → '@' ∉ a.domain.toList)) ∧
      (∀ resource, a.resource = some resource → resource ≠ "") ∧
      (∀ c, (render a).toList.head? = some c → isBlank c = false) ∧
      (∀ c, (render a).toList.getLast? = some c → isBlank c = false) := by
  rw [parse_render_iff, pruned_eq_self_iff, trim_eq_self_iff]
  constructor
  · rintro ⟨h, hdomain, ⟨hnode, hresource⟩, hfirst, hlast⟩
    refine ⟨fun node hsome => ⟨fun e => hnode (e ▸ hsome), h.node node hsome⟩,
      ⟨hdomain, h.domain, h.nodeless⟩, fun resource hsome e => hresource (e ▸ hsome), hfirst, hlast⟩
  · rintro ⟨hnode, ⟨hdomain, hslash, hnodeless⟩, hresource, hfirst, hlast⟩
    exact ⟨⟨fun node hsome => (hnode node hsome).2, hslash, hnodeless⟩, hdomain,
      ⟨fun hsome => (hnode "" hsome).1 rfl, fun hsome => hresource "" hsome rfl⟩, hfirst, hlast⟩

/-! ### Reading again what was read -/

/-- Every address that was read is read back from what is written of it. -/
def Stable : Prop := ∀ (s : String) (a : Address), parse s = .ok a → parse (render a) = .ok a

/-- **`Stable` does not hold.**  The node of a text that starts with two at-signs is empty and is
dropped; of the domain, which starts with the second one, another empty node is cut. -/
theorem not_stable : ¬ Stable := by
  intro h
  have hread : parse "@@b" = .ok { domain := "@b" } := by decide +kernel
  have hagain : parse (render { domain := "@b" }) = .ok { domain := "b" } := by decide +kernel
  have hstable := h "@@b" { domain := "@b" } hread
  rw [hagain] at hstable
  revert hstable
  decide +kernel

/-- What is written starts with the node, or with the at-sign behind an empty one, or with the domain. -/
theorem head?_render (h : a.domain ≠ "") :
    (render a).toList.head? =
      a.node.elim a.domain.toList.head? fun node => (node.toList ++ ['@']).head? := by
  have hdomain : a.domain.toList ≠ [] := fun e => h (String.toList_inj.mp e)
  cases hnode : a.node with
  | none => simp [render, hnode, List.head?_eq_some_head hdomain]
  | some node => simp [render, hnode]

/-- What is written ends with the resource, or with the slash before an empty one, or with the
domain. -/
theorem getLast?_render (h : a.domain ≠ "") :
    (render a).toList.getLast? =
      a.resource.elim a.domain.toList.getLast? fun resource => ('/' :: resource.toList).getLast? := by
  have hdomain : a.domain.toList ≠ [] := fun e => h (String.toList_inj.mp e)
  cases hresource : a.resource with
  | none => simp [render, hresource, List.getLast?_eq_some_getLast hdomain]
  | some resource => simp [render, hresource, List.getLast?_cons]

/-- Without its empty parts, what is written starts with the domain where an at-sign was dropped in
front of it. -/
theorem head?_render_pruned (h : a.domain ≠ "") :
    (render a.pruned).toList.head? =
      if a.node = some "" then a.domain.toList.head? else (render a).toList.head? := by
  rw [head?_render h, head?_render (a := a.pruned) h]
  cases hnode : a.node with
  | none => simp [pruned, hnode]
  | some node => by_cases hempty : node = "" <;> simp [pruned, nonempty, hnode, hempty]

/-- Without its empty parts, what is written ends with the domain where a slash was dropped behind
it. -/
theorem getLast?_render_pruned (h : a.domain ≠ "") :
    (render a.pruned).toList.getLast? =
      if a.resource = some "" then a.domain.toList.getLast? else (render a).toList.getLast? := by
  rw [getLast?_render h, getLast?_render (a := a.pruned) h]
  cases hresource : a.resource with
  | none => simp [pruned, hresource]
  | some resource => by_cases hempty : resource = "" <;> simp [pruned, nonempty, hresource, hempty]

/-- What is written of a legible address starts with an at-sign when its node is empty. -/
theorem head?_render_eq_at_iff (hlegible : a.Legible) (h : a.domain ≠ "") :
    (render a).toList.head? = some '@' ↔ a.node = some "" := by
  rw [head?_render h]
  cases hnode : a.node with
  | none =>
      refine iff_of_false (fun hhead => ?_) (by simp)
      exact hlegible.nodeless hnode (List.mem_of_mem_head? hhead)
  | some node =>
      by_cases hempty : node = ""
      · simp [hempty]
      · refine iff_of_false (fun hhead => ?_) (by simpa using hempty)
        have hne : node.toList ≠ [] := fun e => hempty (String.toList_inj.mp e)
        rw [Option.elim_some, List.head?_append, List.head?_eq_some_head hne, Option.some_or] at hhead
        exact (hlegible.node node hnode).1 (List.mem_of_mem_head? (List.head?_eq_some_head hne ▸ hhead))

/-- What is written of a legible address ends with a slash, and no resource is left without the empty
parts, when its resource is empty. -/
theorem getLast?_render_eq_slash_iff (hlegible : a.Legible) (h : a.domain ≠ "") :
    (render a).toList.getLast? = some '/' ∧ a.pruned.resource = none ↔ a.resource = some "" := by
  rw [getLast?_render h]
  cases hresource : a.resource with
  | none =>
      refine iff_of_false (fun ⟨hlast, _⟩ => ?_) (by simp)
      exact hlegible.domain (List.mem_of_getLast? hlast)
  | some resource =>
      by_cases hempty : resource = "" <;> simp [pruned, nonempty, hresource, hempty]

theorem legible_pruned_iff (h : a.Legible) :
    a.pruned.Legible ↔ (a.node = some "" → '@' ∉ a.domain.toList) := by
  constructor
  · intro hpruned hnode
    exact hpruned.nodeless (by simp [pruned, nonempty, hnode])
  · intro hat
    refine ⟨fun node hnode => h.node node (bind_nonempty_eq_some_iff.mp hnode).1, h.domain,
      fun hnone => ?_⟩
    -- the node was missing, or it was empty and is dropped
    cases hnode : a.node with
    | none => exact h.nodeless hnode
    | some node =>
        by_cases hempty : node = ""
        · exact hat (hempty ▸ hnode)
        · simp [pruned, nonempty, hnode, hempty] at hnone

theorem pruned_pruned (a : Address) : a.pruned.pruned = a.pruned := by
  have hpart : ∀ part : Option String, part.bind nonempty ≠ some "" :=
    fun _ h => (bind_nonempty_eq_some_iff.mp h).2 rfl
  exact pruned_eq_self_iff.mpr ⟨hpart a.node, hpart a.resource⟩

/-- **Which addresses are read again.**  Of an address that was read from a text the same address is
read again exactly when neither end of the domain is uncovered to harm: if the trimmed text starts with
an at-sign, so that an empty node is dropped, then the domain has no at-sign and does not start with a
blank; and if the trimmed text ends with a slash and there is no resource, so that an empty one is
dropped, then the domain does not end with a blank. -/
theorem reread_iff {s : String} (h : parse s = .ok a) :
    parse (render a) = .ok a ↔
      ((trim s).toList.head? = some '@' →
        '@' ∉ a.domain.toList ∧ ∀ c, a.domain.toList.head? = some c → isBlank c = false) ∧
      ((trim s).toList.getLast? = some '/' ∧ a.resource = none →
        ∀ c, a.domain.toList.getLast? = some c → isBlank c = false) := by
  obtain ⟨hdomain, hpruned⟩ := parse_eq_ok_iff.mp h
  generalize hraw : cut (trim s) = raw at hdomain hpruned
  obtain ⟨hlegible, htrim⟩ := cut_eq_iff.mp hraw
  subst hpruned
  -- neither end of the trimmed text is blank
  have hends := trim_eq_self_iff.mp (trim_trim s)
  rw [htrim] at hends ⊢
  rw [parse_render_iff, trim_eq_self_iff, legible_pruned_iff hlegible, head?_render_pruned hdomain,
    getLast?_render_pruned hdomain, head?_render_eq_at_iff hlegible hdomain,
    getLast?_render_eq_slash_iff hlegible hdomain]
  have hfront : (∀ c, (if raw.node = some "" then raw.domain.toList.head?
        else (render raw).toList.head?) = some c → isBlank c = false) ↔
      (raw.node = some "" → ∀ c, raw.domain.toList.head? = some c → isBlank c = false) := by
    split <;> simp_all
  have hback : (∀ c, (if raw.resource = some "" then raw.domain.toList.getLast?
        else (render raw).toList.getLast?) = some c → isBlank c = false) ↔
      (raw.resource = some "" → ∀ c, raw.domain.toList.getLast? = some c → isBlank c = false) := by
    split <;> simp_all
  rw [hfront, hback, imp_and]
  constructor
  · rintro ⟨hat, -, -, hfirst, hlast⟩
    exact ⟨⟨hat, hfirst⟩, hlast⟩
  · rintro ⟨⟨hat, hfirst⟩, hlast⟩
    exact ⟨hat, hdomain, pruned_pruned raw, hfirst, hlast⟩

/-- An address of which both parts were dropped is read again, and one whose domain ends with a blank
in front of a dropped resource is not. -/
theorem reread_without_dropped_parts :
    (parse " @b/ " = .ok { domain := "b" } ∧
      parse (render { domain := "b" }) = .ok { domain := "b" }) ∧
    (parse "a@b /" = .ok { node := some "a", domain := "b " } ∧
      parse (render { node := some "a", domain := "b " }) ≠
        .ok { node := some "a", domain := "b " }) := by
  have hdropped : parse " @b/ " = .ok { domain := "b" } := by decide +kernel
  have hblank : parse "a@b /" = .ok { node := some "a", domain := "b " } := by decide +kernel
  refine ⟨⟨hdropped, (reread_iff hdropped).mpr ⟨fun _ => ⟨by decide, ?_⟩, fun _ => ?_⟩⟩,
    hblank, fun hread => ?_⟩
  · rintro c ⟨⟩
    decide
  · rintro c ⟨⟩
    decide
  · have hlast := ((reread_iff hblank).mp hread).2 (by decide +kernel) ' ' (by decide)
    cases hlast

end TrafficGate.Address
