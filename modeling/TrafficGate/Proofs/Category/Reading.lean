import TrafficGate.Proofs.Category.Selection
import TrafficGate.Proofs.Text.Tokens

/-!
# Category — Reading

What a stored text selects.  It is read token by token, and the first wildcard ends the reading.  What
it selects is nevertheless a matter of which tokens occur in it, wherever they stand.

* `readTokens_wildcard`, `readTokens_known`, `readTokens_unknown`: what one token does.
* `readTokens_fst`, `readTokens_snd`: what a list of tokens selects on top of what was read before, and
  which of them are told of.
* `ofProperty_fst`: a text selects the categories that occur in it, collapsed.
* `ofProperty_property`: the stored form of a selection is read back as the collapsed selection,
  without an unknown token.  It needs every category's token to be a token of a list with commas
  (`Category.Storable`).
* `text_selects_what_occurs`: **order, repetition, blanks and unknown tokens do not matter**, and
  texts with a comma between them select what they select together.
-/

namespace TrafficGate

namespace Category

variable {C : Type} [DecidableEq C] [Category C]

/-- Every category of the enumeration is stored under a text that a list with commas can hold. -/
class Storable (C : Type) [DecidableEq C] [Category C] : Prop where
  isToken (c : C) : Text.IsToken (Category.token c)

instance : Storable TrafficCategory := ⟨fun c => by cases c <;> constructor <;> decide⟩

instance : Storable PacketCategory := ⟨fun c => by cases c <;> constructor <;> decide⟩

instance : Storable RoomCategory := ⟨fun c => by cases c <;> constructor <;> decide⟩

/-- The categories are stored under tokens of a list, and the wildcard under `All`. -/
class Conventional (C : Type) [DecidableEq C] [Category C] : Prop extends Storable C where
  token_all : token (all : C) = "All"

instance : Conventional TrafficCategory where token_all := rfl

instance : Conventional PacketCategory where token_all := rfl

instance : Conventional RoomCategory where token_all := rfl

variable (C) in
/-- The texts under which the members are stored. -/
def tokens : List String := (members (C := C)).map token

theorem mem_tokens_iff {text : String} : text ∈ tokens C ↔ ∃ c : C, token c = text := by
  simp only [tokens, List.mem_map, mem_members, true_and]

theorem not_mem_tokens_iff {text : String} : text ∉ tokens C ↔ ∀ c : C, token c ≠ text := by
  rw [mem_tokens_iff, not_exists]

theorem token_inj {a b : C} : token a = token b ↔ a = b := ⟨token_injective, congrArg token⟩

theorem parse?_eq_none_iff {text : String} : (parse? text : Option C) = none ↔ text ∉ tokens C := by
  rw [not_mem_tokens_iff, Option.eq_none_iff_forall_ne_some]
  exact forall_congr' fun _ => not_congr parse?_eq_some_iff

/-- A text is the token of the wildcard, that of another member, or unknown. -/
theorem token_cases (text : String) :
    text = token (all : C) ∨ (∃ c : C, c ≠ all ∧ text = token c) ∨ text ∉ tokens C := by
  by_cases h : text ∈ tokens C
  · obtain ⟨c, rfl⟩ := mem_tokens_iff.mp h
    by_cases hc : c = all
    · exact .inl (congrArg token hc)
    · exact .inr (.inl ⟨c, hc, rfl⟩)
  · exact .inr (.inr h)

end Category

namespace Selection

open Category (token)

variable {C : Type} [DecidableEq C] [Category C]

/-! ### What occurs -/

/-- The categories whose tokens are among the texts. -/
def occurring (texts : List String) : Selection C := ofPredicate fun c => token c ∈ texts

@[simp] theorem mem_occurring {texts : List String} {c : C} :
    c ∈ occurring texts ↔ token c ∈ texts := by
  rw [occurring, mem_ofPredicate, decide_eq_true_iff]

theorem occurring_append (front back : List String) :
    (occurring (front ++ back) : Selection C) = (occurring front).union (occurring back) :=
  ext_mem fun c => by simp only [mem_union, mem_occurring, List.mem_append]

/-! ### One token -/

section

variable (read : Selection C) (rest : List String)

theorem readTokens_wildcard :
    readTokens read (token (Category.all : C) :: rest) = (wildcard, []) := by
  simp only [readTokens, Category.parse?_token, if_pos]

theorem readTokens_known {c : C} (h : c ≠ Category.all) :
    readTokens read (token c :: rest) = readTokens (read.insert c) rest := by
  simp only [readTokens, Category.parse?_token, if_neg h]

theorem readTokens_unknown {text : String} (h : text ∉ Category.tokens C) :
    readTokens read (text :: rest) =
      ((readTokens read rest).1, ⟨Category.kind C, text⟩ :: (readTokens read rest).2) := by
  simp only [readTokens, Category.parse?_eq_none_iff.mpr h]

end

/-! ### A list of tokens -/

/-- A wildcard anywhere selects the wildcard alone; without one, what occurs is added to what was read
before. -/
theorem readTokens_fst (read : Selection C) (texts : List String) :
    (readTokens read texts).1 =
      if token (Category.all : C) ∈ texts then wildcard else read.union (occurring texts) := by
  induction texts generalizing read with
  | nil =>
      refine ext_mem fun c => ?_
      simp [readTokens]
  | cons text rest ih =>
      rcases Category.token_cases (C := C) text with rfl | ⟨c, hc, rfl⟩ | hunknown
      · rw [readTokens_wildcard, if_pos List.mem_cons_self]
      · have hall : token (Category.all : C) ≠ token c := mt Category.token_inj.mp hc.symm
        rw [readTokens_known read rest hc, ih]
        refine if_congr (List.mem_cons.trans (or_iff_right hall)).symm rfl (ext_mem fun d => ?_)
        rw [mem_union, mem_union, mem_insert, mem_occurring, mem_occurring, List.mem_cons,
          Category.token_inj, or_assoc, or_left_comm]
      · have hne : ∀ d : C, token d ≠ text := Category.not_mem_tokens_iff.mp hunknown
        rw [readTokens_unknown read rest hunknown, ih]
        refine if_congr (List.mem_cons.trans (or_iff_right (hne _))).symm rfl (ext_mem fun d => ?_)
        rw [mem_union, mem_union, mem_occurring, mem_occurring, List.mem_cons,
          or_iff_right (hne d)]

/-- The unknown tokens in front of the first wildcard are told of, in order. -/
theorem readTokens_snd (read : Selection C) (texts : List String) :
    (readTokens read texts).2 =
      ((texts.takeWhile (· ≠ token (Category.all : C))).filter (· ∉ Category.tokens C)).map
        (⟨Category.kind C, ·⟩) := by
  induction texts generalizing read with
  | nil => rfl
  | cons text rest ih =>
      rcases Category.token_cases (C := C) text with rfl | ⟨c, hc, rfl⟩ | hunknown
      · rw [readTokens_wildcard, List.takeWhile_cons_of_neg (by simp)]
        rfl
      · have hall : token c ≠ token (Category.all : C) := mt Category.token_inj.mp hc
        have hknown : token c ∈ Category.tokens C := Category.mem_tokens_iff.mpr ⟨c, rfl⟩
        rw [readTokens_known read rest hc, ih, List.takeWhile_cons_of_pos (by simpa using hall),
          List.filter_cons_of_neg (by simpa using hknown)]
      · have hall : text ≠ token (Category.all : C) :=
          (Category.not_mem_tokens_iff.mp hunknown _).symm
        rw [readTokens_unknown read rest hunknown, ih,
          List.takeWhile_cons_of_pos (by simpa using hall),
          List.filter_cons_of_pos (by simpa using hunknown), List.map_cons]

/-! ### A text -/

/-- A text selects the categories that occur in it, collapsed. -/
theorem ofProperty_fst (raw : String) :
    (ofProperty (C := C) raw).1 = (occurring (Text.tokens raw)).collapse := by
  have hnew : (empty : Selection C).union (occurring (Text.tokens raw)) =
      occurring (Text.tokens raw) :=
    ext_mem fun c => by rw [mem_union, or_iff_right not_mem_empty]
  rw [ofProperty, readTokens_fst, hnew, collapse]
  exact if_congr mem_occurring.symm rfl rfl

theorem ofProperty_snd (raw : String) :
    (ofProperty (C := C) raw).2 =
      (((Text.tokens raw).takeWhile (· ≠ token (Category.all : C))).filter
        (· ∉ Category.tokens C)).map (⟨Category.kind C, ·⟩) :=
  readTokens_snd empty (Text.tokens raw)

/-- Texts in which the same categories occur select the same. -/
theorem ofProperty_congr {raw other : String}
    (h : ∀ c : C, token c ∈ Text.tokens other ↔ token c ∈ Text.tokens raw) :
    (ofProperty (C := C) other).1 = (ofProperty raw).1 := by
  rw [ofProperty_fst, ofProperty_fst]
  exact congrArg collapse (ext_mem fun c => by rw [mem_occurring, mem_occurring, h])

theorem ofProperty_append (raw other : String) :
    (ofProperty (C := C) (raw ++ "," ++ other)).1 =
      ((ofProperty raw).1.union (ofProperty other).1).collapse := by
  rw [ofProperty_fst, ofProperty_fst, ofProperty_fst, collapse_union_collapse, ← occurring_append,
    Text.tokens_append]

/-! ### The stored form -/

theorem toList_wildcard : (wildcard : Selection C).toList = [Category.all] := by
  have h : (wildcard : Selection C) =
      ⟨[Category.all], List.singleton_sublist.mpr (Category.mem_members _)⟩ :=
    ext_mem fun _ => mem_wildcard.trans List.mem_singleton.symm
  rw [h]

/-- The stored form lists what the selection is collapsed to. -/
theorem property_eq_joined (s : Selection C) :
    s.property = Text.joined "," (s.collapse.toList.map token) := by
  by_cases h : Category.all ∈ s
  · rw [property, if_pos h, collapse_of_mem h, toList_wildcard, List.map_singleton, Text.joined,
      String.intercalate_singleton]
  · rw [property, if_neg h, collapse_of_not_mem h]

theorem occurring_map_token (s : Selection C) : occurring (s.toList.map token) = s := by
  refine ext_mem fun c => ?_
  rw [mem_occurring, List.mem_map]
  constructor
  · rintro ⟨d, hd, htoken⟩
    exact Category.token_injective htoken ▸ hd
  · exact fun hc => ⟨c, hc, rfl⟩

theorem ofProperty_empty : ofProperty "" = ((empty : Selection C), []) := rfl

section

variable [Category.Storable C]

theorem tokens_property (s : Selection C) :
    Text.tokens s.property = s.collapse.toList.map token := by
  rw [property_eq_joined]
  refine Text.tokens_joined fun text htext => ?_
  obtain ⟨c, -, rfl⟩ := List.mem_map.mp htext
  exact Category.Storable.isToken c

/-- **The stored form is read back** as the collapsed selection, and every token is known. -/
theorem ofProperty_property (s : Selection C) : ofProperty s.property = (s.collapse, []) := by
  refine Prod.ext ?_ ?_
  · rw [ofProperty_fst, tokens_property, occurring_map_token, collapse_collapse]
  · rw [ofProperty_snd, tokens_property, List.map_eq_nil_iff, List.filter_eq_nil_iff]
    intro text htext
    obtain ⟨c, -, rfl⟩ := List.mem_map.mp ((List.takeWhile_sublist _).subset htext)
    simpa using Category.mem_tokens_iff.mpr ⟨c, rfl⟩

/-- Only the empty selection has no stored form. -/
theorem property_eq_empty_iff {s : Selection C} : s.property = "" ↔ s = empty := by
  constructor
  · intro h
    have hread := ofProperty_property s
    rw [h, ofProperty_empty] at hread
    exact collapse_eq_empty_iff.mp (congrArg Prod.fst hread).symm
  · rintro rfl
    rw [property, if_neg not_mem_empty]
    rfl

/-- Reading what was read, in its stored form, gives the same once more. -/
theorem ofProperty_property_ofProperty (raw : String) :
    ofProperty (ofProperty (C := C) raw).1.property = ((ofProperty (C := C) raw).1, []) := by
  rw [ofProperty_property, ofProperty_fst, collapse_collapse]

end

/-! ### Any text -/

/-- **A text selects what occurs in it.**  Let any text be read: the pieces between its commas are
trimmed, and those that are left empty are passed over.

* If `All` is one of them, wherever it stands, the wildcard alone is selected; otherwise exactly the
  categories whose tokens are among them.
* So texts in which the same tokens of categories occur select the same, whatever else is in them, and
  however often and in which order they occur.
* Two texts with a comma between them select what they select together, collapsed.
* The stored form of what was read is read as the same selection, and nothing in it is unknown.
* One warning is told for each unknown piece in front of the first `All`, in their order. -/
theorem text_selects_what_occurs [Category.Conventional C] (raw : String) :
    let pieces := Text.tokens raw
    let selected : Selection C := (ofProperty raw).1
    let unknown : List UnknownCategory := (ofProperty (C := C) raw).2
    ("All" ∈ pieces → selected = wildcard) ∧
    ("All" ∉ pieces → ∀ c, c ∈ selected ↔ token c ∈ pieces) ∧
    (∀ other, (∀ c : C, token c ∈ Text.tokens other ↔ token c ∈ pieces) →
      (ofProperty other).1 = selected) ∧
    (∀ other, (ofProperty (raw ++ "," ++ other)).1 =
      (selected.union (ofProperty other).1).collapse) ∧
    ofProperty selected.property = (selected, []) ∧
    unknown.map UnknownCategory.warning =
      ((pieces.takeWhile (· ≠ "All")).filter (· ∉ Category.tokens C)).map
        fun piece => UnknownCategory.warning ⟨Category.kind C, piece⟩ := by
  intro pieces selected unknown
  have hall : Category.all ∈ (occurring pieces : Selection C) ↔ "All" ∈ pieces := by
    rw [mem_occurring, Category.Conventional.token_all]
  have hselected : selected = (occurring pieces).collapse := ofProperty_fst raw
  refine ⟨fun h => ?_, fun h c => ?_, fun other h => ofProperty_congr h, ofProperty_append raw,
    ofProperty_property_ofProperty raw, ?_⟩
  · rw [hselected, collapse_of_mem (hall.mpr h)]
  · rw [hselected, collapse_of_not_mem (mt hall.mp h), mem_occurring]
  · have hunknown : unknown = ((pieces.takeWhile (· ≠ token (Category.all : C))).filter
        (· ∉ Category.tokens C)).map (⟨Category.kind C, ·⟩) := ofProperty_snd raw
    rw [hunknown, Category.Conventional.token_all, List.map_map]
    rfl

/-- Texts with blanks, empty pieces, tokens that stand twice and tokens of no category: one without the
wildcard, which selects what another one with the same categories selects; one with the wildcard between
other tokens; and two with a comma between them. -/
theorem texts_of_three_enumerations :
    let traffic := " Incoming, ,Bogus,Outgoing ,Incoming"
    let packets := "IQ,\u00a0Iq ,\tAll, Message,Nope"
    ("All" ∉ Text.tokens traffic ∧
      ∀ c : TrafficCategory, c ∈ (ofProperty traffic).1 ↔ token c ∈ ["Incoming", "Outgoing"]) ∧
    ((∀ c : TrafficCategory,
        token c ∈ Text.tokens "Outgoing,Incoming" ↔ token c ∈ Text.tokens traffic) ∧
      (ofProperty (C := TrafficCategory) "Outgoing,Incoming").1 = (ofProperty traffic).1) ∧
    ("All" ∈ Text.tokens packets ∧ (ofProperty (C := PacketCategory) packets).1 = wildcard ∧
      (ofProperty (C := PacketCategory) packets).2.map UnknownCategory.warning =
        [UnknownCategory.warning ⟨"packet", "Iq"⟩]) ∧
    (ofProperty (C := RoomCategory) ("BeforeLeft, x" ++ "," ++ "BeforeJoined,,BeforeLeft")).1 =
      ofList [.joined, .left] := by
  intro traffic packets
  have hnone : "All" ∉ Text.tokens traffic := by decide +kernel
  have hall : "All" ∈ Text.tokens packets := by decide +kernel
  have hsame : ∀ c : TrafficCategory,
      token c ∈ Text.tokens "Outgoing,Incoming" ↔ token c ∈ Text.tokens traffic := by
    intro c
    cases c <;> decide +kernel
  obtain ⟨-, hselected, hother, -⟩ := text_selects_what_occurs (C := TrafficCategory) traffic
  obtain ⟨hwildcard, -, -, -, -, hwarned⟩ := text_selects_what_occurs (C := PacketCategory) packets
  obtain ⟨-, -, -, htogether, -⟩ := text_selects_what_occurs (C := RoomCategory) "BeforeLeft, x"
  refine ⟨⟨hnone, fun c => (hselected hnone c).trans ?_⟩, ⟨hsame, hother _ hsame⟩,
    ⟨hall, hwildcard hall, hwarned.trans ?_⟩, (htogether _).trans ?_⟩
  · cases c <;> decide +kernel
  · decide +kernel
  · decide +kernel

end Selection

end TrafficGate
