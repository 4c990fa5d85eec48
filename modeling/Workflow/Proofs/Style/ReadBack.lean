import Mathlib.Data.List.TFAE
import Mathlib.Tactic.TFAE
import Workflow.Proofs.Style.Models

/-!
# Which models are read back

The models of a workflow stand for one rule for all nodes and one for each profile, with the texts
as they are given. The stylesheet written for the models is read as these rules exactly if no value
holds a character that ends a declaration or a block, no name holds one that begins a block, and
none of them loses blanks when it is trimmed. One direction reads what was written. For the other,
every rule that is read, whatever the text is, has a selector and values of this form.
-/

namespace Workflow

open Workflow.Text

namespace Style

variable {source property value name : String} {rule : Rule}

/-- Two rules select the same nodes and declare the same, in whatever order. -/
def Rule.Agrees (rule other : Rule) : Prop :=
  rule.selector = other.selector ∧
    ∀ property, rule.declarations.get? property = other.declarations.get? property

theorem Rule.Agrees.refl (rule : Rule) : rule.Agrees rule := ⟨rfl, fun _ => rfl⟩

theorem Selector.eq_of_parse?_eq_cls {text : String} (h : parse? text = some (.cls name)) :
    text = "." ++ name := by
  unfold parse? at h
  split at h
  · cases h
  · split at h
    · cases h
    · next cs hText =>
      cases h
      rw [← String.toList_inj, hText]
      simp
    · cases h

theorem of_value_of_mem_parse (hRule : rule ∈ parse source)
    (h : rule.declarations.get? property = some value) :
    ';' ∉ value.toList ∧ '\x7d' ∉ value.toList ∧ trim value = value := by
  obtain ⟨block, hBlock, hRead⟩ := exists_block_of_mem_parse hRule
  obtain ⟨-, ⟨hTrimmed, hEnd⟩, hBrace⟩ := of_get?_rule hBlock hRead h
  exact ⟨hEnd, hBrace, hTrimmed⟩

theorem of_name_of_mem_parse (hRule : rule ∈ parse source) (h : rule.selector = .cls name) :
    '\x7b' ∉ name.toList ∧ trimEnd name = name := by
  obtain ⟨block, hBlock, hRead⟩ := exists_block_of_mem_parse hRule
  obtain ⟨selector, hSelector, rfl⟩ := Option.map_eq_some_iff.mp hRead
  have hText : trim (String.ofList block.selector) = "." ++ name :=
    Selector.eq_of_parse?_eq_cls (hSelector.trans (congrArg some h))
  constructor
  · intro hBrace
    have hInfix : ("." ++ name).toList <:+: block.selector := by
      rw [← hText, trim, String.toList_ofList, String.toList_ofList]
      exact trimChars_isInfix _
    refine (notMem_of_mem_blocks hBlock).1 (hInfix.subset ?_)
    rw [String.toList_append]
    exact List.mem_append_right _ hBrace
  · have hTwice : "." ++ trimEnd name = "." ++ name := by
      rw [← trim_dot_append, ← hText, trim_trim]
    rw [← String.toList_inj, String.toList_append, String.toList_append,
      List.append_cancel_left_eq, String.toList_inj] at hTwice
    exact hTwice

end Style

namespace Models

open Style

variable {m : Models} {rules : List Rule}

/-- The rule of a selector with fields as they are given, if there are any. -/
def meantRule? (selector : Selector) (fields : List (String × String)) : Option Rule :=
  if fields = [] then none else some ⟨selector, Table.ofList fields⟩

/-- The rules that the models stand for: the default for all nodes, and every profile that gives
something for the class of its name. -/
def meantRules (m : Models) : List Rule :=
  (meantRule? .all (fields m.default?)).toList ++ m.profiles.entries.filterMap fun entry =>
    meantRule? (.cls entry.1) (fields entry.2.value?)

def writtenValues (m : Models) : List String :=
  (fields m.default? ++ m.profiles.entries.flatMap fun entry => fields entry.2.value?).map Prod.snd

def writtenNames (m : Models) : List String :=
  (m.profiles.entries.filter fun entry => fields entry.2.value? ≠ []).map Prod.fst

/-- No value ends its declaration or its block, no name begins a block, and there are no blanks to
be lost around a value or behind a name. -/
structure IsReadable (m : Models) : Prop where
  values : ∀ value ∈ m.writtenValues,
    ';' ∉ value.toList ∧ '\x7d' ∉ value.toList ∧ trim value = value
  names : ∀ name ∈ m.writtenNames, '\x7b' ∉ name.toList ∧ trimEnd name = name

theorem mem_writtenValues {value : String} :
    value ∈ m.writtenValues ↔ ∃ property,
      (property, value) ∈ fields m.default? ∨
        ∃ entry ∈ m.profiles.entries, (property, value) ∈ fields entry.2.value? := by
  simp only [writtenValues, List.mem_map, List.mem_append, List.mem_flatMap]
  constructor
  · rintro ⟨⟨property, _⟩, hField, rfl⟩
    exact ⟨property, hField⟩
  · rintro ⟨property, hField⟩
    exact ⟨(property, value), hField, rfl⟩

theorem mem_writtenNames {name : String} :
    name ∈ m.writtenNames ↔
      ∃ profile, (name, profile) ∈ m.profiles.entries ∧ fields profile.value? ≠ [] := by
  simp only [writtenNames, List.mem_map, List.mem_filter, decide_eq_true_eq]
  constructor
  · rintro ⟨⟨_, profile⟩, hEntry, rfl⟩
    exact ⟨profile, hEntry⟩
  · rintro ⟨profile, hEntry⟩
    exact ⟨(name, profile), hEntry, rfl⟩

theorem meantRule?_eq_some {selector : Selector} {fields : List (String × String)}
    (h : fields ≠ []) : meantRule? selector fields = some ⟨selector, Table.ofList fields⟩ :=
  if_neg h

theorem exists_meantRule_of_value {value : String} (h : value ∈ m.writtenValues) :
    ∃ rule ∈ m.meantRules, ∃ property, rule.declarations.get? property = some value := by
  have hDeclares {value? : String → Option String} {property : String}
      (hField : (property, value) ∈ fields value?) :
      (Table.ofList (fields value?)).get? property = some value := by
    obtain ⟨hProperty, hValue⟩ := mem_fields.mp hField
    rw [get?_ofList_fields hProperty, hValue]
  obtain ⟨property, hDefault | ⟨entry, hEntry, hProfile⟩⟩ := mem_writtenValues.mp h
  · refine ⟨⟨.all, _⟩, List.mem_append_left _ (Option.mem_toList.mpr ?_), property,
      hDeclares hDefault⟩
    exact meantRule?_eq_some (List.ne_nil_of_mem hDefault)
  · refine ⟨⟨.cls entry.1, _⟩, List.mem_append_right _ (List.mem_filterMap.mpr ⟨entry, hEntry, ?_⟩),
      property, hDeclares hProfile⟩
    exact meantRule?_eq_some (List.ne_nil_of_mem hProfile)

theorem exists_meantRule_of_name {name : String} (h : name ∈ m.writtenNames) :
    ∃ rule ∈ m.meantRules, rule.selector = .cls name := by
  obtain ⟨profile, hEntry, hFields⟩ := mem_writtenNames.mp h
  have hRule : meantRule? (.cls name) (fields profile.value?) = some ⟨.cls name, _⟩ :=
    meantRule?_eq_some hFields
  exact ⟨_, List.mem_append_right _ (List.mem_filterMap.mpr ⟨_, hEntry, hRule⟩), rfl⟩

/-- Whatever text gives the rules that the models stand for, the models are readable. -/
theorem isReadable_of_agrees {source : String}
    (h : List.Forall₂ Rule.Agrees (Style.parse source) m.meantRules) : m.IsReadable := by
  constructor
  · intro value hValue
    obtain ⟨meant, hMeant, property, hDeclared⟩ := exists_meantRule_of_value hValue
    obtain ⟨rule, hRule, -, hSame⟩ := Except.exists_of_mem_of_forall₂ h meant hMeant
    exact of_value_of_mem_parse hRule ((hSame property).trans hDeclared)
  · intro name hName
    obtain ⟨meant, hMeant, hSelector⟩ := exists_meantRule_of_name hName
    obtain ⟨rule, hRule, hSame, -⟩ := Except.exists_of_mem_of_forall₂ h meant hMeant
    exact of_name_of_mem_parse hRule (hSame.trans hSelector)

theorem IsReadable.of_default {property value : String} (h : m.IsReadable)
    (hProperty : property ∈ properties) (hValue : m.default? property = some value) :
    ';' ∉ value.toList ∧ '\x7d' ∉ value.toList ∧ trim value = value :=
  h.values value (mem_writtenValues.mpr ⟨property, Or.inl (mem_fields.mpr ⟨hProperty, hValue⟩)⟩)

theorem IsReadable.of_profile {property value : String} {entry : String × Profile}
    (h : m.IsReadable) (hEntry : entry ∈ m.profiles.entries) (hProperty : property ∈ properties)
    (hValue : entry.2.value? property = some value) :
    ';' ∉ value.toList ∧ '\x7d' ∉ value.toList ∧ trim value = value :=
  h.values value (mem_writtenValues.mpr
    ⟨property, Or.inr ⟨entry, hEntry, mem_fields.mpr ⟨hProperty, hValue⟩⟩⟩)

theorem IsReadable.isDelimited (h : m.IsReadable) : m.IsDelimited where
  default _ hProperty _ hValue := (h.of_default hProperty hValue).2.1
  values _ hEntry _ hProperty _ hValue := (h.of_profile hEntry hProperty hValue).2.1
  names entry hEntry hFields :=
    (h.names entry.1 (mem_writtenNames.mpr ⟨entry.2, hEntry, hFields⟩)).1

theorem ruleOf?_eq_meantRule? {selector : Selector} {value? : String → Option String}
    (h : ∀ property ∈ properties, ∀ value ∈ value? property,
      value ≠ "" ∧ ';' ∉ value.toList ∧ trim value = value) :
    ruleOf? selector (fields value?) = meantRule? selector (fields value?) := by
  have hTrimmed : fields (fun property => trimmed? (value? property)) = fields value? := by
    refine List.filterMap_congr fun property hProperty => ?_
    have hSame : trimmed? (value? property) = value? property := by
      cases hValue : value? property with
      | none => rfl
      | some value =>
        obtain ⟨hNonempty, -, hTrim⟩ := h property hProperty value hValue
        exact trimmed?_some hNonempty hTrim
    exact congrArg (Option.map (property, ·)) hSame
  unfold ruleOf? meantRule?
  split
  · rfl
  · next hFields =>
    have hRead : ∀ field ∈ fields value?, IsDeclarable field := fun field hField =>
      isDeclarable_of_mem_fields (fun p hp value hValue => (h p hp value hValue).2.1) hField
    rw [declarations_body hFields hRead, filterMap_readField?_fields, hTrimmed]

theorem IsReadable.readRules_eq (h : m.IsReadable) : m.readRules = m.meantRules := by
  have hDefault : ruleOf? .all (fields m.default?) = meantRule? .all (fields m.default?) := by
    refine ruleOf?_eq_meantRule? fun property hProperty value hValue => ?_
    obtain ⟨hEnd, -, hTrim⟩ := h.of_default hProperty hValue
    exact ⟨default?_ne_empty hValue, hEnd, hTrim⟩
  have hProfile : ∀ entry ∈ m.profiles.entries,
      ruleOf? (.cls (trimEnd entry.1)) (fields entry.2.value?) =
        meantRule? (.cls entry.1) (fields entry.2.value?) := by
    intro entry hEntry
    by_cases hFields : fields entry.2.value? = []
    · rw [ruleOf?, meantRule?, if_pos hFields, if_pos hFields]
    · have hName := h.names entry.1 (mem_writtenNames.mpr ⟨entry.2, hEntry, hFields⟩)
      rw [hName.2]
      refine ruleOf?_eq_meantRule? fun property hProperty value hValue => ?_
      obtain ⟨hEnd, -, hTrim⟩ := h.of_profile hEntry hProperty hValue
      exact ⟨given?_ne_empty hValue, hEnd, hTrim⟩
  rw [readRules, meantRules, hDefault, List.filterMap_congr hProfile]

/-- The stylesheet that is written for models is read as the rules that they stand for if and only
if the models are readable, also where the order of declarations does not count. -/
theorem parse_stylesheet_tfae (m : Models) :
    [m.IsReadable,
      Style.parse (stylesheet (some m) none) = m.meantRules,
      List.Forall₂ Rule.Agrees (Style.parse (stylesheet (some m) none)) m.meantRules].TFAE := by
  tfae_have 1 → 2 := by
    intro h
    rw [parse_stylesheet h.isDelimited, h.readRules_eq]
  tfae_have 2 → 3 := by
    intro h
    rw [h]
    exact List.forall₂_same.mpr fun rule _ => Rule.Agrees.refl rule
  tfae_have 3 → 1 := isReadable_of_agrees
  tfae_finish

/-- A colon, an opening brace of a value, and a closing brace and a leading blank of a name do no
harm. -/
example :
    let profiles := Table.ofList [(" a\x7db", { model := some "m.2" })]
    Models.IsReadable { default := some "host:m\x7b1", profiles } :=
  ⟨by decide +kernel, by decide +kernel⟩

end Models

end Workflow
