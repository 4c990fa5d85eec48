import Workflow.Lowering
import Workflow.Proofs.Style.Blocks
import Workflow.Proofs.Style.Cascade

/-!
# Model rules as they are read

The rules for the models of a workflow are written as text and read back by the stylesheet reader.
Without braces in the wrong place they are read as one rule for all nodes and one for each profile,
and a node gets the value of the last profile that one of its classes names, or the default.
-/

namespace Workflow

open Workflow.Text

/-- A text that is given and not empty. -/
def given? (text : Option String) : Option String :=
  match text with
  | none | some "" => none
  | some text => some text

/-- A text that is given and not blank, without the blanks around it. -/
def trimmed? (text : Option String) : Option String :=
  given? (text.map trim)

namespace Profile

def text? (profile : Profile) (property : String) : Option String :=
  match property with
  | "llm_model" => profile.model
  | "llm_provider" => profile.provider
  | "reasoning_effort" => profile.reasoningEffort
  | _ => none

/-- What a profile gives for a property; an empty text gives nothing. -/
def value? (profile : Profile) (property : String) : Option String :=
  given? (profile.text? property)

end Profile

namespace Models

/-- What the models of a workflow give for a property where no profile does. -/
def default? (models : Models) (property : String) : Option String :=
  if property = "llm_model" then given? models.default else none

/-- The trimmed value for a property of the last profile that gives one and that, blanks at the end
of its name aside, one of the classes names. -/
def valueFor? (models : Models) (classes : List String) (property : String) : Option String :=
  Style.last? (fun entry =>
    if trimEnd entry.1 ∈ classes then trimmed? (entry.2.value? property) else none)
    models.profiles.entries

end Models

namespace Style

theorem exists_block_of_mem_parse {source : String} {rule : Rule} (h : rule ∈ Style.parse source) :
    ∃ block ∈ blocks source.toList, block.rule? = some rule :=
  List.mem_filterMap.mp (mem_ofLevels.mp h).1

/-- What rules of a stylesheet have for a property is plain and does not end a block. -/
theorem of_last?_parse {source property value : String} {node : Graph.Node}
    (h : last? (Rule.value? node property) (Style.parse source) = some value) :
    value ≠ "" ∧ IsPlainValue value ∧ '\x7d' ∉ value.toList := by
  obtain ⟨before, rule, after, hSplit, hValue, -⟩ := exists_of_last?_eq_some h
  have hMem : rule ∈ Style.parse source := hSplit ▸ List.mem_append_right _ List.mem_cons_self
  obtain ⟨block, hBlock, hRead⟩ := exists_block_of_mem_parse hMem
  unfold Rule.value? at hValue
  split at hValue
  · exact of_get?_rule hBlock hRead hValue
  · cases hValue

/-- The properties that something is given for, with what is given. -/
def fields (value? : String → Option String) : List (String × String) :=
  properties.filterMap fun property => (value? property).map (property, ·)

theorem map_fst_fields_sublist (value? : String → Option String) :
    ((fields value?).map Prod.fst).Sublist properties := by
  rw [fields, List.map_filterMap]
  induction properties with
  | nil => exact List.Sublist.slnil
  | cons property properties ih =>
    rw [List.filterMap_cons]
    cases value? property with
    | none => exact ih.cons property
    | some value => exact ih.cons_cons property

theorem nodup_map_fst_fields (value? : String → Option String) :
    ((fields value?).map Prod.fst).Nodup :=
  (map_fst_fields_sublist value?).nodup (by decide)

theorem mem_fields {value? : String → Option String} {property value : String} :
    (property, value) ∈ fields value? ↔ property ∈ properties ∧ value? property = some value := by
  simp only [fields, List.mem_filterMap, Option.map_eq_some_iff, Prod.mk.injEq]
  constructor
  · rintro ⟨_, hProperty, _, hValue, rfl, rfl⟩
    exact ⟨hProperty, hValue⟩
  · rintro ⟨hProperty, hValue⟩
    exact ⟨property, hProperty, value, hValue, rfl, rfl⟩

theorem get?_ofList_fields {value? : String → Option String} {property : String}
    (h : property ∈ properties) :
    (Table.ofList (fields value?)).get? property = value? property := by
  refine Option.ext fun value => ?_
  rw [Table.get?_eq_some_iff, Table.entries_ofList (nodup_map_fst_fields value?), mem_fields,
    and_iff_right h]

theorem filterMap_readField?_fields (value? : String → Option String) :
    (fields value?).filterMap readField? = fields fun property => trimmed? (value? property) := by
  rw [fields, List.filterMap_filterMap, fields]
  refine List.filterMap_congr fun property _ => ?_
  cases value? property with
  | none => rfl
  | some value =>
    by_cases hBlank : trim value = ""
    · simp [readField?, trimmed?, given?, hBlank]
    · simp [readField?, trimmed?, given?, hBlank]

/-- The rule with this text before its block, as it is written. -/
def ruleText (selector : String) (fields : List (String × String)) : String :=
  selector ++ " \x7b" ++ body fields ++ "\x7d"

/-- The block of a rule as it is written. -/
def ruleBlock (selector : String) (fields : List (String × String)) : Block :=
  ⟨selector.toList ++ [' '], (body fields).toList⟩

theorem toList_ruleText (selector : String) (fields : List (String × String)) :
    (ruleText selector fields).toList = (ruleBlock selector fields).chars := by
  simp [ruleText, ruleBlock, Block.chars]

theorem selectorText_ruleBlock (selector : String) (fields : List (String × String)) :
    (ruleBlock selector fields).selectorText = trim selector := by
  have hText : String.ofList (ruleBlock selector fields).selector = selector ++ " " := by
    rw [← String.toList_inj]
    simp [ruleBlock]
  rw [Block.selectorText, hText, trim_append_space]

theorem rule?_ruleBlock_all (fields : List (String × String)) :
    (ruleBlock "*" fields).rule? = some ⟨.all, declarations (body fields)⟩ := by
  rw [Block.rule?, selectorText_ruleBlock, ruleBlock, String.ofList_toList]
  rfl

theorem rule?_ruleBlock_cls (name : String) (fields : List (String × String)) :
    (ruleBlock ("." ++ name) fields).rule? =
      some ⟨.cls (trimEnd name), declarations (body fields)⟩ := by
  have hSelector : Selector.parse? ("." ++ trimEnd name) = some (.cls (trimEnd name)) := by
    have hChars : ("." ++ trimEnd name).toList = '.' :: (trimEnd name).toList :=
      String.toList_append
    have hStar : "." ++ trimEnd name ≠ "*" := fun h => by
      rw [← String.toList_inj, hChars] at h
      cases h
    rw [Selector.parse?, if_neg hStar, hChars]
    exact congrArg (fun text => some (Selector.cls text)) String.ofList_toList
  rw [Block.rule?, selectorText_ruleBlock, trim_dot_append, hSelector, ruleBlock,
    String.ofList_toList]
  rfl

/-- The rule of a selector for some fields, if there are any. -/
def ruleOf? (selector : Selector) (fields : List (String × String)) : Option Rule :=
  if fields = [] then none else some ⟨selector, declarations (body fields)⟩

end Style

namespace Models

open Style

variable {m : Models} {node : Graph.Node} {property : String}

/-- The rules for models as they are read: one for all nodes and one for each profile. -/
def readRules (m : Models) : List Rule :=
  (ruleOf? .all (fields m.default?)).toList ++ m.profiles.entries.filterMap fun entry =>
    ruleOf? (.cls (trimEnd entry.1)) (fields entry.2.value?)

/-- The selector texts and fields of the rules for models, as they are written. -/
def writtenRules (m : Models) : List (String × List (String × String)) :=
  (if fields m.default? = [] then [] else [("*", fields m.default?)]) ++
    m.profiles.entries.filterMap fun entry =>
      if fields entry.2.value? = [] then none else some ("." ++ entry.1, fields entry.2.value?)

theorem profileDeclarations_eq (profile : Profile) :
    profileDeclarations profile =
      (fields profile.value?).map fun field => declarationText field ++ ";" := by
  have hParts : [("llm_model", profile.model), ("llm_provider", profile.provider),
      ("reasoning_effort", profile.reasoningEffort)] =
      properties.map fun property => (property, profile.text? property) := rfl
  rw [profileDeclarations, hParts, List.filterMap_map, fields, List.map_filterMap]
  refine List.filterMap_congr fun property _ => ?_
  simp only [Function.comp_apply, Profile.value?]
  cases profile.text? property with
  | none => rfl
  | some text =>
    by_cases hText : text = ""
    · rw [hText]
      rfl
    · simp [given?, declarationText]

theorem profileRule_eq (name : String) (profile : Profile) :
    profileRule name profile =
      if fields profile.value? = [] then none
      else some (ruleText ("." ++ name) (fields profile.value?)) := by
  rw [profileRule, profileDeclarations_eq]
  by_cases hNone : fields profile.value? = []
  · simp [hNone]
  · have hText : "." ++ name ++ " \x7b " ++ " ".intercalate ((fields profile.value?).map
          fun field => declarationText field ++ ";") ++ " \x7d" =
        ruleText ("." ++ name) (fields profile.value?) := by
      rw [ruleText, body, show " \x7b " = " \x7b" ++ " " from rfl,
        show " \x7d" = " " ++ "\x7d" from rfl]
      simp only [String.append_assoc]
    simp [hNone, hText]

theorem fields_default? :
    fields m.default? = ((given? m.default).map (("llm_model", ·))).toList := by
  cases h : given? m.default <;> simp [fields, properties, default?, h]

theorem rules_eq : m.rules = m.writtenRules.map fun rule => ruleText rule.1 rule.2 := by
  have hDefault (text : String) : "* \x7b llm_model: " ++ text ++ "; \x7d" =
      ruleText "*" [("llm_model", text)] := by
    have hBody : body [("llm_model", text)] = " llm_model: " ++ text ++ "; " := by
      simp only [body, declarationText, List.map_cons, List.map_nil, String.intercalate_singleton,
        String.append_assoc]
      rfl
    rw [ruleText, hBody, show "* \x7b llm_model: " = "*" ++ " \x7b" ++ " llm_model: " from rfl,
      show "; \x7d" = "; " ++ "\x7d" from rfl]
    simp only [String.append_assoc]
  have hProfiles : (fun entry : String × Profile => profileRule entry.1 entry.2) = fun entry =>
      (if fields entry.2.value? = [] then none
        else some ("." ++ entry.1, fields entry.2.value?)).map
          fun rule => ruleText rule.1 rule.2 := by
    funext entry
    rw [profileRule_eq]
    split <;> rfl
  rw [rules, writtenRules, List.map_append, List.map_filterMap, hProfiles, fields_default?]
  congr 1
  cases m.default with
  | none => rfl
  | some text =>
    by_cases hText : text = ""
    · rw [hText]
      rfl
    · simp [given?, hDefault]

/-- No value holds the brace that ends its block, and no name of a rule the one that begins it. -/
structure IsDelimited (m : Models) : Prop where
  default : ∀ property ∈ properties, ∀ value ∈ m.default? property, '\x7d' ∉ value.toList
  values : ∀ entry ∈ m.profiles.entries, ∀ property ∈ properties,
    ∀ value ∈ entry.2.value? property, '\x7d' ∉ value.toList
  names : ∀ entry ∈ m.profiles.entries, fields entry.2.value? ≠ [] → '\x7b' ∉ entry.1.toList

theorem notMem_body_fields {value? : String → Option String} (hFields : fields value? ≠ [])
    (h : ∀ property ∈ properties, ∀ value ∈ value? property, '\x7d' ∉ value.toList) :
    '\x7d' ∉ (body (fields value?)).toList := by
  have hNames : ∀ property ∈ properties, '\x7d' ∉ property.toList := by decide
  refine notMem_body hFields (by decide) fun field hField => ?_
  obtain ⟨hProperty, hValue⟩ := mem_fields.mp hField
  exact ⟨hNames _ hProperty, h _ hProperty _ hValue⟩

theorem isWritable_ruleBlock (h : m.IsDelimited) :
    ∀ rule ∈ m.writtenRules, (ruleBlock rule.1 rule.2).IsWritable := by
  intro rule hRule
  rw [writtenRules, List.mem_append, List.mem_filterMap] at hRule
  obtain hDefault | ⟨entry, hEntry, hProfile⟩ := hRule
  · split at hDefault
    · cases hDefault
    · next hFields =>
      obtain rfl := List.mem_singleton.mp hDefault
      exact ⟨⟨'*', by simp [ruleBlock], rfl⟩, by simp [ruleBlock],
        notMem_body_fields hFields h.default⟩
  · split at hProfile
    · cases hProfile
    · next hFields =>
      cases hProfile
      have hName := h.names entry hEntry hFields
      exact ⟨⟨'.', by simp [ruleBlock], rfl⟩, by simp [ruleBlock, hName],
        notMem_body_fields hFields (h.values entry hEntry)⟩

theorem blocks_stylesheet (h : m.IsDelimited) :
    blocks (stylesheet (some m) none).toList =
      m.writtenRules.map fun rule => ruleBlock rule.1 rule.2 := by
  have hText : stylesheet (some m) none = "\n".intercalate m.rules := by
    rw [stylesheet, Option.map_some, Option.getD_some, List.append_nil]
  have hGap : IsGap "\n".toList := by
    intro c hc
    obtain rfl := List.mem_singleton.mp hc
    rfl
  rw [hText, rules_eq]
  refine blocks_intercalate hGap ?_ (List.forall_mem_map.mpr (isWritable_ruleBlock h))
  simp only [List.map_map, Function.comp_def, toList_ruleText]

theorem sourceRules_stylesheet (h : m.IsDelimited) :
    sourceRules (stylesheet (some m) none) = m.readRules := by
  rw [sourceRules, blocks_stylesheet h, List.filterMap_map, writtenRules, readRules,
    List.filterMap_append, List.filterMap_filterMap]
  congr 1
  · unfold ruleOf?
    split
    · rfl
    · simp [rule?_ruleBlock_all]
  · refine List.filterMap_congr fun entry _ => ?_
    unfold ruleOf?
    split
    · rfl
    · simp [rule?_ruleBlock_cls]

theorem selector_ruleOf? {selector : Selector} {fields : List (String × String)} {rule : Rule}
    (h : ruleOf? selector fields = some rule) : rule.selector = selector := by
  unfold ruleOf? at h
  split at h
  · cases h
  · cases h
    rfl

theorem bySpecificity_readRules (m : Models) : bySpecificity m.readRules = m.readRules := by
  have hDefault : ∀ rule ∈ (ruleOf? .all (fields m.default?)).toList,
      rule.selector.specificity = 0 := by
    intro rule hRule
    rw [selector_ruleOf? (Option.mem_toList.mp hRule)]
    rfl
  have hProfiles : ∀ rule ∈ m.profiles.entries.filterMap fun entry =>
      ruleOf? (.cls (trimEnd entry.1)) (fields entry.2.value?), rule.selector.specificity = 1 := by
    intro rule hRule
    obtain ⟨entry, -, hRule⟩ := List.mem_filterMap.mp hRule
    rw [selector_ruleOf? hRule]
    rfl
  simp [readRules, bySpecificity, filter_specificity hDefault, filter_specificity hProfiles]

theorem parse_stylesheet (h : m.IsDelimited) :
    Style.parse (stylesheet (some m) none) = m.readRules := by
  have hRules := sourceRules_stylesheet h
  rw [sourceRules] at hRules
  rw [Style.parse, hRules, bySpecificity_readRules]

theorem isDeclarable_of_mem_fields {value? : String → Option String} {field : String × String}
    (hUncut : ∀ property ∈ properties, ∀ value ∈ value? property, ';' ∉ value.toList)
    (h : field ∈ fields value?) : IsDeclarable field := by
  have hNames : ∀ property ∈ properties, property ≠ "" ∧ trim property = property ∧
      ':' ∉ property.toList ∧ ';' ∉ property.toList := by decide
  obtain ⟨hProperty, hValue⟩ := mem_fields.mp h
  exact ⟨hNames _ hProperty, hUncut _ hProperty _ hValue⟩

/-- The rule of a selector has the trimmed value of a property, for every node that it selects. -/
theorem value?_ruleOf? {selector : Selector} {value? : String → Option String}
    (hProperty : property ∈ properties) (hUncut : selector.selects node →
      ∀ property ∈ properties, ∀ value ∈ value? property, ';' ∉ value.toList) :
    (ruleOf? selector (fields value?)).bind (Rule.value? node property) =
      if selector.selects node then trimmed? (value? property) else none := by
  by_cases hSelects : selector.selects node
  · have hRead (field : String × String) (hField : field ∈ fields value?) : IsDeclarable field :=
      isDeclarable_of_mem_fields (hUncut hSelects) hField
    by_cases hFields : fields value? = []
    · have hNone : value? property = none := by
        refine Option.eq_none_iff_forall_ne_some.mpr fun value hValue => ?_
        have hMem := mem_fields.mpr ⟨hProperty, hValue⟩
        rw [hFields] at hMem
        cases hMem
      rw [ruleOf?, if_pos hFields, if_pos hSelects, hNone]
      rfl
    · rw [ruleOf?, if_neg hFields, if_pos hSelects, Option.bind_some, Rule.value?, if_pos hSelects,
        declarations_body hFields hRead, filterMap_readField?_fields, get?_ofList_fields hProperty]
  · rw [if_neg hSelects]
    unfold ruleOf?
    split
    · rfl
    · rw [Option.bind_some, Rule.value?, if_neg hSelects]

/-- No value that a node of some classes can get holds the character that ends a declaration. -/
structure IsUncutFor (m : Models) (classes : List String) : Prop where
  default : ∀ property ∈ properties, ∀ value ∈ m.default? property, ';' ∉ value.toList
  values : ∀ entry ∈ m.profiles.entries, trimEnd entry.1 ∈ classes →
    ∀ property ∈ properties, ∀ value ∈ entry.2.value? property, ';' ∉ value.toList

/-- The rules for models give a node the value of the last profile that its classes name, and
otherwise the default. -/
theorem last?_readRules (hProperty : property ∈ properties) (hUncut : m.IsUncutFor node.classes) :
    last? (Rule.value? node property) m.readRules =
      (m.valueFor? node.classes property).or (trimmed? (m.default? property)) := by
  have hUniversal : (ruleOf? .all (fields m.default?)).bind (Rule.value? node property) =
      trimmed? (m.default? property) :=
    (value?_ruleOf? hProperty fun _ => hUncut.default).trans (if_pos rfl)
  rw [readRules, last?_append, last?_toList, last?_filterMap, hUniversal, valueFor?]
  congr 1
  refine last?_congr fun entry hEntry => ?_
  have hSelects : (Selector.cls (trimEnd entry.1)).selects node = true ↔
      trimEnd entry.1 ∈ node.classes := by simp [Selector.selects]
  rw [value?_ruleOf? hProperty fun h => hUncut.values entry hEntry (hSelects.mp h)]
  simp only [hSelects]

theorem last?_of_key {name : String} {f : Profile → Option String}
    {entries : List (String × Profile)} (hNodup : (entries.map Prod.fst).Nodup) :
    last? (fun entry => if name = entry.1 then f entry.2 else none) entries =
      (entries.lookup name).bind f := by
  induction entries with
  | nil => rfl
  | cons entry entries ih =>
    obtain ⟨first, found⟩ := entry
    rw [List.map_cons, List.nodup_cons] at hNodup
    rw [last?_cons, List.lookup_cons]
    by_cases hName : name = first
    · have hRest :
          last? (fun entry => if name = entry.1 then f entry.2 else none) entries = none := by
        refine last?_eq_none_iff.mpr fun entry hEntry => if_neg fun hKey => ?_
        exact hNodup.1 (List.mem_map.mpr ⟨entry, hEntry, hKey.symm.trans hName⟩)
      rw [hRest, Option.none_or, if_pos hName, hName, beq_self_eq_true]
      rfl
    · rw [if_neg hName, Option.or_none, ih hNodup.2, beq_false_of_ne hName]

/-- If the classes name, among the profiles that give a property, just the one of some name, then
the value is the one that this profile gives. -/
theorem valueFor?_eq {classes : List String} {name? : Option String}
    (h : ∀ entry ∈ m.profiles.entries, entry.2.value? property ≠ none →
      (trimEnd entry.1 ∈ classes ↔ name? = some entry.1)) :
    m.valueFor? classes property =
      trimmed? ((name?.bind m.profiles.get?).bind (·.value? property)) := by
  have hNamed : m.valueFor? classes property =
      last? (fun entry => if name? = some entry.1 then trimmed? (entry.2.value? property) else none)
        m.profiles.entries := by
    refine last?_congr fun entry hEntry => ?_
    by_cases hNone : entry.2.value? property = none
    · simp [hNone, trimmed?, given?]
    · simp only [h entry hEntry hNone]
  rw [hNamed]
  cases name? with
  | none => simp [last?_eq_none_iff, trimmed?, given?]
  | some name =>
    simp only [Option.some.injEq]
    rw [last?_of_key (f := fun profile => trimmed? (profile.value? property)) m.profiles.nodup,
      Option.bind_some, Table.get?]
    cases m.profiles.entries.lookup name <;> rfl

theorem given?_ne_empty {text : Option String} {value : String} (h : given? text = some value) :
    value ≠ "" := by
  unfold given? at h
  split at h
  · cases h
  · cases h
  · next hNonempty =>
    cases h
    exact hNonempty

theorem given?_some {value : String} (h : value ≠ "") : given? (some value) = some value := by
  simp [given?]

theorem default?_ne_empty {value : String} (h : m.default? property = some value) : value ≠ "" := by
  unfold default? at h
  split at h
  · exact given?_ne_empty h
  · cases h

theorem trimmed?_some {value : String} (hNonempty : value ≠ "") (hTrimmed : trim value = value) :
    trimmed? (some value) = some value := by
  rw [trimmed?, Option.map_some, hTrimmed]
  exact given?_some hNonempty

/-- Trimming leaves what a profile or else the default gives, if that is trimmed. -/
theorem trimmed?_or {profile? : Option Profile}
    (h : ∀ value ∈ (profile?.bind (·.value? property)).or (m.default? property),
      trim value = value) :
    (trimmed? (profile?.bind (·.value? property))).or (trimmed? (m.default? property)) =
      (profile?.bind (·.value? property)).or (m.default? property) := by
  cases hProfile : profile?.bind (·.value? property) with
  | some value =>
    obtain ⟨profile, -, hValue⟩ := Option.bind_eq_some_iff.mp hProfile
    rw [trimmed?_some (given?_ne_empty hValue) (h value (hProfile ▸ rfl))]
    rfl
  | none =>
    cases hDefault : m.default? property with
    | none => rfl
    | some value =>
      rw [trimmed?_some (default?_ne_empty hDefault) (h value (by rw [hProfile, hDefault]; rfl))]
      rfl

end Models

end Workflow
