import Workflow.Proofs.Style.Nodes
import Workflow.Proofs.Text.Cut

/-!
# The attributes of a stage on its node

A node carries the attributes of its stage under their graph names. Where two of them have one
graph name, the later one is carried. The classes of the node are those of the stage and those that
its profile is split into, so a profile is one class exactly if its text is the name of one.
-/

namespace Workflow

open Workflow.Text

namespace Graph

/-- The texts that stand for themselves in a list of classes. -/
structure IsClassName (name : String) : Prop where
  nonempty : name ≠ ""
  uncut : ',' ∉ name.toList
  trimmed : trim name = name

theorem splitClasses_append_comma (front back : String) :
    splitClasses (front ++ "," ++ back) = splitClasses front ++ splitClasses back := by
  have hText : (front ++ "," ++ back).toList = front.toList ++ ',' :: back.toList := by simp
  have hPieces : pieces "," (front ++ "," ++ back) = pieces "," front ++ pieces "," back := by
    rw [pieces, hText, show ",".toList = [','] from rfl, piecesFrom_append_cons, List.map_append]
    rfl
  rw [splitClasses, hPieces, List.map_append, List.filter_append]
  rfl

theorem splitClasses_intercalate (parts : List String) :
    splitClasses (",".intercalate parts) = parts.flatMap splitClasses := by
  induction parts with
  | nil => rfl
  | cons part parts ih =>
    cases parts with
    | nil => simp
    | cons next parts =>
      rw [String.intercalate_cons_cons, splitClasses_append_comma, ih]
      rfl

theorem isClassName_of_mem_splitClasses {text name : String} (h : name ∈ splitClasses text) :
    IsClassName name := by
  obtain ⟨hMem, hNonempty⟩ := List.mem_filter.mp h
  obtain ⟨piece, hPiece, rfl⟩ := List.mem_map.mp hMem
  obtain ⟨cs, hCs, rfl⟩ := List.mem_map.mp hPiece
  have hUncut := (of_mem_piecesFrom (x := ',') hCs).1
  constructor
  · exact of_decide_eq_true hNonempty
  · intro hComma
    rw [trim, String.toList_ofList, String.toList_ofList] at hComma
    exact hUncut ((trimChars_isInfix cs).subset hComma)
  · exact trim_trim _

theorem splitClasses_eq_singleton_iff {name : String} :
    splitClasses name = [name] ↔ IsClassName name := by
  constructor
  · intro h
    have hMem : name ∈ splitClasses name := h ▸ List.mem_singleton_self name
    exact isClassName_of_mem_splitClasses hMem
  · intro h
    have hPieces : pieces "," name = [name] := by
      have hInfix : ¬ ",".toList <:+: name.toList := fun hInfix =>
        h.uncut (singleton_infix_iff.mp hInfix)
      rw [pieces, piecesFrom_of_not_infix (by decide) hInfix, List.map_singleton,
        String.ofList_toList]
    rw [splitClasses, hPieces, List.map_singleton, h.trimmed]
    exact List.filter_eq_self.mpr (by simpa using h.nonempty)

theorem flatMap_splitClasses {names : List String} (h : ∀ name ∈ names, IsClassName name) :
    names.flatMap splitClasses = names := by
  induction names with
  | nil => rfl
  | cons name names ih =>
    rw [List.forall_mem_cons] at h
    rw [List.flatMap_cons, splitClasses_eq_singleton_iff.mpr h.1, ih h.2, List.singleton_append]

end Graph

/-- Of the entries that are written to one key, the last one stays. -/
theorem Table.get?_ofList_renamed {α : Type} {f : String → String} {before after : List (String × α)}
    {name : String} {value : α} (hLast : ∀ later ∈ after, f later.1 ≠ f name) :
    (Table.ofList ((before ++ (name, value) :: after).map fun e => (f e.1, e.2))).get? (f name) =
      some value := by
  have hAfter : f name ∉ (after.map fun e => (f e.1, e.2)).map Prod.fst := by
    intro hMem
    obtain ⟨later, hLater, hName⟩ : ∃ later ∈ after, f later.1 = f name := by simpa using hMem
    exact hLast later hLater hName
  rw [Table.ofList, List.map_append, Table.insertAll_append, List.map_cons, Table.insertAll_cons,
    Table.get?_insertAll_of_notMem hAfter, Table.get?_insert, if_pos rfl]

namespace Stage

variable {stage : Stage} {key name : String} {value : Value}

/-- The attributes of a stage that its node may have another value for: the shape, the classes and,
where there is a policy for retries, what it sets. -/
def rewritten (stage : Stage) : List String :=
  "shape" :: "class" :: if stage.retry.isSome then retryNames else []

def ownClasses (stage : Stage) : List String :=
  Graph.splitClasses ((stage.attrs.attr "class").orElse (.str "")).text

/-- The classes that the profile of a stage adds to its own. -/
def addedClasses (stage : Stage) : List String :=
  match stage.modelProfile? with
  | none => []
  | some profile => if profile ∈ stage.ownClasses then [] else Graph.splitClasses profile

theorem notMem_renamed_of_mem_rewritten (h : key ∈ stage.rewritten) : key ∉ renamed := by
  have hAll : ∀ key ∈ "shape" :: "class" :: retryNames, key ∉ renamed := by decide
  have hSubset : stage.rewritten ⊆ "shape" :: "class" :: retryNames := by
    unfold rewritten
    split
    · exact List.Subset.refl _
    · simp
  exact hAll key (hSubset h)

theorem graphName_notMem_rewritten (h : name ∉ stage.rewritten) :
    graphName name ∉ stage.rewritten := by
  intro hMem
  have hName := (graphName_eq_iff (notMem_renamed_of_mem_rewritten hMem) name).mp rfl
  rw [← hName] at hMem
  exact h hMem

theorem get?_plainAttrs_of_shaped (h : key ∉ stage.rewritten)
    (hValue : (Table.ofList (stage.attrs.entries.map fun e => (graphName e.1, e.2))).get? key =
      some value) : stage.plainAttrs.get? key = some value := by
  simp only [rewritten, List.mem_cons, not_or] at h
  have hRetry : key ∉ ((stage.retry.map retryAttrs).getD []).map Prod.fst := by
    cases hPolicy : stage.retry with
    | none => exact List.not_mem_nil
    | some retry =>
      apply notMem_retryAttrs
      simpa [hPolicy] using h.2.2
  rw [plainAttrs, Table.get?_insertAll_of_notMem hRetry]
  by_cases hLabel : key = "label"
  · subst hLabel
    rw [Table.get?_insertNew_self, Table.get?_insert, if_neg h.1, hValue, Option.getD_some]
  · rw [Table.get?_insertNew_of_ne hLabel, Table.get?_insert, if_neg h.1, hValue]

theorem attr_class_plainAttrs (stage : Stage) :
    stage.plainAttrs.attr "class" = stage.attrs.attr "class" := by
  rw [Table.attr, get?_plainAttrs_of_notMem (by decide), Table.get?_insertNew_of_ne (by decide),
    Table.get?_insert, if_neg (by decide), get?_renamedAttrs (by decide)]
  rfl

theorem isClassName_of_mem_ownClasses : ∀ name ∈ stage.ownClasses, Graph.IsClassName name :=
  fun _ hName => Graph.isClassName_of_mem_splitClasses hName

theorem splitClasses_profileClasses (profile : String) :
    Graph.splitClasses (",".intercalate (profileClasses stage.plainAttrs profile)) =
      stage.ownClasses ++
        if profile ∈ stage.ownClasses then [] else Graph.splitClasses profile := by
  -- the classes are joined to one text and split again, which leaves the own ones as they are
  have hOwn := Graph.flatMap_splitClasses (stage.isClassName_of_mem_ownClasses)
  have hClasses : profileClasses stage.plainAttrs profile =
      if profile ∈ stage.ownClasses then stage.ownClasses else stage.ownClasses ++ [profile] := by
    simp only [profileClasses, attr_class_plainAttrs, List.contains_eq_mem, decide_eq_true_eq]
    rfl
  rw [Graph.splitClasses_intercalate, hClasses]
  split
  · rw [hOwn, List.append_nil]
  · rw [List.flatMap_append, hOwn, List.flatMap_singleton]

theorem classes_nodeAttrs_eq (stage : Stage) (id : String) :
    (⟨id, stage.nodeAttrs⟩ : Graph.Node).classes = stage.ownClasses ++ stage.addedClasses := by
  have hPlain : (⟨id, stage.plainAttrs⟩ : Graph.Node).classes = stage.ownClasses := by
    rw [Graph.Node.classes, attr_class_plainAttrs]
    rfl
  rw [nodeAttrs_eq, addedClasses]
  split
  · next hNone => rw [hPlain, hNone, List.append_nil]
  · next hEmpty =>
    have hNew : "" ∉ stage.ownClasses := fun hMem =>
      (stage.isClassName_of_mem_ownClasses "" hMem).nonempty rfl
    rw [hPlain, hEmpty]
    simp only [hNew, if_false]
    exact (List.append_nil _).symm
  · next profile hGiven hProfile =>
    rw [hProfile, ← splitClasses_profileClasses, Graph.Node.classes, Table.attr, Table.get?_insert,
      if_pos rfl, Option.getD_some, Value.orElse]
    split
    · rfl
    · next hEmpty =>
      rw [show ",".intercalate (profileClasses stage.plainAttrs profile) = "" by
        simpa [Value.isGiven] using hEmpty]
      rfl

/-- The profile of a stage is the class that follows its own exactly if its text names one class. -/
theorem addedClasses_eq_iff {profile : String} (h : stage.modelProfile? = some profile) :
    (stage.addedClasses = if profile ∈ stage.ownClasses then [] else [profile]) ↔
      profile ∈ stage.ownClasses ∨ Graph.IsClassName profile := by
  rw [addedClasses, h]
  by_cases hOwn : profile ∈ stage.ownClasses
  · simp [hOwn]
  · simp [hOwn, Graph.splitClasses_eq_singleton_iff]

end Stage

namespace Definition

variable {d : Definition} {g : Graph} {stage : Stage}

/-- A node carries the attributes of its stage under their graph names, the last of those that share
one, and the classes of the stage before those that its profile adds. -/
theorem attributes_toGraph (h : d.toGraph = .ok g) (hStage : stage ∈ d.stages) :
    ∃ attrs, g.nodes.get? stage.id = some attrs ∧
      (∀ before key value after, stage.attrs.entries = before ++ (key, value) :: after →
        key ∉ stage.rewritten →
        (∀ later ∈ after, Stage.graphName later.1 ≠ Stage.graphName key) →
        attrs.get? (Stage.graphName key) = some value) ∧
      (⟨stage.id, attrs⟩ : Graph.Node).classes = stage.ownClasses ++ stage.addedClasses ∧
      ∀ profile, stage.modelProfile? = some profile →
        ((⟨stage.id, attrs⟩ : Graph.Node).classes =
            stage.ownClasses ++ (if profile ∈ stage.ownClasses then [] else [profile]) ↔
          profile ∈ stage.ownClasses ∨ Graph.IsClassName profile) := by
  have hClasses := stage.classes_nodeAttrs_eq stage.id
  refine ⟨stage.nodeAttrs, ?_, ?_, hClasses, ?_⟩
  · rw [nodes_of_toGraph h, get?_nodes (isAccepted_of_toGraph h).nodup hStage]
  · intro before key value after hEntries hKey hLast
    have hName := Stage.graphName_notMem_rewritten hKey
    have hClass : Stage.graphName key ≠ "class" := fun hEq =>
      hName (hEq ▸ List.mem_cons_of_mem _ List.mem_cons_self)
    rw [Stage.get?_nodeAttrs_of_ne_class hClass]
    apply Stage.get?_plainAttrs_of_shaped hName
    rw [hEntries]
    exact Table.get?_ofList_renamed hLast
  · intro profile hProfile
    rw [hClasses, List.append_cancel_left_eq, Stage.addedClasses_eq_iff hProfile]

theorem exists_toGraph_of_exit {m : Models} {source : String} (hKind : stage.kind = .exit)
    (hCheck : stage.check (some m) = []) (hTargets : stage.checkTargets [stage.id] = [])
    (hParse : parse source =
      .ok { name := "w", start := stage.id, stages := [stage], models := some m }) :
    ∃ c g, Workflow.compile source = .ok c ∧ toGraph c.definition = .ok g ∧
      stage ∈ c.definition.stages := by
  obtain ⟨c, hc, -, -, hMem⟩ := exists_compile_of_exit hKind hCheck hTargets hParse
  obtain ⟨g, hGraph, -⟩ := exists_toGraph_of_compile hc
  exact ⟨c, g, hc, hGraph, hMem⟩

/-- A stage with classes, a profile and a policy for retries, which names its model twice. -/
theorem attributes_toGraph_at_two_models :
    ∃ c g stage attrs, Workflow.compile ("workflow w\x7bmodels\x7bprofile fast model=m\x7d;" ++
        "start s;stage s kind=exit model=small class=\" x ,, y\" llm_model=large " ++
        "model_profile=fast\x7bretry max_attempts=3\x7d\x7d") = .ok c ∧
      toGraph c.definition = .ok g ∧ stage ∈ c.definition.stages ∧
      stage.attrs.entries = [("model", .str "small"), ("class", .str " x ,, y")] ++
        ("llm_model", .str "large") :: [("model_profile", .str "fast")] ∧
      stage.retry.isSome = true ∧ "llm_model" ∉ stage.rewritten ∧
      g.nodes.get? stage.id = some attrs ∧ attrs.get? "llm_model" = some (.str "large") ∧
      (⟨stage.id, attrs⟩ : Graph.Node).classes = ["x", "y", "fast"] := by
  obtain ⟨m, hm⟩ : ∃ m : Models, m =
      { profiles := Table.ofList [("fast", { model := some "m" })] } := ⟨_, rfl⟩
  obtain ⟨stage, hStage⟩ : ∃ stage : Stage, stage =
      { id := "s", kind := .exit, line := 1, retry := some { maxAttempts := .int 3 },
        attrs := Table.ofList [("model", .str "small"), ("class", .str " x ,, y"),
          ("llm_model", .str "large"), ("model_profile", .str "fast")] } := ⟨_, rfl⟩
  have hKind : stage.kind = .exit := by rw [hStage]
  have hCheck : stage.check (some m) = [] := by
    rw [hStage, hm]
    decide
  have hTargets : stage.checkTargets [stage.id] = [] := by
    rw [hStage]
    rfl
  obtain ⟨c, g, hc, hGraph, hMem⟩ := exists_toGraph_of_exit hKind hCheck hTargets
    (by rw [hStage, hm]; decide +kernel : parse ("workflow w\x7bmodels\x7bprofile fast model=m\x7d;" ++
        "start s;stage s kind=exit model=small class=\" x ,, y\" llm_model=large " ++
        "model_profile=fast\x7bretry max_attempts=3\x7d\x7d") = _)
  have hEntries : stage.attrs.entries = [("model", .str "small"), ("class", .str " x ,, y")] ++
      ("llm_model", .str "large") :: [("model_profile", .str "fast")] := by
    rw [hStage]
    rfl
  have hKey : "llm_model" ∉ stage.rewritten := by
    rw [hStage]
    decide
  obtain ⟨attrs, hAttrs, hLaw, hClasses, -⟩ := attributes_toGraph hGraph hMem
  have hModel : attrs.get? "llm_model" = some (.str "large") :=
    hLaw _ _ _ _ hEntries hKey (by decide)
  refine ⟨c, g, stage, attrs, hc, hGraph, hMem, hEntries, by rw [hStage]; rfl, hKey, hAttrs,
    hModel, ?_⟩
  rw [hClasses, hStage]
  decide +kernel

/-- An attribute is lost if a later one has the same graph name, and a profile with a comma in its
name is no class of the node. -/
theorem exists_attribute_not_carried :
    ∃ c g stage attrs, Workflow.compile ("workflow w\x7bmodels\x7bprofile \"a,b\" model=m\x7d;" ++
        "start s;stage s kind=exit model=small llm_model=large model_profile=\"a,b\"\x7d") = .ok c ∧
      toGraph c.definition = .ok g ∧ stage ∈ c.definition.stages ∧
      ("model", .str "small") ∈ stage.attrs.entries ∧ "model" ∉ stage.rewritten ∧
      stage.modelProfile? = some "a,b" ∧ stage.ownClasses = [] ∧
      g.nodes.get? stage.id = some attrs ∧
      attrs.get? (Stage.graphName "model") = some (.str "large") ∧
      (⟨stage.id, attrs⟩ : Graph.Node).classes = ["a", "b"] := by
  obtain ⟨m, hm⟩ : ∃ m : Models, m =
      { profiles := Table.ofList [("a,b", { model := some "m" })] } := ⟨_, rfl⟩
  obtain ⟨stage, hStage⟩ : ∃ stage : Stage, stage =
      { id := "s", kind := .exit, line := 1, attrs := Table.ofList [("model", .str "small"),
          ("llm_model", .str "large"), ("model_profile", .str "a,b")] } := ⟨_, rfl⟩
  have hKind : stage.kind = .exit := by rw [hStage]
  have hCheck : stage.check (some m) = [] := by
    rw [hStage, hm]
    decide
  have hTargets : stage.checkTargets [stage.id] = [] := by
    rw [hStage]
    rfl
  obtain ⟨c, g, hc, hGraph, hMem⟩ := exists_toGraph_of_exit hKind hCheck hTargets
    (by rw [hStage, hm]; decide +kernel :
      parse ("workflow w\x7bmodels\x7bprofile \"a,b\" model=m\x7d;" ++
        "start s;stage s kind=exit model=small llm_model=large model_profile=\"a,b\"\x7d") = _)
  have hAttrs : g.nodes.get? stage.id = some stage.nodeAttrs := by
    rw [nodes_of_toGraph hGraph, get?_nodes (isAccepted_of_toGraph hGraph).nodup hMem]
  refine ⟨c, g, stage, stage.nodeAttrs, hc, hGraph, hMem, ?_⟩
  rw [hStage] at hAttrs ⊢
  exact ⟨by decide, by decide, rfl, by decide +kernel, hAttrs, by decide +kernel,
    by decide +kernel⟩

end Definition

end Workflow
