import Workflow.Proofs.Lowering.Selection
import Workflow.Proofs.Number.Range
import Workflow.Proofs.Source.Reader
import Workflow.Proofs.Style.Nodes

/-!
# The numbers of compiled graphs

The extra attempts of a node and the weight of an edge are read as numbers. This fails in two
places: an infinite number is no integer, and can stand as the extra attempts of a stage without a
retry policy; and the weight of a way out is out of range if its priority puts it there.
-/

namespace Workflow

open Workflow.Binary64

namespace Graph

/-- Reading the extra attempts fails for an infinite number alone. -/
theorem Node.maxRetries_eq_error_iff {node : Node} {fault : NumberFault} :
    node.maxRetries = .error fault ↔ fault = .outOfRange ∧
      ∃ x, node.attrs.get? "max_retries" = some (.float x) ∧ x.IsInfinite := by
  rw [maxRetries, attrOr]
  cases node.attrs.get? "max_retries" with
  | none => simp
  | some v =>
    cases v with
    | float x =>
      simp only [Option.getD_some, Option.some.injEq, Value.float.injEq, exists_eq_left',
        Binary64.IsInfinite]
      cases x.view <;> simp [eq_comm]
    | none | bool | int | str | status => simp

/-- A weight is a number that is given or none, and is read unless it is an integer out of range. -/
theorem Edge.weight_of_int {edge : Edge} {n : Int} (h : edge.attrs.attr "weight" = .int n) :
    (edge.weight = .error .outOfRange ↔ rangeEnd ≤ n.natAbs) ∧
      (n.natAbs < rangeEnd → ∃ x, edge.weight = .ok (some x)) := by
  rw [← not_le, ← Binary64.ofInt?_eq_none_iff, Edge.weight, h]
  cases hBinary : Binary64.ofInt? n <;> simp [hBinary]

theorem Edge.weight_of_none {edge : Edge} (h : edge.attrs.attr "weight" = .none) :
    edge.weight = .ok none := by
  rw [Edge.weight, h]

end Graph

namespace Stage

variable {stage : Stage} {retry : Retry} {n : Int}

theorem get?_max_retries_of_retry (hRetry : stage.retry = some retry)
    (hAttempts : retry.maxAttempts = .int n) :
    stage.nodeAttrs.get? "max_retries" = some (.int (max 0 (n - 1))) := by
  rw [get?_nodeAttrs_of_ne_class (by decide), plainAttrs, hRetry, Option.map_some, Option.getD_some,
    retryAttrs, hAttempts, List.cons_append, List.cons_append, Table.insertAll_cons,
    Table.get?_insertAll_of_notMem, Table.get?_insert, if_pos rfl]
  simp only [List.map_append, List.mem_append, not_or]
  refine ⟨⟨?_, ?_⟩, ?_⟩ <;> split <;> simp

theorem get?_max_retries_of_none (hRetry : stage.retry = none) :
    stage.nodeAttrs.get? "max_retries" = stage.attrs.get? "max_retries" := by
  rw [get?_nodeAttrs_of_ne_class (by decide), plainAttrs, hRetry, Option.map_none, Option.getD_none,
    Table.insertAll_nil, Table.get?_insertNew_of_ne (by decide), Table.get?_insert,
    if_neg (by decide), get?_renamedAttrs (by decide)]

end Stage

/-- The ways out of a stage that its transitions or its routes are. -/
def Definition.AreWays (d : Definition) (source : String) (exits : List Exit) : Prop :=
  exits = d.exitsFrom source ∨
    ∃ stage ∈ d.stages, stage.id = source ∧ exits = stage.routes.map Route.exit

section Weights

variable {d : Definition} {g : Graph} {edge : Graph.Edge}

/-- An edge without a weight is the entry or the edge of an option. The others have the weight of a
way out. -/
theorem Definition.weight_of_mem_edges (h : d.toGraph = .ok g) (hPriorities : d.HasPriorities)
    (hEdge : edge ∈ g.edges) : edge.attrs.attr "weight" = .none ∨
      ∃ exits, d.AreWays edge.source exits ∧
        ∃ entry ∈ exits.zipIdx, Exit.HasEdge exits.length entry edge := by
  obtain ⟨between, own, hParts⟩ := exists_edgeParts h
  rw [hParts.edges, List.mem_cons, List.mem_append] at hEdge
  -- the edges are the entry, what the transitions expand to, and what the stages declare themselves
  obtain rfl | hEdge | hEdge := hEdge
  · exact Or.inl rfl
  · obtain ⟨part, hPart, hMem⟩ := List.mem_flatten.mp hEdge
    obtain ⟨source, hSource, hExpands⟩ :=
      Except.exists_of_mem_of_forall₂ hParts.transitions part hPart
    have hExits : ∀ exit ∈ d.exitsFrom source, exit.priority.IsPriority := by
      intro exit hExit
      obtain ⟨t, ht, rfl⟩ := List.mem_map.mp hExit
      exact hPriorities.2 t (List.mem_of_mem_filter ht)
    obtain ⟨entry, hEntry, hHas⟩ := hExpands.exists_hasEdge hExits edge hMem
    obtain ⟨rfl, -⟩ := hExpands.ends edge hMem
    exact Or.inr ⟨_, Or.inl rfl, entry, hEntry, hHas⟩
  · obtain ⟨part, hPart, hMem⟩ := List.mem_flatten.mp hEdge
    obtain ⟨stage, hStage, hOwn⟩ := Except.exists_of_mem_of_forall₂ hParts.stages part hPart
    unfold Stage.OwnEdges at hOwn
    split at hOwn
    · subst hOwn
      obtain ⟨choice, hChoice, rfl⟩ := List.mem_map.mp hMem
      exact Or.inl rfl
    · have hExits : ∀ exit ∈ stage.routes.map Route.exit, exit.priority.IsPriority := by
        intro exit hExit
        obtain ⟨route, hRoute, rfl⟩ := List.mem_map.mp hExit
        exact hPriorities.1 stage hStage route hRoute
      obtain ⟨entry, hEntry, hHas⟩ := hOwn.exists_hasEdge hExits edge hMem
      obtain ⟨hSource, -⟩ := hOwn.ends edge hMem
      exact Or.inr ⟨_, Or.inr ⟨stage, hStage, hSource.symm, rfl⟩, entry, hEntry, hHas⟩
    all_goals
      subst hOwn
      cases hMem

end Weights

section Compile

variable {source : String} {c : Compiled} {stage : Stage} {node : Graph.Node}

theorem maxRetries_of_retry {retry : Retry} (h : compile source = .ok c)
    (hStage : stage ∈ c.definition.stages) (hNode : node.IsStyled stage.nodeAttrs)
    (hRetry : stage.retry = some retry) :
    ∃ n : Int, retry.maxAttempts = .int n ∧ 1 ≤ n ∧ node.maxRetries = .ok (n - 1) := by
  obtain ⟨g, hGraph, -⟩ := exists_toGraph_of_compile h
  have hAccepted := Definition.isAccepted_of_toGraph hGraph
  obtain ⟨n, hAttempts, hSome⟩ := hAccepted.attempts stage hStage retry hRetry
  refine ⟨n, hAttempts, hSome, ?_⟩
  rw [Graph.Node.maxRetries, Graph.Node.attrOr, hNode _ (by decide),
    Stage.get?_max_retries_of_retry hRetry hAttempts, max_eq_right (by omega)]
  rfl

theorem maxRetries_of_none (hNode : node.IsStyled stage.nodeAttrs) (hRetry : stage.retry = none)
    {fault : NumberFault} : node.maxRetries = .error fault ↔ fault = .outOfRange ∧
      ∃ x, stage.attrs.get? "max_retries" = some (.float x) ∧ x.IsInfinite := by
  rw [Graph.Node.maxRetries_eq_error_iff, hNode _ (by decide),
    Stage.get?_max_retries_of_none hRetry]

/-- What the numbers of a compiled graph are read as. The extra attempts of a node fail where its
stage has no retry policy and gives an infinite number, which a literal does from the end of the
range on. The weight of an edge fails where the priority of a way out is out of range. -/
theorem numbers_compile (h : compile source = .ok c) :
    (∀ node ∈ c.graph.nodeList,
      (node.id = Graph.startId ∧ node.maxRetries = .ok 0) ∨
      ∃ stage ∈ c.definition.stages, node.id = stage.id ∧
        (∀ retry ∈ stage.retry, ∃ n : Int,
          retry.maxAttempts = .int n ∧ 1 ≤ n ∧ node.maxRetries = .ok (n - 1)) ∧
        (stage.retry = none →
          (∀ fault, node.maxRetries = .error fault ↔ fault = .outOfRange ∧
            ∃ x, stage.attrs.get? "max_retries" = some (.float x) ∧ x.IsInfinite) ∧
          ∀ cs negative whole fraction,
            stage.attrs.get? "max_retries" = some (.float (Number.ofPointed cs)) →
            Number.splitSign cs = (negative, whole ++ '.' :: fraction) →
            (∀ c ∈ whole, c.isDigit = true) →
            (node.maxRetries = .error .outOfRange ↔
              rangeEnd * 10 ^ fraction.length ≤ Number.ofDigits (whole ++ fraction)))) ∧
    ∀ edge ∈ c.graph.edges, (edge.attrs.attr "weight" = .none ∧ edge.weight = .ok none) ∨
      ∃ exits, c.definition.AreWays edge.source exits ∧
        ∃ entry ∈ exits.zipIdx, Exit.HasEdge exits.length entry edge ∧
          (edge.weight = .error .outOfRange ↔
            rangeEnd ≤ (Exit.weight exits.length entry).natAbs) ∧
          ((Exit.weight exits.length entry).natAbs < rangeEnd →
            ∃ x, edge.weight = .ok (some x)) := by
  constructor
  · intro node hNode
    obtain ⟨hId, hStart⟩ | ⟨stage, hStage, hId, hStyled⟩ := start_or_exists_stage_of_node h hNode
    · refine Or.inl ⟨hId, ?_⟩
      rw [Graph.Node.maxRetries, Graph.Node.attrOr, hStart _ (by decide)]
      rfl
    · refine Or.inr ⟨stage, hStage, hId, fun retry hRetry =>
        maxRetries_of_retry h hStage hStyled hRetry, fun hNone => ⟨fun fault =>
          maxRetries_of_none hStyled hNone, ?_⟩⟩
      intro cs negative whole fraction hGiven hSign hWhole
      rw [maxRetries_of_none hStyled hNone, hGiven, ← Number.isInfinite_ofPointed_iff hSign hWhole]
      simp
  · intro edge hEdge
    obtain ⟨g, hGraph, hStyled⟩ := exists_toGraph_of_compile h
    obtain ⟨hParse, -⟩ := parse_and_warnings_of_compile h
    rw [hStyled, Graph.edges_styled] at hEdge
    obtain hNone | ⟨exits, hWays, entry, hEntry, hHas⟩ :=
      Definition.weight_of_mem_edges hGraph (Definition.hasPriorities_parse hParse) hEdge
    · exact Or.inl ⟨hNone, Graph.Edge.weight_of_none hNone⟩
    · exact Or.inr ⟨exits, hWays, entry, hEntry, hHas, Graph.Edge.weight_of_int hHas.weight⟩

end Compile

namespace Source

open Token

def wordAt (column : Nat) (value : String) : Token := ⟨.word, value, ⟨1, column⟩⟩

def numeralAt (column : Nat) (digits : List Char) : Token :=
  ⟨.number, String.ofList digits, ⟨1, column⟩⟩

variable {column : Nat} {digits : List Char}

theorem isScalar_wordAt {value : String} : (wordAt column value).IsScalar :=
  Or.inr (Or.inr (Or.inr rfl))

theorem isScalar_numeralAt : (numeralAt column digits).IsScalar :=
  Or.inr (Or.inl rfl)

theorem scalar_numeralAt : (numeralAt column digits).scalar =
    if '.' ∈ digits then .float (Number.ofPointed digits) else .int (Number.ofNumeral digits) := by
  simp only [scalar, numeralAt, String.toList_ofList]

theorem isShort_numeralAt (h : digits.length ≤ 4300) : (numeralAt column digits).IsShort := by
  intro _ _
  rw [Token.digits, numeralAt, String.toList_ofList]
  unfold Number.splitSign
  split <;> simp at h ⊢ <;> omega

def propertyAt (column : Nat) (key : String) (value : Token) (h : value.IsScalar) : Item :=
  .property (wordAt column key) ⟨.equals, "=", ⟨1, column + key.length⟩⟩ value rfl rfl h

def newlineAt (column : Nat) (others : Derivation .elements) : Derivation .elements :=
  .newline ⟨.newline, "\n", ⟨1, column⟩⟩ rfl others

/-- A workflow on one line, with a numeral for the extra attempts of a stage and one for the
priority of a transition. -/
def oversized (attempts priority : List Char) : Derivation .elements :=
  .node (.block (wordAt 1 "workflow") rfl [.argument (wordAt 10 "w") isScalar_wordAt]
    ⟨.opening, "\x7b", ⟨1, 11⟩⟩ rfl
    (.node (.line (wordAt 12 "start") rfl [.argument (wordAt 18 "a") isScalar_wordAt]) <|
      newlineAt 19 <|
      .node (.line (wordAt 20 "stage") rfl [.argument (wordAt 26 "a") isScalar_wordAt,
        propertyAt 28 "kind" (wordAt 33 "tool") isScalar_wordAt,
        propertyAt 38 "command" (wordAt 46 "x") isScalar_wordAt]) <|
      newlineAt 47 <|
      .node (.line (wordAt 48 "stage") rfl [.argument (wordAt 54 "z") isScalar_wordAt,
        propertyAt 56 "kind" (wordAt 61 "exit") isScalar_wordAt,
        propertyAt 66 "max_retries" (numeralAt 78 attempts) isScalar_numeralAt]) <|
      newlineAt 390 <|
      .node (.line (wordAt 391 "transition") rfl [
        propertyAt 402 "from" (wordAt 407 "a") isScalar_wordAt,
        propertyAt 409 "to" (wordAt 412 "z") isScalar_wordAt,
        propertyAt 414 "priority" (numeralAt 423 priority) isScalar_numeralAt])
      .done)
    ⟨.closing, "\x7d", ⟨1, 727⟩⟩ rfl) .done

end Source

namespace Number

theorem isDigit_of_mem_one_zeros {n : Nat} : ∀ c ∈ '1' :: List.replicate n '0', c.isDigit = true := by
  rw [List.forall_mem_cons]
  refine ⟨rfl, fun c hc => ?_⟩
  rw [List.eq_of_mem_replicate hc]
  rfl

theorem ofDigits_one_zeros (n : Nat) : ofDigits ('1' :: List.replicate n '0') = 10 ^ n :=
  (ofDigits_append_zeros ['1'] n).trans (Nat.one_mul _)

theorem ofNumeral_one_zeros (n : Nat) :
    ofNumeral ('1' :: List.replicate n '0') = ((10 ^ n : Nat) : Int) := by
  rw [ofNumeral, splitSign_of_digits isDigit_of_mem_one_zeros, ofDigits_one_zeros]
  rfl

theorem ofPointed_one_zeros :
    ofPointed ('1' :: List.replicate 309 '0' ++ ['.', '0']) = infinity false := by
  have hSign : splitSign ('1' :: List.replicate 309 '0' ++ ['.', '0']) =
      (false, ('1' :: List.replicate 309 '0') ++ '.' :: ['0']) := rfl
  have hZeros : ('1' :: List.replicate 309 '0') ++ ['0'] = '1' :: List.replicate 310 '0' :=
    congrArg ('1' :: ·) List.replicate_succ'.symm
  rw [ofPointed_eq hSign isDigit_of_mem_one_zeros, hZeros, ofDigits_one_zeros]
  decide +kernel

end Number

namespace Definition

open Source

/-- The numerals are not evaluated from their texts, which is slow. -/
theorem parse_oversized {attempts priority : List Char}
    (hAttempts : attempts = '1' :: List.replicate 309 '0' ++ ['.', '0'])
    (hPriority : priority = '1' :: List.replicate 303 '0') :
    parse ("workflow w\x7bstart a;stage a kind=tool command=x;stage z kind=exit max_retries=" ++
      String.ofList attempts ++ ";transition from=a to=z priority=" ++ String.ofList priority ++
      "\x7d") = .ok
        { name := "w", start := "a"
          stages := [
            { id := "a", kind := .tool, line := 1, attrs := Table.ofList [("command", .str "x")] },
            { id := "z", kind := .exit, line := 1,
              attrs := Table.ofList [("max_retries", .float (infinity false))] }]
          transitions := [⟨"a", "z", none, .int ((10 ^ 303 : Nat) : Int)⟩] } := by
  have hScan : Token.scan
      ("workflow w\x7bstart a;stage a kind=tool command=x;stage z kind=exit max_retries=" ++
        String.ofList attempts ++ ";transition from=a to=z priority=" ++ String.ofList priority ++
        "\x7d") = .ok (oversized attempts priority).tokens := by
    simp only [Token.scan, String.toList_append, String.toList_ofList]
    rw [hAttempts, hPriority]
    decide +kernel
  have hDocument :
      (oversized attempts priority).IsDocument (oversized attempts priority).tokens := by
    refine ⟨rfl, ?_, ?_⟩
    · simp [oversized, newlineAt, Derivation.IsSeparated, Derivation.tokens]
    · simp [oversized, newlineAt, Derivation.nesting]
  have hShort : ∀ t ∈ (oversized attempts priority).tokens, t.IsShort := by
    have hFirst : (numeralAt 78 attempts).IsShort := by
      refine isShort_numeralAt ?_
      rw [hAttempts, List.length_append, List.length_cons, List.length_replicate]
      decide
    have hSecond : (numeralAt 423 priority).IsShort := by
      refine isShort_numeralAt ?_
      rw [hPriority, List.length_cons, List.length_replicate]
      decide
    simp [oversized, newlineAt, propertyAt, Derivation.tokens, Item.tokens, wordAt, hFirst, hSecond,
      Token.isShort_of_kind_ne]
  have hFirst : (numeralAt 78 attempts).scalar = .float (infinity false) := by
    rw [scalar_numeralAt, if_pos (hAttempts ▸ List.mem_append_right _ (.head _)), hAttempts,
      Number.ofPointed_one_zeros]
  have hSecond : (numeralAt 423 priority).scalar = .int ((10 ^ 303 : Nat) : Int) := by
    have hPoint : '.' ∉ priority := fun hMem =>
      absurd (Number.isDigit_of_mem_one_zeros '.' (hPriority ▸ hMem)) (by decide)
    rw [scalar_numeralAt, if_neg hPoint, hPriority, Number.ofNumeral_one_zeros]
  simp only [parse, hScan, Except.bind_eq_ok_iff, Except.mapError_eq_ok_iff]
  refine ⟨_, rfl, _, hDocument.givesIf.1 hShort, ?_⟩
  simp only [oversized, newlineAt, propertyAt, Derivation.nodes, List.append_nil, List.nil_append,
    List.cons_append, Item.args, Item.props, List.filterMap_cons, Item.argument?, Item.property?,
    hFirst, hSecond]
  decide +kernel

end Definition

/-- A stage with infinite extra attempts, and a transition with a priority out of range. -/
theorem exists_compile_of_oversized :
    ∃ source c stage edge, compile source = .ok c ∧ stage ∈ c.definition.stages ∧
      stage.id = "z" ∧ stage.retry = none ∧
      stage.attrs.get? "max_retries" =
        some (.float (Number.ofPointed ('1' :: List.replicate 309 '0' ++ ['.', '0']))) ∧
      edge ∈ c.graph.edges ∧
      edge.attrs.attr "weight" = .int (((10 ^ 303 : Nat) : Int) * 1000000 + 1) := by
  obtain ⟨z, hz⟩ : ∃ z : Stage, z =
      { id := "z", kind := .exit, line := 1,
        attrs := Table.ofList [("max_retries", .float (infinity false))] } := ⟨_, rfl⟩
  -- the priority is a variable where its value does not matter, or every step evaluates the power
  generalize hPriority : ((10 ^ 303 : Nat) : Int) = priority
  obtain ⟨w, hw⟩ : ∃ w : Definition, w =
      { name := "w", start := "a"
        stages := [
          { id := "a", kind := .tool, line := 1, attrs := Table.ofList [("command", .str "x")] }, z]
        transitions := [⟨"a", "z", none, .int priority⟩] } := ⟨_, rfl⟩
  have hReachable : w.reachable = ["z", "a"] := by
    simp [hw, hz, Definition.reachable, visit, Definition.leadsTo, Definition.stage?,
      Definition.targets, Definition.stageIds]
  have hValidate : w.validate = [] := by
    rw [Definition.validate, Definition.checkReachable, hReachable, hw, hz, ← hPriority]
    decide +kernel
  have hEdges : w.edges = .ok [⟨"__start__", "a", Table.ofList [("condition", .str "")]⟩,
      ⟨"a", "z", Table.ofList [("condition", .str ""),
        ("weight", .int (priority * 1000000 + 1))]⟩] := by
    rw [hw, hz, ← hPriority]
    decide +kernel
  have hParse := Definition.parse_oversized rfl rfl
  rw [hPriority, ← hz, ← hw] at hParse
  obtain ⟨c, hc, hDefinition⟩ :=
    exists_compile_of_parse hParse (Definition.isAccepted_of_validate_eq_nil hValidate)
  obtain ⟨g, hGraph, hStyled⟩ := exists_toGraph_of_compile hc
  have hOk := Definition.edges_of_toGraph hGraph
  rw [hDefinition, hEdges] at hOk
  refine ⟨_, c, z, ⟨"a", "z", Table.ofList [("condition", .str ""),
    ("weight", .int (priority * 1000000 + 1))]⟩, hc, ?_, by rw [hz], by rw [hz], ?_, ?_, rfl⟩
  · rw [hDefinition, hw]
    exact .tail _ (.head _)
  · rw [hz, Number.ofPointed_one_zeros]
    rfl
  · rw [hStyled, Graph.edges_styled, ← Except.ok.inj hOk]
    exact .tail _ (.head _)

theorem numbers_compile_at_oversized :
    ∃ source c, compile source = .ok c ∧
      (∃ node ∈ c.graph.nodeList, node.id = "z" ∧ node.maxRetries = .error .outOfRange) ∧
      ∃ edge ∈ c.graph.edges, edge.weight = .error .outOfRange := by
  obtain ⟨source, c, stage, edge, hc, hStage, hId, hRetry, hGiven, hEdge, hWeight⟩ :=
    exists_compile_of_oversized
  obtain ⟨hNodes, hEdges⟩ := numbers_compile hc
  refine ⟨source, c, hc, ?_, edge, hEdge, ?_⟩
  · obtain ⟨node, hNode, hNodeId, -⟩ := exists_node_of_stage hc hStage
    refine ⟨node, hNode, hNodeId.trans hId, ?_⟩
    obtain ⟨hStart, -⟩ | ⟨other, hOther, hOtherId, -, hOwn⟩ := hNodes node hNode
    · rw [hNodeId, hId] at hStart
      exact absurd hStart (by decide)
    · obtain ⟨g, hGraph, -⟩ := exists_toGraph_of_compile hc
      have hNodup := (Definition.isAccepted_of_toGraph hGraph).nodup
      obtain rfl := Definition.eq_of_id_eq hNodup hStage hOther (hNodeId.symm.trans hOtherId)
      refine ((hOwn hRetry).2 _ false ('1' :: List.replicate 309 '0') ['0'] hGiven rfl
        Number.isDigit_of_mem_one_zeros).mpr ?_
      rw [List.cons_append, ← List.replicate_succ', Number.ofDigits_one_zeros]
      decide +kernel
  · obtain ⟨hNone, -⟩ | ⟨exits, -, entry, -, hHas, hOutOfRange, -⟩ := hEdges edge hEdge
    · cases hWeight.symm.trans hNone
    · rw [hOutOfRange, ← Value.int.inj (hWeight.symm.trans hHas.weight)]
      decide +kernel

/-- A compiled graph can have a node whose extra attempts cannot be read, and an edge whose weight
cannot. -/
theorem exists_number_unread :
    ∃ source c, compile source = .ok c ∧
      (∃ node ∈ c.graph.nodeList, ∀ n, node.maxRetries ≠ .ok n) ∧
      ∃ edge ∈ c.graph.edges, ∀ x, edge.weight ≠ .ok x := by
  obtain ⟨source, c, stage, edge, hc, hStage, -, hRetry, hGiven, hEdge, hWeight⟩ :=
    exists_compile_of_oversized
  obtain ⟨node, hNode, -, hStyled⟩ := exists_node_of_stage hc hStage
  rw [Number.ofPointed_one_zeros] at hGiven
  have hAttempts : node.maxRetries = .error .outOfRange :=
    (maxRetries_of_none hStyled hRetry).mpr ⟨rfl, _, hGiven, isInfinite_infinity⟩
  have hOutOfRange := (Graph.Edge.weight_of_int hWeight).1.mpr (by decide +kernel)
  refine ⟨source, c, hc, ⟨node, hNode, fun n h => ?_⟩, edge, hEdge, fun x h => ?_⟩
  · rw [hAttempts] at h
    cases h
  · rw [hOutOfRange] at h
    cases h

end Workflow
