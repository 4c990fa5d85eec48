import Workflow.Proofs.Definition.Written
import Workflow.Proofs.Lowering.Selection
import Workflow.Proofs.Validation.Topic

/-!
# Decisions with a catch-all

A decision that draws no warning about a catch-all has a route that is open after every outcome.
So a run is never stuck at it: it has an open edge, and the first one belongs to the first open
route. That route is not behind the first catch-all, so the routes behind it are never taken.
-/

namespace Workflow

open Workflow.Routing Workflow.Text

/-- The edges that successive ways out among `total` become, the first of them at `start`. -/
def Exit.ExpandFrom (source : String) (total start : Nat) (exits : List Exit)
    (edges : List Graph.Edge) : Prop :=
  ∃ parts, List.Forall₂ (Exit.Expands source total) (exits.zipIdx start) parts ∧
    edges = parts.flatten

/-- The ways out before `way` are closed after an outcome, and the first open edge is the first open
one of those that `way` becomes. -/
structure Exit.Provides (source : String) (outcome : Outcome) (context : Context)
    (before : List Exit) (way : Exit) (after : List Exit) (edges : List Graph.Edge)
    (first : Graph.Edge) : Prop where
  closed : ∀ other ∈ before, other.isOpen outcome context = false
  isOpen : way.isOpen outcome context = true
  expands : ∃ front part rest, edges = front ++ part ++ rest ∧
    ExpandFrom source (before ++ way :: after).length 0 before front ∧
    Exit.Expands source (before ++ way :: after).length (way, before.length) part ∧
    ExpandFrom source (before ++ way :: after).length (before.length + 1) after rest ∧
    part.find? (Graph.Edge.isOpen outcome context) = some first
  first : edges.find? (Graph.Edge.isOpen outcome context) = some first

section Expand

variable {source : String} {total start : Nat} {exits before after : List Exit} {way : Exit}
  {edges : List Graph.Edge} {outcome : Outcome} {context : Context}

theorem Exit.ExpandFrom.any_isOpen (h : ExpandFrom source total start exits edges) :
    edges.any (Graph.Edge.isOpen outcome context) = exits.any (isOpen outcome context) := by
  obtain ⟨parts, hParts, rfl⟩ := h
  induction exits generalizing start parts with
  | nil =>
    cases hParts
    rfl
  | cons exit exits ih =>
    rw [List.zipIdx_cons, List.forall₂_cons_left_iff] at hParts
    obtain ⟨part, parts, hFirst, hRest, rfl⟩ := hParts
    rw [List.flatten_cons, List.any_append, List.any_cons, hFirst.any_isOpen, ih parts hRest]

theorem Expands.exists_parts (h : Expands source (before ++ way :: after) edges) :
    ∃ front part rest, edges = front ++ part ++ rest ∧
      Exit.ExpandFrom source (before ++ way :: after).length 0 before front ∧
      Exit.Expands source (before ++ way :: after).length (way, before.length) part ∧
      Exit.ExpandFrom source (before ++ way :: after).length (before.length + 1) after rest := by
  obtain ⟨parts, hParts, rfl⟩ := h
  rw [List.zipIdx_append, List.zipIdx_cons, Nat.zero_add] at hParts
  obtain ⟨front, tail, rfl, hFront, hTail⟩ := Source.Node.exists_append_of_forall₂ hParts.flip
  obtain ⟨part, rest, hPart, hRest, rfl⟩ := List.forall₂_cons_left_iff.mp hTail.flip
  refine ⟨front.flatten, part, rest.flatten, ?_, ⟨front, hFront.flip, rfl⟩, hPart, rest, hRest, rfl⟩
  rw [List.flatten_append, List.flatten_cons, List.append_assoc]

theorem Expands.exists_provides (h : Expands source exits edges)
    (hOpen : ∃ exit ∈ exits, exit.isOpen outcome context = true) :
    ∃ before way after first, exits = before ++ way :: after ∧
      Exit.Provides source outcome context before way after edges first := by
  obtain ⟨way, hWay⟩ := Option.isSome_iff_exists.mp (List.find?_isSome.mpr hOpen)
  obtain ⟨hWayOpen, before, after, rfl, hBefore⟩ := List.find?_eq_some_iff_append.mp hWay
  obtain ⟨front, part, rest, rfl, hFront, hPart, hRest⟩ := h.exists_parts
  have hClosed : ∀ other ∈ before, other.isOpen outcome context = false := by
    simpa using hBefore
  have hFrontClosed : front.find? (Graph.Edge.isOpen outcome context) = none := by
    have hNone : front.any (Graph.Edge.isOpen outcome context) = false := by
      rw [hFront.any_isOpen, List.any_eq_false]
      simpa using hClosed
    rw [List.find?_eq_none]
    exact List.any_eq_false.mp hNone
  obtain ⟨first, hFirst⟩ :
      ∃ first, part.find? (Graph.Edge.isOpen outcome context) = some first := by
    rw [← Option.isSome_iff_exists, List.find?_isSome, ← List.any_eq_true, hPart.any_isOpen]
    exact hWayOpen
  refine ⟨before, way, after, first, rfl, hClosed, hWayOpen, ?_, ?_⟩
  · exact ⟨front, part, rest, rfl, hFront, hPart, hRest, hFirst⟩
  · rw [List.append_assoc, List.find?_append, hFrontClosed, Option.none_or, List.find?_append,
      hFirst, Option.some_or]

end Expand

/-- A catch-all is open after every outcome. -/
theorem Stage.isOpen_of_isCatchAll {route : Route} (h : isCatchAll route = true)
    (outcome : Outcome) (context : Context) : route.exit.isOpen outcome context = true := by
  have hTrim : trim route.condition = "true" := by
    simpa [isCatchAll] using h
  have hConditions : edgeConditions route.exit.condition = .ok [""] := by
    simp [Route.exit, edgeConditions, hTrim]
  have hEmpty : Condition.clauses "" = [] := by decide +kernel
  rw [Exit.isOpen, hConditions]
  simp [Context.satisfies, Condition.holds, hEmpty]

namespace Definition

variable {d : Definition} {stage : Stage}

theorem noCatchAll_mem_validate (hStage : stage ∈ d.stages) (hKind : stage.kind = .decision)
    (h : stage.routes.any Stage.isCatchAll = false) : .noCatchAll stage.id ∈ d.validate := by
  have hCheck : .noCatchAll stage.id ∈ stage.check d.models := by
    simp [Stage.check, Stage.checkKind, hKind, h]
  rw [mem_validate_iff]
  exact List.mem_flatMap.mpr ⟨stage, hStage, hCheck⟩

/-- A decision without a warning about a catch-all is never stuck, and no route behind the first
catch-all provides its first open edge. -/
theorem provides_toGraph {g : Graph} (h : d.toGraph = .ok g) (hStage : stage ∈ d.stages)
    (hKind : stage.kind = .decision) (hId : stage.id ≠ Graph.startId)
    (hCatchAll : .noCatchAll stage.id ∉ d.validate) (outcome : Outcome) (context : Context) :
    ∃ before route after first, stage.routes = before ++ route :: after ∧
      (∀ other ∈ before, Stage.isCatchAll other = false) ∧
      Exit.Provides stage.id outcome context (before.map Route.exit) route.exit
        (after.map Route.exit) (g.edgesFrom stage.id) first := by
  obtain ⟨between, own, hParts⟩ := exists_edgeParts h
  have hLinked := (isAccepted_of_toGraph h).isLinked
  have hExpands : Expands stage.id (stage.routes.map Route.exit) (g.edgesFrom stage.id) := by
    have hLeaving := hParts.leavingEdges hLinked hStage hId
    rwa [LeavingEdges, hKind] at hLeaving
  obtain ⟨catchAll, hMem, hIsCatchAll⟩ : ∃ route ∈ stage.routes, Stage.isCatchAll route = true := by
    rw [← List.any_eq_true]
    by_contra hNone
    exact hCatchAll (noCatchAll_mem_validate hStage hKind (Bool.eq_false_of_not_eq_true hNone))
  obtain ⟨front, way, rest, first, hSplit, hProvides⟩ := hExpands.exists_provides
    ⟨catchAll.exit, List.mem_map_of_mem hMem, Stage.isOpen_of_isCatchAll hIsCatchAll outcome context⟩
  obtain ⟨before, tail, hRoutes, rfl, hTail⟩ := List.map_eq_append_iff.mp hSplit
  obtain ⟨route, after, rfl, rfl, rfl⟩ := List.map_eq_cons_iff.mp hTail
  refine ⟨before, route, after, first, hRoutes, fun other hOther => ?_, hProvides⟩
  -- a catch-all before the route would be open
  by_contra hBehind
  have hOpen := Stage.isOpen_of_isCatchAll (Bool.eq_true_of_not_eq_false hBehind) outcome context
  rw [hProvides.closed other.exit (List.mem_map_of_mem hOther)] at hOpen
  cases hOpen

theorem provides_toGraph_at_dead_route :
    ∃ d g, ∃ stage ∈ d.stages, toGraph d = .ok g ∧ stage.kind = .decision ∧
      stage.id ≠ Graph.startId ∧ .noCatchAll stage.id ∉ d.validate ∧
      ∃ before route after first, stage.routes = before ++ route :: after ∧
        (∀ other ∈ before, Stage.isCatchAll other = false) ∧
        Exit.Provides stage.id Outcome.succeeded {} (before.map Route.exit) route.exit
          (after.map Route.exit) (g.edgesFrom stage.id) first ∧
        first = ⟨"x", "y", Table.ofList [("condition", .str "context.x.status="),
          ("weight", .int 2000003)]⟩ := by
  obtain ⟨stage, hStage⟩ : ∃ stage : Stage, stage =
      { id := "x", kind := .decision, routes := [⟨"false", "z", .int 5⟩,
        ⟨"outcome(\"y\") == \"ok\" || outcome(\"x\") == \"\"", "y", .int 2⟩,
        ⟨" true ", "z", .none⟩, ⟨"outcome(\"x\") == \"\"", "z", .int 9⟩] } := ⟨_, rfl⟩
  obtain ⟨d, hd⟩ : ∃ d : Definition, d =
      { name := "w", start := "x", stages := [stage, { id := "y", kind := .exit },
        { id := "z", kind := .exit }] } := ⟨_, rfl⟩
  have hReachable : d.reachable = ["y", "z", "x"] := by
    simp [hd, hStage, reachable, visit, leadsTo, stage?, targets, stageIds]
  have hValidate : d.validate = [] := by
    rw [validate, checkReachable, hReachable, hd, hStage]
    decide +kernel
  have hAccepted := isAccepted_of_validate_eq_nil hValidate
  have hMem : stage ∈ d.stages := by
    rw [hd]
    exact List.mem_cons_self
  have hEdges : d.edges = .ok [⟨"__start__", "x", Table.ofList [("condition", .str "")]⟩,
      ⟨"x", "y", Table.ofList [("condition", .str "context.y.status=ok"),
        ("weight", .int 2000003)]⟩,
      ⟨"x", "y", Table.ofList [("condition", .str "context.x.status="),
        ("weight", .int 2000003)]⟩,
      ⟨"x", "z", Table.ofList [("condition", .str ""), ("weight", .int 2)]⟩,
      ⟨"x", "z", Table.ofList [("condition", .str "context.x.status="),
        ("weight", .int 9000001)]⟩] := by
    rw [hd, hStage]
    decide +kernel
  obtain ⟨g, hGraph, hg⟩ : ∃ g, d.toGraph = .ok g ∧ .ok g.edges = d.edges :=
    ⟨_, toGraph_eq_ok hAccepted hEdges, hEdges.symm⟩
  rw [hEdges] at hg
  have hFirstOpen : (g.edgesFrom stage.id).find? (Graph.Edge.isOpen Outcome.succeeded {}) =
      some ⟨"x", "y", Table.ofList [("condition", .str "context.x.status="),
        ("weight", .int 2000003)]⟩ := by
    rw [Graph.edgesFrom, Except.ok.inj hg, hStage]
    decide +kernel
  have hKind : stage.kind = .decision := by rw [hStage]
  have hId : stage.id ≠ Graph.startId := by
    rw [hStage]
    decide
  have hCatchAll : .noCatchAll stage.id ∉ d.validate := by
    rw [hValidate]
    exact List.not_mem_nil
  obtain ⟨before, route, after, first, hRoutes, hBefore, hProvides⟩ :=
    provides_toGraph hGraph hMem hKind hId hCatchAll Outcome.succeeded {}
  exact ⟨d, g, stage, hMem, hGraph, hKind, hId, hCatchAll, before, route, after, first, hRoutes,
    hBefore, hProvides, Option.some.inj (hProvides.first.symm.trans hFirstOpen)⟩

end Definition

end Workflow
