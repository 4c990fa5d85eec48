import Workflow.Graph.Basic
import Workflow.Validation.Check

/-!
# From definitions to graphs

A definition without errors becomes a graph. A start node is added before the stages. Every way
out of a stage becomes edges, one for each condition of its guard, and their weights rise with
priority and fall with declaration order.
-/

namespace Workflow

open Workflow.Text

/-- The priorities of routes outweigh the order among this many siblings. -/
def priorityScale : Int := 1000000

/-- The weight of a route: its priority, scaled, and the number of siblings from it on. -/
def orderWeight (priority : Value) (index total : Int) : Except NumberFault Value :=
  match priority.orElse (.int 0) with
  | .int n => .ok (.int (n * priorityScale + (total - index)))
  | .bool b => .ok (.int ((if b then priorityScale else 0) + (total - index)))
  | .float x =>
    match Binary64.ofInt? priorityScale, Binary64.ofInt? (total - index) with
    | some scale, some order => .ok (.float ((x.mul scale).add order))
    | _, _ => .error .outOfRange
  | .none | .str _ | .status _ => .error .notNumeric

inductive LoweringError where
  | rejected (errors : List Diagnostic)
  | expression (e : Routing.ExprError)
  | weight (fault : NumberFault)
  deriving DecidableEq, Repr

namespace Stage.Kind

def shape : Stage.Kind → String
  | .llm => "box"
  | .human => "hexagon"
  | .decision => "diamond"
  | .exit => "Msquare"
  | .tool => "parallelogram"

end Stage.Kind

namespace Stage

/-- The name that an attribute of a stage has on its node. -/
def graphName (name : String) : String :=
  if name = "model" then "llm_model"
  else if name = "provider" then "llm_provider"
  else if name = "command" then "tool_command"
  else name

def retryAttrs (retry : Retry) : List (String × Value) :=
  let attempts : Int := match retry.maxAttempts with
    | .int n => n
    | _ => 0
  let part (name : String) (text : Option String) : List (String × Value) :=
    match text with
    | some "" | none => []
    | some text => [(name, .str text)]
  ("max_retries", .int (max 0 (attempts - 1))) :: part "retry_backoff" retry.backoff ++
    part "retry_delay" retry.delay ++ part "retry_max_delay" retry.maxDelay

def profileClasses (attrs : Attrs) (profile : String) : List String :=
  let classes := Graph.splitClasses ((attrs.attr "class").orElse (.str "")).text
  if classes.contains profile then classes else classes ++ [profile]

def nodeAttrs (stage : Stage) : Attrs :=
  let renamed := Table.ofList (stage.attrs.entries.map fun e => (graphName e.1, e.2))
  let shaped := renamed.insert "shape" (.str stage.kind.shape)
  let labelled := shaped.insertNew "label" (.str stage.id)
  let retried := labelled.insertAll ((stage.retry.map retryAttrs).getD [])
  match stage.modelProfile? with
  | none | some "" => retried
  | some profile =>
    retried.insert "class" (.str (",".intercalate (profileClasses retried profile)))

end Stage

/-- A way out of a stage, with its condition if it has one. -/
structure Exit where
  target : String
  condition : Option String
  priority : Value
  deriving DecidableEq, Repr

def Route.exit (route : Route) : Exit :=
  ⟨route.target, some route.condition, route.priority⟩

def Transition.exit (t : Transition) : Exit :=
  ⟨t.target, t.condition, t.priority⟩

def Exit.edges (source : String) (total index : Nat) (exit : Exit) :
    Except LoweringError (List Graph.Edge) := do
  let weight ← (orderWeight exit.priority index total).mapError .weight
  let conditions ← (Routing.edgeConditions exit.condition).mapError .expression
  .ok (conditions.map fun condition =>
    ⟨source, exit.target, Table.ofList [("condition", .str condition), ("weight", weight)]⟩)

def exitEdges (source : String) (exits : List Exit) : Except LoweringError (List Graph.Edge) := do
  let edges ← exits.zipIdx.mapM fun entry => Exit.edges source exits.length entry.2 entry.1
  .ok edges.flatten

def distinct (names : List String) : List String :=
  names.foldl (fun seen name => if seen.contains name then seen else seen ++ [name]) []

namespace Definition

/-- The transitions, grouped by source in order of first appearance. -/
def transitionEdges (d : Definition) : Except LoweringError (List Graph.Edge) := do
  let edges ← (distinct (d.transitions.map (·.source))).mapM fun source =>
    exitEdges source ((d.transitions.filter (·.source == source)).map Transition.exit)
  .ok edges.flatten

def choiceEdge (stage : Stage) (choice : Choice) : Graph.Edge :=
  ⟨stage.id, choice.target, Table.ofList
    [("condition", .str ("preferred_label=" ++ choice.key)), ("label", .str choice.label)]⟩

def stageEdges (stage : Stage) : Except LoweringError (List Graph.Edge) :=
  match stage.kind with
  | .decision => exitEdges stage.id (stage.routes.map Route.exit)
  | .human => .ok (stage.choices.map (choiceEdge stage))
  | _ => .ok []

end Definition

namespace Models

def profileDeclarations (profile : Profile) : List String :=
  [("llm_model", profile.model), ("llm_provider", profile.provider),
    ("reasoning_effort", profile.reasoningEffort)].filterMap fun part =>
    match part.2 with
    | none | some "" => none
    | some value => some (part.1 ++ ": " ++ value ++ ";")

def profileRule (name : String) (profile : Profile) : Option String :=
  let declarations := profileDeclarations profile
  if declarations.isEmpty then none
  else some ("." ++ name ++ " \x7b " ++ " ".intercalate declarations ++ " \x7d")

def rules (models : Models) : List String :=
  (match models.default with
    | none | some "" => []
    | some model => ["* \x7b llm_model: " ++ model ++ "; \x7d"]) ++
  models.profiles.entries.filterMap fun entry => profileRule entry.1 entry.2

/-- The stylesheet for the models of a workflow and a stylesheet of its own. -/
def stylesheet (models : Option Models) (own : Option String) : String :=
  let rules := (models.map rules).getD []
  let extra := match own with
    | none => []
    | some own => if allBlank own then [] else [trim own]
  "\n".intercalate (rules ++ extra)

end Models

namespace Definition

def givenText (name : String) (text : Option String) : List (String × Value) :=
  match text with
  | none | some "" => []
  | some text => [(name, .str text)]

def graphAttrs (d : Definition) : Attrs :=
  Table.ofList (("label", .str d.name) :: givenText "goal" d.goal ++
    givenText "description" d.description ++
    givenText "model_stylesheet" (some (Models.stylesheet d.models d.stylesheet)))

def startAttrs : Attrs :=
  Table.ofList [("shape", .str "Mdiamond"), ("label", .str "Start")]

def nodes (d : Definition) : Table String Attrs :=
  (Table.ofList [(Graph.startId, startAttrs)]).insertAll
    (d.stages.map fun stage => (stage.id, stage.nodeAttrs))

def edges (d : Definition) : Except LoweringError (List Graph.Edge) := do
  let entry : Graph.Edge := ⟨Graph.startId, d.start, Table.ofList [("condition", .str "")]⟩
  let transitions ← d.transitionEdges
  let own ← d.stages.mapM stageEdges
  .ok (entry :: transitions ++ own.flatten)

def toGraph (d : Definition) : Except LoweringError Graph := do
  let _ ← d.accept.mapError .rejected
  let edges ← d.edges
  .ok { name := d.name, attrs := d.graphAttrs, nodes := d.nodes, edges }

end Definition

end Workflow
