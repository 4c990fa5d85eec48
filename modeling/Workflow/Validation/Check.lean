import Workflow.Validation.Diagnostic
import Workflow.Validation.Reachable
import Workflow.Path.Confined
import Workflow.Routing.Guard

/-!
# Validation

`Definition.validate` lists all diagnostics of a definition, rule by rule in a fixed order. A
definition is accepted when none of them is an error.
-/

namespace Workflow

open Workflow.Text

/-- The diagnostics of an expression: it does not compile, or it names unknown stages. -/
def checkExpression (known : List String) (site : Site) (text : String) : List Diagnostic :=
  match Routing.Guard.compile text, Routing.Expr.parse text with
  | .error e, _ => [.invalidExpression site text e.message]
  | .ok _, .ok e =>
    (e.stageRefs.filter fun ref => !known.contains ref.stage).map fun ref =>
      .unknownReference site ref.stage
  | .ok _, .error _ => []

namespace Stage

def checkProfile (stage : Stage) (models : Option Models) : List Diagnostic :=
  match stage.modelProfile? with
  | none => []
  | some profile =>
    let profiles := (models.getD {}).profiles
    if profiles.contains profile then []
    else [.unknownProfile stage.id (stage.attrs.attr "model_profile")]

def checkAttempts (stage : Stage) : List Diagnostic :=
  match stage.retry with
  | none => []
  | some retry =>
    match retry.maxAttempts with
    | .int n => if n < 1 then [.invalidAttempts stage.id (.int n)] else []
    | attempts => [.invalidAttempts stage.id attempts]

/-- Whether a text is given and not blank. -/
def hasText (text : Option String) : Bool :=
  match text with
  | some text => !allBlank text
  | none => false

def checkPrompts (stage : Stage) : List Diagnostic :=
  let prompt := hasText stage.prompt?
  let file := hasText stage.promptFile?
  (if prompt && file then [.promptAndFile stage.id]
    else if !prompt && !file then [.missingPrompt stage.id] else []) ++
  (if file && !Path.isConfined (stage.promptFile?.getD "") then [.unconfinedFile stage.id] else [])

def isCatchAll (route : Route) : Bool :=
  trim route.condition == "true"

/-- The diagnostics of a stage by its kind. -/
def checkKind (stage : Stage) : List Diagnostic :=
  match stage.kind with
  | .llm => stage.checkPrompts
  | .tool => if hasText (stage.textAttr? "command") then [] else [.emptyCommand stage.id]
  | .human =>
    if stage.choices.length < 2 then [.fewChoices stage.id stage.choices.length] else []
  | .decision => if stage.routes.any isCatchAll then [] else [.noCatchAll stage.id]
  | .exit => []

def check (stage : Stage) (models : Option Models) : List Diagnostic :=
  stage.checkProfile models ++ stage.checkAttempts ++ stage.checkKind

/-- Whether a stage has its own ways out, so that no transition may leave it. -/
def routesItself (stage : Stage) : Bool :=
  stage.kind = .human || stage.kind = .decision

def checkTargets (stage : Stage) (known : List String) : List Diagnostic :=
  (stage.choices.filter fun choice => !known.contains choice.target).map (fun choice =>
    .choiceTarget stage.id choice.key choice.target) ++
  stage.routes.flatMap fun route =>
    (if known.contains route.target then [] else [.routeTarget stage.id route.target]) ++
    checkExpression known (.route stage.id route.target) route.condition

end Stage

namespace Definition

def checkVersion (d : Definition) : List Diagnostic :=
  let supported := match d.version with
    | .int n => n == 2
    | .float x => x.isInt 2
    | _ => false
  if supported then [] else [.unsupportedVersion d.version]

/-- The ids that repeat an earlier one. -/
def repeated (seen : List String) : List String → List String
  | [] => []
  | id :: ids => if seen.contains id then id :: repeated seen ids else repeated (id :: seen) ids

def checkStart (d : Definition) : List Diagnostic :=
  if d.stageIds.contains d.start then [] else [.missingStart d.start]

def checkTransition (d : Definition) (t : Transition) : List Diagnostic :=
  let known := d.stageIds
  (if known.contains t.source then [] else [.unknownSource t.source t.target]) ++
  (if known.contains t.target then [] else [.unknownTarget t.source t.target]) ++
  (match d.stage? t.source with
    | some stage =>
      if stage.routesItself then [.ownRouting stage.id stage.kind t.target] else []
    | none => []) ++
  (match t.condition with
    | some text =>
      if allBlank text then [] else checkExpression known (.transition t.source t.target) text
    | none => [])

def checkReachable (d : Definition) : List Diagnostic :=
  if d.stageIds.contains d.start then
    let reachable := d.reachable
    (if d.stages.any fun s => s.kind = .exit && reachable.contains s.id then []
      else [.noReachableExit]) ++
    (d.stages.filter fun s => !reachable.contains s.id).map fun s => .unreachable s.id
  else []

def validate (d : Definition) : List Diagnostic :=
  d.checkVersion ++
  (if d.stages.isEmpty then [.emptyWorkflow] else []) ++
  (repeated [] d.stageIds).map .duplicateStage ++
  d.checkStart ++
  d.stages.flatMap (·.check d.models) ++
  d.transitions.flatMap d.checkTransition ++
  d.stages.flatMap (·.checkTargets d.stageIds) ++
  d.checkReachable

/-- The warnings of a definition, or its errors if there are any. -/
def accept (d : Definition) : Except (List Diagnostic) (List Diagnostic) :=
  let found := d.validate
  let errors := found.filter Diagnostic.isError
  if errors.isEmpty then .ok found else .error errors

end Definition

/-- The text that reports the errors of a definition. -/
def rejectionMessage (errors : List Diagnostic) : String :=
  "Workflow validation failed:\n" ++
    "\n".intercalate (errors.map fun e => "  [" ++ e.rule ++ "] " ++ e.message)

end Workflow
