import Workflow.Definition.Basic
import Workflow.Text.Quoted

/-!
# Diagnostics

What validation finds. A diagnostic is its cause; the rule it belongs to, its severity, the stage
and the edge it is about, and its text follow from that.
-/

namespace Workflow

open Workflow.Text

/-- Where an expression stands: on a transition, or on a route of a stage. -/
inductive Site where
  | transition (source target : String)
  | route (stage target : String)
  deriving DecidableEq, Repr

namespace Site

def text : Site → String
  | .transition source target => "transition " ++ source ++ " -> " ++ target
  | .route stage _ => "stage \"" ++ stage ++ "\""

def stage? : Site → Option String
  | .transition .. => none
  | .route stage _ => some stage

def edge : Site → String × String
  | .transition source target => (source, target)
  | .route stage target => (stage, target)

end Site

inductive Diagnostic where
  | unsupportedVersion (version : Value)
  | emptyWorkflow
  | duplicateStage (stage : String)
  | missingStart (start : String)
  | unknownProfile (stage : String) (profile : Value)
  | invalidAttempts (stage : String) (attempts : Value)
  | promptAndFile (stage : String)
  | missingPrompt (stage : String)
  | unconfinedFile (stage : String)
  | emptyCommand (stage : String)
  | fewChoices (stage : String) (count : Nat)
  | noCatchAll (stage : String)
  | unknownSource (source target : String)
  | unknownTarget (source target : String)
  | ownRouting (stage : String) (kind : Stage.Kind) (target : String)
  | invalidExpression (site : Site) (expression : String) (reason : String)
  | unknownReference (site : Site) (stage : String)
  | choiceTarget (stage key target : String)
  | routeTarget (stage target : String)
  | noReachableExit
  | unreachable (stage : String)
  deriving DecidableEq, Repr

inductive Severity where
  | error
  | warning
  deriving DecidableEq, Repr

def Severity.word : Severity → String
  | .error => "error"
  | .warning => "warning"

namespace Diagnostic

/-- The name of a rule and how severe its findings are. -/
def ruleAndSeverity : Diagnostic → String × Severity
  | .unsupportedVersion .. => ("version", .warning)
  | .emptyWorkflow => ("empty_workflow", .error)
  | .duplicateStage .. => ("duplicate_stage", .error)
  | .missingStart .. => ("start_exists", .error)
  | .unknownProfile .. => ("model_profile", .error)
  | .invalidAttempts .. => ("retry_max_attempts", .error)
  | .promptAndFile .. => ("llm_prompt", .error)
  | .missingPrompt .. => ("llm_prompt_missing", .warning)
  | .unconfinedFile .. => ("prompt_file_path", .error)
  | .emptyCommand .. => ("tool_command", .error)
  | .fewChoices .. => ("human_options", .warning)
  | .noCatchAll .. => ("decision_catch_all", .warning)
  | .unknownSource .. => ("transition_from", .error)
  | .unknownTarget .. => ("transition_to", .error)
  | .ownRouting .. => ("routing_partition", .error)
  | .invalidExpression .. => ("expression_syntax", .error)
  | .unknownReference .. => ("expression_stage_ref", .warning)
  | .choiceTarget .. => ("option_target", .error)
  | .routeTarget .. => ("route_target", .error)
  | .noReachableExit => ("reachable_exit", .warning)
  | .unreachable .. => ("reachability", .warning)

def rule (d : Diagnostic) : String := d.ruleAndSeverity.1

def severity (d : Diagnostic) : Severity := d.ruleAndSeverity.2

def isError (d : Diagnostic) : Bool := d.severity = .error

def message : Diagnostic → String
  | .unsupportedVersion version =>
    "Unsupported workflow version " ++ version.text ++ "; expected 2"
  | .emptyWorkflow => "Workflow declares no stages"
  | .duplicateStage stage => "Duplicate stage id \"" ++ stage ++ "\""
  | .missingStart start => "start references missing stage \"" ++ start ++ "\""
  | .unknownProfile stage profile =>
    "Stage \"" ++ stage ++ "\" references unknown model_profile \"" ++ profile.text ++ "\""
  | .invalidAttempts stage attempts =>
    "Stage \"" ++ stage ++ "\" has invalid retry max_attempts: " ++ attempts.quoted
  | .promptAndFile stage =>
    "LLM stage \"" ++ stage ++ "\" must define only one of prompt or prompt_file"
  | .missingPrompt stage =>
    "LLM stage \"" ++ stage ++ "\" has no prompt; its label will be used"
  | .unconfinedFile stage =>
    "LLM stage \"" ++ stage ++ "\" prompt_file must be a relative path without \"..\""
  | .emptyCommand stage => "Tool stage \"" ++ stage ++ "\" has an empty command"
  | .fewChoices stage count =>
    "Human stage \"" ++ stage ++ s!"\" declares {count} option(s); at least 2 expected"
  | .noCatchAll stage =>
    "Decision stage \"" ++ stage ++ "\" has no catch-all route (when=\"true\")"
  | .unknownSource source _ => "Transition source \"" ++ source ++ "\" does not exist"
  | .unknownTarget _ target => "Transition target \"" ++ target ++ "\" does not exist"
  | .ownRouting stage kind _ =>
    "Stage \"" ++ stage ++ "\" (" ++ kind.word ++ ") routes via its own options/routes; " ++
      "global transitions from it are not allowed"
  | .invalidExpression site expression reason =>
    "Invalid expression on " ++ site.text ++ ": " ++ quote expression ++ " (" ++ reason ++ ")"
  | .unknownReference site stage =>
    "Expression on " ++ site.text ++ " references unknown stage \"" ++ stage ++ "\""
  | .choiceTarget stage key target =>
    "Human stage \"" ++ stage ++ "\" option \"" ++ key ++ "\" targets missing stage \"" ++
      target ++ "\""
  | .routeTarget stage target =>
    "Decision stage \"" ++ stage ++ "\" route targets missing stage \"" ++ target ++ "\""
  | .noReachableExit => "No exit stage is reachable from start"
  | .unreachable stage => "Stage \"" ++ stage ++ "\" is unreachable from start"

/-- The stage that a diagnostic is about. -/
def stage? : Diagnostic → Option String
  | .unsupportedVersion .. | .emptyWorkflow | .missingStart .. | .noReachableExit
  | .unknownSource .. | .unknownTarget .. => none
  | .duplicateStage stage | .unknownProfile stage _ | .invalidAttempts stage _
  | .promptAndFile stage | .missingPrompt stage | .unconfinedFile stage | .emptyCommand stage
  | .fewChoices stage _ | .noCatchAll stage | .ownRouting stage _ _ | .choiceTarget stage _ _
  | .routeTarget stage _ | .unreachable stage => some stage
  | .invalidExpression site _ _ | .unknownReference site _ => site.stage?

/-- The edge that a diagnostic is about. -/
def edge? : Diagnostic → Option (String × String)
  | .unknownSource source target | .unknownTarget source target => some (source, target)
  | .ownRouting stage _ target | .choiceTarget stage _ target | .routeTarget stage target =>
    some (stage, target)
  | .invalidExpression site _ _ | .unknownReference site _ => some site.edge
  | _ => none

/-- The line that reports a diagnostic. A stage with an empty id is not named. -/
def line (d : Diagnostic) : String :=
  let label := if d.isError then "ERROR" else "WARN "
  let stage := match d.stage? with
    | some "" | none => ""
    | some id => " [" ++ id ++ "]"
  "  " ++ label ++ " (" ++ d.rule ++ ")" ++ stage ++ ": " ++ d.message

end Diagnostic

end Workflow
