import Workflow.Definition.Basic
import Workflow.Source.Node
import Workflow.Text.Lines

/-!
# Reading workflow definitions

`Definition.ofNodes` reads a definition from a node tree, `Definition.parse` from a source text. An
error names the place of the node it is about and the stage that was being read. The line at that
place is shown with it.
-/

namespace Workflow

open Workflow.Text Workflow.Source

/-- Why a node tree is no workflow. -/
inductive ContentFault where
  | noSingleRoot
  | argumentNotText (node what : String)
  | argumentNotInteger (node what : String)
  | missingProperty (node key : String)
  | propertyNotText (node key : String) (value : Value)
  | propertyNotInteger (node key : String) (value : Value)
  | duplicateDirective (name : String)
  | unknownDirective (name : String)
  | missingStart
  | duplicateStage (id : String) (line : Nat)
  | undeclaredStart (id : String)
  | unknownModelsDirective (name : String)
  | missingKind (stage : String)
  | unknownKind (word : String)
  | unknownStageNode (name : String)
  | promptTwice
  | choiceOutsideHuman (kind : Stage.Kind)
  | routeOutsideDecision (kind : Stage.Kind)
  | duplicateRetry
  | missingMaxAttempts
  | maxAttemptsNotNumber (value : Value)
  | invalidBackoff (word : String)
  | missingCommand (stage : String)
  | missingPrompt (stage : String)
  deriving DecidableEq, Repr

/-- A name between double quotes, as errors cite names of the source. -/
def cited (name : String) : String := "\"" ++ name ++ "\""

def ContentFault.message : ContentFault → String
  | .noSingleRoot => "Expected single root node: workflow \"name\" \x7b ... \x7d"
  | .argumentNotText node what => cited node ++ " requires a string argument for " ++ what
  | .argumentNotInteger node what => cited node ++ " requires an integer argument for " ++ what
  | .missingProperty node key => cited node ++ " requires " ++ key ++ "=\"...\""
  | .propertyNotText node key value =>
    cited node ++ " property " ++ key ++ " must be a string, got " ++ value.quoted
  | .propertyNotInteger node key value =>
    cited node ++ " property " ++ key ++ " must be an integer, got " ++ value.quoted
  | .duplicateDirective name => "Duplicate " ++ cited name ++ " directive"
  | .unknownDirective name => "Unknown workflow directive " ++ cited name
  | .missingStart => "Missing \"start\" directive"
  | .duplicateStage id line =>
    "Duplicate stage id " ++ cited id ++ s!" (first declared on line {line})"
  | .undeclaredStart id => "start references undeclared stage " ++ cited id
  | .unknownModelsDirective name => "Unknown models directive " ++ cited name
  | .missingKind stage => "Stage " ++ cited stage ++ " requires kind=\"...\""
  | .unknownKind word => "Unknown stage kind " ++ cited word
  | .unknownStageNode name => "Unknown node " ++ cited name ++ " in stage"
  | .promptTwice => "prompt given both as property and child node"
  | .choiceOutsideHuman kind => "\"option\" is only valid in human stages, not " ++ kind.word
  | .routeOutsideDecision kind => "\"route\" is only valid in decision stages, not " ++ kind.word
  | .duplicateRetry => "Duplicate \"retry\" block"
  | .missingMaxAttempts => "retry requires max_attempts"
  | .maxAttemptsNotNumber value => "retry max_attempts must be a number, got " ++ value.quoted
  | .invalidBackoff word =>
    "Invalid retry backoff " ++ cited word ++ " (expected one of: " ++
      ", ".intercalate Retry.backoffs ++ ")"
  | .missingCommand stage => "Tool stage " ++ cited stage ++ " requires command=\"...\""
  | .missingPrompt stage => "Human stage " ++ cited stage ++ " requires a prompt"

/-- A content fault with its place and the stage that was being read, if any. -/
structure ContentError where
  fault : ContentFault
  place : Place
  stage : String
  deriving DecidableEq, Repr

abbrev Read (α : Type) := Except ContentError α

namespace Source.Node

/-- Refuses a node. -/
def refuse {α : Type} (node : Node) (stage : String) (fault : ContentFault) : Read α :=
  .error ⟨fault, node.place, stage⟩

def textArgument (node : Node) (stage what : String) : Read String :=
  match node.args.head? with
  | some (.str s) => .ok s
  | _ => node.refuse stage (.argumentNotText node.name what)

def integerArgument (node : Node) (stage what : String) : Read Value :=
  match node.args.head? with
  | some (.int n) => .ok (.int n)
  | _ => node.refuse stage (.argumentNotInteger node.name what)

def textProperty? (node : Node) (stage key : String) : Read (Option String) :=
  match node.props.get? key with
  | none => .ok none
  | some (.str s) => .ok (some s)
  | some value => node.refuse stage (.propertyNotText node.name key value)

def textProperty (node : Node) (stage key : String) : Read String := do
  match ← node.textProperty? stage key with
  | some s => .ok s
  | none => node.refuse stage (.missingProperty node.name key)

/-- An integer property; `Value.none` when it is missing. -/
def integerProperty (node : Node) (stage key : String) : Read Value :=
  match node.props.get? key with
  | none => .ok .none
  | some (.int n) => .ok (.int n)
  | some value => node.refuse stage (.propertyNotInteger node.name key value)

/-- The only node with a name, if there is one. -/
def single? (name : String) (nodes : List Node) : Read (Option Node) :=
  match nodes.filter (·.name == name) with
  | [] => .ok none
  | [node] => .ok (some node)
  | _ :: second :: _ => second.refuse "" (.duplicateDirective name)

end Source.Node

namespace Choice

def ofNode (stage : String) (node : Node) : Read Choice := do
  let key ← node.textArgument stage "option key"
  let label ← node.textProperty? stage "label"
  let target ← node.textProperty stage "to"
  .ok { key, label := if label.getD "" = "" then key else label.getD "", target }

end Choice

namespace Route

def ofNode (stage : String) (node : Node) : Read Route := do
  let condition ← node.textProperty stage "when"
  let target ← node.textProperty stage "to"
  let priority ← node.integerProperty stage "priority"
  .ok { condition, target, priority }

end Route

namespace Transition

def ofNode (node : Node) : Read Transition := do
  let source ← node.textProperty "" "from"
  let target ← node.textProperty "" "to"
  let condition ← node.textProperty? "" "when"
  let priority ← node.integerProperty "" "priority"
  .ok { source, target, condition, priority }

end Transition

namespace Retry

def attemptsOf (stage : String) (node : Node) : Read Value :=
  match node.props.get? "max_attempts" with
  | none => node.refuse stage .missingMaxAttempts
  | some (.int n) => .ok (.int n)
  | some (.float x) => .ok (.float x)
  | some value => node.refuse stage (.maxAttemptsNotNumber value)

def ofNode (stage : String) (node : Node) : Read Retry := do
  let maxAttempts ← attemptsOf stage node
  let backoff ← node.textProperty? stage "backoff"
  match backoff with
  | some word => if !backoffs.contains word then node.refuse stage (.invalidBackoff word)
  | none => .ok ()
  let delay ← node.textProperty? stage "delay"
  let maxDelay ← node.textProperty? stage "max_delay"
  .ok { maxAttempts, backoff, delay, maxDelay }

end Retry

namespace Stage

/-- Reads one child of a stage node into the stage. -/
def addChild (stage : Stage) (node : Node) : Read Stage :=
  match node.name with
  | "prompt" =>
    if stage.attrs.contains "prompt" then node.refuse stage.id .promptTwice
    else do
      let prompt ← node.textArgument stage.id "stage prompt"
      .ok { stage with attrs := stage.attrs.insert "prompt" (.str prompt) }
  | "option" =>
    if stage.kind ≠ .human then node.refuse stage.id (.choiceOutsideHuman stage.kind)
    else do
      let choice ← Choice.ofNode stage.id node
      .ok { stage with choices := stage.choices ++ [choice] }
  | "route" =>
    if stage.kind ≠ .decision then node.refuse stage.id (.routeOutsideDecision stage.kind)
    else do
      let route ← Route.ofNode stage.id node
      .ok { stage with routes := stage.routes ++ [route] }
  | "retry" =>
    if stage.retry.isSome then node.refuse stage.id .duplicateRetry
    else do
      let retry ← Retry.ofNode stage.id node
      .ok { stage with retry := some retry }
  | name => node.refuse stage.id (.unknownStageNode name)

/-- A tool needs a command. -/
def checkCommand (stage : Stage) (node : Node) : Read Unit :=
  match stage.kind, stage.attrs.attr "command" with
  | .tool, .str command =>
    if command = "" then node.refuse stage.id (.missingCommand stage.id) else .ok ()
  | .tool, _ => node.refuse stage.id (.missingCommand stage.id)
  | _, _ => .ok ()

/-- A human needs a prompt. -/
def checkPrompt (stage : Stage) (node : Node) : Read Unit :=
  match stage.kind, stage.attrs.attr "prompt" with
  | .human, .str prompt =>
    if prompt = "" then node.refuse stage.id (.missingPrompt stage.id) else .ok ()
  | .human, _ => node.refuse stage.id (.missingPrompt stage.id)
  | _, _ => .ok ()

def kindOf (id : String) (node : Node) : Read Stage.Kind := do
  match ← node.textProperty? id "kind" with
  | none => node.refuse id (.missingKind id)
  | some word =>
    match Kind.ofWord? word with
    | some kind => .ok kind
    | none => node.refuse id (.unknownKind word)

def ofNode (node : Node) : Read Stage := do
  let id ← node.textArgument "" "stage id"
  let kind ← kindOf id node
  let bare : Stage := { id, kind, attrs := node.props.erase "kind", line := node.place.line }
  let stage ← node.children.foldlM addChild bare
  stage.checkCommand node
  stage.checkPrompt node
  .ok stage

end Stage

namespace Models

def addChild (models : Models) (node : Node) : Read Models :=
  match node.name with
  | "default" => do
    let default ← node.textArgument "" "models default"
    .ok { models with default := some default }
  | "profile" => do
    let name ← node.textArgument "" "profile name"
    let model ← node.textProperty? "" "model"
    let provider ← node.textProperty? "" "provider"
    let reasoningEffort ← node.textProperty? "" "reasoning_effort"
    .ok { models with
      profiles := models.profiles.insert name { model, provider, reasoningEffort } }
  | name => node.refuse "" (.unknownModelsDirective name)

def ofNode (node : Node) : Read Models :=
  node.children.foldlM addChild {}

end Models

namespace Definition

def directives : List String :=
  ["version", "goal", "description", "start", "model_stylesheet", "models", "stage", "transition"]

/-- Reads one more stage, whose id must be new. -/
def addStage (stages : List Stage) (node : Node) : Read (List Stage) := do
  let stage ← Stage.ofNode node
  match stages.find? (·.id == stage.id) with
  | some first => node.refuse stage.id (.duplicateStage stage.id first.line)
  | none => .ok (stages ++ [stage])

def rootOf (nodes : List Node) : Read Node :=
  match nodes with
  | [] => .error ⟨.noSingleRoot, .unknown, ""⟩
  | [root] => if root.name = "workflow" then .ok root else root.refuse "" .noSingleRoot
  | _ :: second :: _ => second.refuse "" .noSingleRoot

def checkDirectives (nodes : List Node) : Read Unit :=
  match nodes.find? (fun node => !directives.contains node.name) with
  | some node => node.refuse "" (.unknownDirective node.name)
  | none => .ok ()

def ofNodes (nodes : List Node) : Read Definition := do
  let root ← rootOf nodes
  let name ← root.textArgument "" "workflow name"
  checkDirectives root.children
  let some startNode ← Node.single? "start" root.children | root.refuse "" .missingStart
  let start ← startNode.textArgument "" "workflow start"
  let versionNode ← Node.single? "version" root.children
  let goalNode ← Node.single? "goal" root.children
  let descriptionNode ← Node.single? "description" root.children
  let stylesheetNode ← Node.single? "model_stylesheet" root.children
  let modelsNode ← Node.single? "models" root.children
  let stages ← (root.children.filter (·.name == "stage")).foldlM addStage []
  if !stages.any (·.id == start) then startNode.refuse "" (.undeclaredStart start)
  let transitions ← (root.children.filter (·.name == "transition")).mapM Transition.ofNode
  let version ← match versionNode with
    | some node => node.integerArgument "" "workflow version"
    | none => .ok (.int 2)
  let goal ← goalNode.mapM (·.textArgument "" "workflow goal")
  let description ← descriptionNode.mapM (·.textArgument "" "workflow description")
  let models ← modelsNode.mapM Models.ofNode
  let stylesheet ← stylesheetNode.mapM (·.textArgument "" "model_stylesheet")
  .ok { name, start, stages, transitions, version, goal, description, models, stylesheet }

end Definition

/-- Why a source text is no workflow. -/
inductive SourceFault where
  | lexical (fault : LexicalFault)
  | grammar (fault : GrammarFault)
  | content (fault : ContentFault)
  deriving DecidableEq, Repr

def SourceFault.message : SourceFault → String
  | .lexical fault => fault.message
  | .grammar fault => fault.message
  | .content fault => fault.message

/-- A fault of a source text with its place, the line there, and the stage being read. -/
structure ParseError where
  fault : SourceFault
  place : Place
  snippet : String
  stage : String
  deriving DecidableEq, Repr

/-- The text of an error. A stage, a line, a column and a snippet are given only if known. -/
def ParseError.describe (message : String) (line column : Int) (snippet stage : String) : String :=
  let inStage := if stage = "" then "" else " [stage '" ++ stage ++ "']"
  let atPlace :=
    if line = 0 then ""
    else if column = 0 then s!" (line {line})"
    else s!" (line {line}:{column})"
  message ++ inStage ++ atPlace ++ if snippet = "" then "" else ": " ++ quote snippet

def ParseError.message (e : ParseError) : String :=
  describe e.fault.message e.place.line e.place.column e.snippet e.stage

/-- Why a source text cannot be read: it is malformed, or holds an integer that is too long. -/
inductive ReadError where
  | malformed (e : ParseError)
  | tooManyDigits (count : Nat)
  deriving DecidableEq, Repr

def ReadError.message : ReadError → String
  | .malformed e => e.message
  | .tooManyDigits count => Number.limitMessage (some count)

namespace Definition

/-- An error at a place of a source text. -/
def malformed (source : String) (fault : SourceFault) (place : Place) (stage : String) :
    ReadError :=
  .malformed ⟨fault, place, excerpt source place.line, stage⟩

def treeError (source : String) : TreeError → ReadError
  | .grammar fault (some token) => malformed source (.grammar fault) token.place ""
  | .grammar fault none => malformed source (.grammar fault) (Place.start.after source.toList) ""
  | .tooManyDigits count => .tooManyDigits count

def parse (source : String) : Except ReadError Definition := do
  let tokens ← (Token.scan source).mapError fun e => malformed source (.lexical e.1) e.2 ""
  let nodes ← (Node.ofTokens tokens).mapError (treeError source)
  (ofNodes nodes).mapError fun e => malformed source (.content e.fault) e.place e.stage

end Definition

end Workflow
