import Workflow.Validation.Check

/-!
# What a diagnostic is about

Each check of a definition has its own diagnostics, so that a diagnostic tells which check found it.
`Definition.filter_validate` gives the findings of one check out of the list of all, in order.
-/

namespace Workflow

/-- What the checks of a definition are about. -/
inductive Topic where
  | version
  | declarations
  | stage
  | transition
  | target
  | reachability
  deriving DecidableEq, Repr

def Site.topic : Site → Topic
  | .transition .. => .transition
  | .route .. => .target

def Diagnostic.topic : Diagnostic → Topic
  | .unsupportedVersion .. => .version
  | .emptyWorkflow | .duplicateStage .. | .missingStart .. => .declarations
  | .unknownProfile .. | .invalidAttempts .. | .promptAndFile .. | .missingPrompt ..
  | .unconfinedFile .. | .emptyCommand .. | .fewChoices .. | .noCatchAll .. => .stage
  | .unknownSource .. | .unknownTarget .. | .ownRouting .. => .transition
  | .invalidExpression site .. | .unknownReference site .. => site.topic
  | .choiceTarget .. | .routeTarget .. => .target
  | .noReachableExit | .unreachable .. => .reachability

/-- All diagnostics of a list are about one topic. -/
def AreOn (topic : Topic) (found : List Diagnostic) : Prop :=
  ∀ x ∈ found, x.topic = topic

section AreOn

variable {topic : Topic} {found others : List Diagnostic}

theorem areOn_nil : AreOn topic [] := List.forall_mem_nil _

theorem areOn_singleton {x : Diagnostic} (h : x.topic = topic) : AreOn topic [x] :=
  List.forall_mem_singleton.mpr h

theorem AreOn.append (h : AreOn topic found) (hOthers : AreOn topic others) :
    AreOn topic (found ++ others) :=
  List.forall_mem_append.mpr ⟨h, hOthers⟩

theorem AreOn.ite {p : Prop} [Decidable p] (h : AreOn topic found) (hOthers : AreOn topic others) :
    AreOn topic (if p then found else others) := by
  split
  · exact h
  · exact hOthers

theorem areOn_map {α : Type} {f : α → Diagnostic} {items : List α}
    (h : ∀ item, (f item).topic = topic) : AreOn topic (items.map f) :=
  List.forall_mem_map.mpr fun item _ => h item

theorem areOn_flatMap {α : Type} {f : α → List Diagnostic} {items : List α}
    (h : ∀ item, AreOn topic (f item)) : AreOn topic (items.flatMap f) := by
  intro x hx
  obtain ⟨item, -, hx⟩ := List.mem_flatMap.mp hx
  exact h item x hx

theorem AreOn.filter_self (h : AreOn topic found) : found.filter (·.topic = topic) = found :=
  List.filter_eq_self.mpr fun x hx => decide_eq_true (h x hx)

theorem AreOn.filter_other (h : AreOn topic found) {other : Topic} (hOther : topic ≠ other) :
    found.filter (·.topic = other) = [] :=
  List.filter_eq_nil_iff.mpr fun x hx hEq => hOther ((h x hx).symm.trans (of_decide_eq_true hEq))

end AreOn

theorem areOn_checkExpression (known : List String) (site : Site) (text : String) :
    AreOn site.topic (checkExpression known site text) := by
  unfold checkExpression
  split
  · exact areOn_singleton rfl
  · exact areOn_map fun _ => rfl
  · exact areOn_nil

namespace Stage

variable (stage : Stage) (models : Option Models)

theorem areOn_checkProfile : AreOn .stage (stage.checkProfile models) := by
  unfold checkProfile
  split
  · exact areOn_nil
  · exact areOn_nil.ite (areOn_singleton rfl)

theorem areOn_checkAttempts : AreOn .stage stage.checkAttempts := by
  unfold checkAttempts
  split
  · exact areOn_nil
  · split
    · exact (areOn_singleton rfl).ite areOn_nil
    · exact areOn_singleton rfl

theorem areOn_checkPrompts : AreOn .stage stage.checkPrompts := by
  unfold checkPrompts
  apply AreOn.append
  · exact AreOn.ite (areOn_singleton rfl) (AreOn.ite (areOn_singleton rfl) areOn_nil)
  · exact AreOn.ite (areOn_singleton rfl) areOn_nil

theorem areOn_checkKind : AreOn .stage stage.checkKind := by
  unfold checkKind
  split
  · exact stage.areOn_checkPrompts
  · exact areOn_nil.ite (areOn_singleton rfl)
  · exact (areOn_singleton rfl).ite areOn_nil
  · exact areOn_nil.ite (areOn_singleton rfl)
  · exact areOn_nil

theorem areOn_check : AreOn .stage (stage.check models) :=
  ((stage.areOn_checkProfile models).append stage.areOn_checkAttempts).append
    stage.areOn_checkKind

theorem areOn_checkTargets (known : List String) : AreOn .target (stage.checkTargets known) := by
  unfold checkTargets
  apply AreOn.append
  · exact areOn_map fun _ => rfl
  · refine areOn_flatMap fun route => AreOn.append ?_ ?_
    · exact AreOn.ite areOn_nil (areOn_singleton rfl)
    · exact areOn_checkExpression known (.route stage.id route.target) route.condition

end Stage

namespace Definition

variable (d : Definition)

/-- What the check on one topic finds. -/
def findings : Topic → List Diagnostic
  | .version => d.checkVersion
  | .declarations =>
    (if d.stages.isEmpty then [.emptyWorkflow] else []) ++
      (repeated [] d.stageIds).map .duplicateStage ++ d.checkStart
  | .stage => d.stages.flatMap (·.check d.models)
  | .transition => d.transitions.flatMap d.checkTransition
  | .target => d.stages.flatMap (·.checkTargets d.stageIds)
  | .reachability => d.checkReachable

theorem areOn_checkTransition (t : Transition) : AreOn .transition (d.checkTransition t) := by
  unfold checkTransition
  refine AreOn.append (AreOn.append (AreOn.append ?_ ?_) ?_) ?_
  · exact AreOn.ite areOn_nil (areOn_singleton rfl)
  · exact AreOn.ite areOn_nil (areOn_singleton rfl)
  · split
    · exact (areOn_singleton rfl).ite areOn_nil
    · exact areOn_nil
  · split
    · exact areOn_nil.ite (areOn_checkExpression _ (.transition t.source t.target) _)
    · exact areOn_nil

theorem areOn_findings (topic : Topic) : AreOn topic (d.findings topic) := by
  cases topic with
  | version => exact AreOn.ite areOn_nil (areOn_singleton rfl)
  | declarations =>
    refine AreOn.append (AreOn.append ?_ ?_) ?_
    · exact AreOn.ite (areOn_singleton rfl) areOn_nil
    · exact areOn_map fun _ => rfl
    · exact AreOn.ite areOn_nil (areOn_singleton rfl)
  | stage => exact areOn_flatMap fun stage => stage.areOn_check d.models
  | transition => exact areOn_flatMap d.areOn_checkTransition
  | target => exact areOn_flatMap fun stage => stage.areOn_checkTargets d.stageIds
  | reachability =>
    refine AreOn.ite (AreOn.append ?_ ?_) areOn_nil
    · exact AreOn.ite areOn_nil (areOn_singleton rfl)
    · exact areOn_map fun _ => rfl

theorem validate_eq : d.validate = d.findings .version ++ d.findings .declarations ++
    d.findings .stage ++ d.findings .transition ++ d.findings .target ++
      d.findings .reachability := by
  simp only [validate, findings, List.append_assoc]

/-- Validation lists the findings on each topic once and in order. -/
theorem filter_validate (topic : Topic) :
    d.validate.filter (·.topic = topic) = d.findings topic := by
  have hSelf := (d.areOn_findings topic).filter_self
  have hOther : ∀ other, other ≠ topic → (d.findings other).filter (·.topic = topic) = [] :=
    fun other => (d.areOn_findings other).filter_other
  simp only [validate_eq, List.filter_append]
  cases topic <;> rw [hSelf] <;> simp [hOther]

theorem mem_validate_iff {x : Diagnostic} : x ∈ d.validate ↔ x ∈ d.findings x.topic := by
  rw [← filter_validate, List.mem_filter]
  simp

end Definition

end Workflow
