import Workflow.Value

/-!
# Outcomes

What running a stage leaves behind: a status, possibly the label of the choice made, and values to
be merged into the run context.
-/

namespace Workflow

/-- A status, or a word that stands for one without being checked. -/
inductive StatusWord where
  | known (status : Status)
  | raw (word : String)
  deriving DecidableEq, Repr

def StatusWord.word : StatusWord → String
  | .known status => status.word
  | .raw word => word

structure Outcome where
  status : StatusWord
  preferredLabel : Option String := none
  notes : Option String := none
  failureReason : Option String := none
  suggestedNext : List String := []
  updates : Attrs := Table.empty
  deriving DecidableEq, Repr

def Outcome.succeeded : Outcome :=
  { status := .known .success }

/-- The outcome of a stage that answered with a text. -/
def Outcome.ofResponse (stage : String) (response : String) : Outcome :=
  { status := .known .success
    updates := Table.ofList [(stage ++ ".response", .str response)] }

end Workflow
