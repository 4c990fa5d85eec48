import Mathlib.Data.List.Forall2
import Workflow.Context
import Workflow.Proofs.Table

/-!
# Contexts and their histories

A run keeps several contexts: it writes to them, logs in them and clones them. The history of a
context lists all that was ever written, and a clone begins with the history of its parent. What a
context answers is read off its own history, and no step changes what another context answers.
-/

namespace Workflow

namespace Context

/-- What was written to a context and what was logged in it, in order. -/
structure History where
  writes : List (String × Value) := []
  log : List String := []
  deriving DecidableEq, Repr

namespace History

/-- The keys in the order of their first writes. -/
def keys (h : History) : List String :=
  (h.writes.map Prod.fst).eraseDups

/-- The value that was written last to a key. -/
def last? (h : History) (key : String) : Option Value :=
  h.writes.reverse.lookup key

def write (h : History) (pairs : List (String × Value)) : History :=
  { h with writes := h.writes ++ pairs }

def append (h : History) (entry : String) : History :=
  { h with log := h.log ++ [entry] }

end History

/-- A step of a run, on the context at an index. -/
inductive Step where
  | set (on : Nat) (key : String) (value : Value)
  | update (on : Nat) (pairs : List (String × Value))
  | applyOutcome (on : Nat) (outcome : Outcome)
  | append (on : Nat) (entry : String)
  | clone (on : Nat)
  deriving DecidableEq, Repr

namespace Step

/-- The contexts after a step. A clone is added at the end. -/
def apply (contexts : List Context) : Step → List Context
  | .set on key value => contexts.modify on (·.set key value)
  | .update on pairs => contexts.modify on (·.update (.ofList pairs))
  | .applyOutcome on outcome => contexts.modify on (·.applyOutcome outcome)
  | .append on entry => contexts.modify on (·.append entry)
  | .clone on => contexts ++ contexts[on]?.toList

/-- The histories after a step. -/
def record (histories : List History) : Step → List History
  | .set on key value => histories.modify on (·.write [(key, value)])
  | .update on pairs => histories.modify on (·.write pairs)
  | .applyOutcome on outcome => histories.modify on (·.write outcome.updates.entries)
  | .append on entry => histories.modify on (·.append entry)
  | .clone on => histories ++ histories[on]?.toList

/-- The context that a step changes. -/
def target? : Step → Option Nat
  | .set on .. | .update on .. | .applyOutcome on .. | .append on .. => some on
  | .clone _ => none

end Step

/-- The contexts after a run that begins with some contexts, each given by its pairs. -/
def run (initials : List (List (String × Value))) (steps : List Step) : List Context :=
  steps.foldl Step.apply (initials.map fun pairs => ofAttrs (.ofList pairs))

def histories (initials : List (List (String × Value))) (steps : List Step) : List History :=
  steps.foldl Step.record (initials.map fun pairs => { writes := pairs })

/-- The answers of a context are those that a history gives. -/
structure Shows (c : Context) (h : History) : Prop where
  keys : c.values.keys = h.keys
  values : ∀ entry ∈ c.values.entries, h.last? entry.1 = some entry.2
  size : c.values.size = h.keys.length
  contains : ∀ key, c.values.contains key = true ↔ key ∈ h.writes.map Prod.fst
  get : ∀ key default, c.get key default = ((h.last? key).filter (· ≠ .none)).getD default
  log : c.log = h.log

/-- A context holds the table of all writes of its history, one after the other. -/
structure Holds (c : Context) (h : History) : Prop where
  values : c.values = .ofList h.writes
  log : c.log = h.log

section Holds

variable {c : Context} {h : History}

theorem holds_ofAttrs (pairs : List (String × Value)) :
    (ofAttrs (.ofList pairs)).Holds { writes := pairs } :=
  ⟨rfl, rfl⟩

theorem Holds.update (hc : c.Holds h) (pairs : List (String × Value)) :
    (c.update (.ofList pairs)).Holds (h.write pairs) := by
  refine ⟨?_, hc.log⟩
  rw [Context.update, hc.values, Table.insertAll_entries_ofList]
  exact Table.insertAll_append.symm

theorem Holds.set (hc : c.Holds h) (key : String) (value : Value) :
    (c.set key value).Holds (h.write [(key, value)]) :=
  hc.update [(key, value)]

theorem Holds.applyOutcome (hc : c.Holds h) (outcome : Outcome) :
    (c.applyOutcome outcome).Holds (h.write outcome.updates.entries) := by
  have hUpdate := hc.update outcome.updates.entries
  rwa [Table.ofList_entries] at hUpdate

theorem Holds.append (hc : c.Holds h) (entry : String) :
    (c.append entry).Holds (h.append entry) :=
  ⟨hc.values, congrArg (· ++ [entry]) hc.log⟩

theorem Holds.shows (hc : c.Holds h) : c.Shows h := by
  have hKeys : c.values.keys = h.keys := by rw [hc.values, Table.keys_ofList]; rfl
  have hLast (key : String) : c.values.get? key = h.last? key := by
    rw [hc.values, Table.get?_ofList]
    rfl
  refine ⟨hKeys, fun entry hEntry => ?_, ?_, fun key => ?_, fun key default => ?_, hc.log⟩
  · rw [← hLast, Table.get?_eq_some_iff]
    exact hEntry
  · rw [← hKeys, Table.size, Table.keys, List.length_map]
  · rw [Table.contains, List.contains_iff_mem, hKeys, History.keys, List.mem_eraseDups]
  · rw [Context.get, Context.lookup, Table.attr, hLast]
    cases h.last? key with
    | none => rfl
    | some value => cases value <;> rfl

end Holds

section Runs

variable {contexts : List Context} {histories : List History}

theorem holds_modify {f : Context → Context} {g : History → History}
    (hEach : ∀ c h, Holds c h → (f c).Holds (g h)) (hAll : List.Forall₂ Holds contexts histories)
    (on : Nat) : List.Forall₂ Holds (contexts.modify on f) (histories.modify on g) := by
  induction hAll generalizing on with
  | nil => cases on <;> exact .nil
  | cons hFirst hRest ih =>
    cases on with
    | zero => exact .cons (hEach _ _ hFirst) hRest
    | succ on => exact .cons hFirst (ih on)

theorem holds_getElem? (hAll : List.Forall₂ Holds contexts histories) (on : Nat) :
    List.Forall₂ Holds contexts[on]?.toList histories[on]?.toList := by
  induction hAll generalizing on with
  | nil => exact .nil
  | cons hFirst hRest ih =>
    cases on with
    | zero => exact .cons hFirst .nil
    | succ on => exact ih on

theorem holds_apply (hAll : List.Forall₂ Holds contexts histories) (step : Step) :
    List.Forall₂ Holds (step.apply contexts) (step.record histories) := by
  cases step with
  | set on key value => exact holds_modify (fun _ _ hc => hc.set key value) hAll on
  | update on pairs => exact holds_modify (fun _ _ hc => hc.update pairs) hAll on
  | applyOutcome on outcome => exact holds_modify (fun _ _ hc => hc.applyOutcome outcome) hAll on
  | append on entry => exact holds_modify (fun _ _ hc => hc.append entry) hAll on
  | clone on => exact List.rel_append hAll (holds_getElem? hAll on)

theorem holds_foldl (hAll : List.Forall₂ Holds contexts histories) (steps : List Step) :
    List.Forall₂ Holds (steps.foldl Step.apply contexts) (steps.foldl Step.record histories) := by
  induction steps generalizing contexts histories with
  | nil => exact hAll
  | cons step steps ih => exact ih (holds_apply hAll step)

theorem getElem?_apply {step : Step} {i : Nat} {c : Context} (hOther : step.target? ≠ some i)
    (h : contexts[i]? = some c) : (step.apply contexts)[i]? = some c := by
  have hModify {on : Nat} (f : Context → Context) (hOn : some on ≠ some i) :
      (contexts.modify on f)[i]? = some c := by
    rw [List.getElem?_modify_ne _ _ fun hEq => hOn (congrArg some hEq), h]
  cases step with
  | set | update | applyOutcome | append => exact hModify _ hOther
  | clone on =>
    obtain ⟨hShort, -⟩ := List.getElem?_eq_some_iff.mp h
    rw [Step.apply, List.getElem?_append_left hShort, h]

end Runs

/-- At every point of a run each context shows its own history. A further step changes no context
but the one it is about, and cloning changes none. -/
theorem shows_histories_of_run (initials : List (List (String × Value))) (steps : List Step) :
    List.Forall₂ Shows (run initials steps) (histories initials steps) ∧
      ∀ (step : Step) (i : Nat) (c : Context), step.target? ≠ some i →
        (run initials steps)[i]? = some c → (step.apply (run initials steps))[i]? = some c := by
  have hStart : List.Forall₂ Holds (initials.map fun pairs => ofAttrs (.ofList pairs))
      (initials.map fun pairs => { writes := pairs }) :=
    List.forall₂_map_left_iff.mpr (List.forall₂_map_right_iff.mpr
      (List.forall₂_same.mpr fun pairs _ => holds_ofAttrs pairs))
  exact ⟨(holds_foldl hStart steps).imp fun _ _ hc => hc.shows,
    fun _ _ _ hOther h => getElem?_apply hOther h⟩

theorem shows_histories_of_run_at_clones :
    let contexts := run [[("a", .int 1), ("a", .none)]] [.clone 0,
      .update 1 [("b", .int 1), ("b", .int 2)], .clone 1, .append 2 "x", .set 1 "b" .none]
    ∃ c, contexts[2]? = some c ∧
      c.Shows ⟨[("a", .int 1), ("a", .none), ("b", .int 1), ("b", .int 2)], ["x"]⟩ ∧
      (Step.set 1 "a" (.int 3)).target? ≠ some 2 ∧
      ((Step.set 1 "a" (.int 3)).apply contexts)[2]? = some c := by
  intro contexts
  obtain ⟨hShows, hOther⟩ := shows_histories_of_run [[("a", .int 1), ("a", .none)]] [.clone 0,
    .update 1 [("b", .int 1), ("b", .int 2)], .clone 1, .append 2 "x", .set 1 "b" .none]
  have hThird : contexts[2]? = some (contexts.get ⟨2, by decide⟩) := rfl
  have hTarget : (Step.set 1 "a" (.int 3)).target? ≠ some 2 := by decide
  exact ⟨_, hThird, hShows.get (by decide) (by decide), hTarget, hOther _ _ _ hTarget hThird⟩

end Context

end Workflow
