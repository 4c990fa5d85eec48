import Workflow.Proofs.Definition.Guards
import Workflow.Proofs.Definition.Roundtrip
import Workflow.Proofs.Routing.Comparison
import Workflow.Proofs.Source.Layout

/-!
# Expressions as strings of workflow files

The strings of an expression stand in a text that is a string of a workflow file itself. The two
scanners end a string at the same quote and decode it alike, so that a text which is escaped once
for each of them comes out of both as it was. Between the two a text is only handed on: each
expression of a definition is the value of one token of its source.
-/

namespace Workflow

open Workflow.Text Workflow.Routing Workflow.Source.Token

/-- A text as a string with its quotes, where quotes and backslashes are escaped. -/
def Text.literal (s : String) : String :=
  String.ofList ('"' :: (escape s.toList ++ ['"']))

/-- The comparison of the value at a path with a text, both as strings. -/
def Routing.quotedComparison (path value : String) : String :=
  "output(" ++ literal path ++ ") == " ++ literal value

section Strings

variable {body cs rest : List Char} {text : String}

/-- Both scanners read a string with the given body and value and go on behind its closing quote. -/
structure EndsInBoth (body : List Char) (text : String) (rest : List Char) : Prop where
  decodes : Decodes body text.toList
  source : ∀ place, Source.Token.scanFrom place 0 ('"' :: (body ++ '"' :: rest)) =
    (Source.Token.scanFrom (place.after ('"' :: (body ++ ['"']))) 0 rest).map
      (⟨.string, text, place⟩ :: ·)
  routing : ∀ position, Routing.Token.scanFrom position 0 ('"' :: (body ++ '"' :: rest)) =
    (Routing.Token.scanFrom (position + (body.length + 2)) 0 rest).map
      (⟨.string, text, position⟩ :: ·)

/-- No part of a text is the body of a string before it, and both scanners say so. -/
structure RunsOutInBoth (cs : List Char) : Prop where
  unclosed : ∀ body text rest, Decodes body text → cs ≠ body ++ '"' :: rest
  source : ∀ place, Source.Token.scanFrom place 0 ('"' :: cs) = .error (.unterminatedString, place)
  routing : ∀ position, Routing.Token.scanFrom position 0 ('"' :: cs) =
    .error (.unterminatedString position)

theorem endsInBoth_of_decodes (h : Decodes body text.toList) : EndsInBoth body text rest := by
  have hRead : readLiteral (body ++ '"' :: rest) = some (text.toList, rest) :=
    readLiteral_of_decodes h
  have hSplit : (body ++ ['"']) ++ rest = body ++ '"' :: rest := by simp
  have hMore : (body ++ '"' :: rest).length - rest.length = (body ++ ['"']).length := by
    rw [← hSplit, List.length_append, Nat.add_sub_cancel]
  have hSource : Source.Token.front '"' ((body ++ ['"']) ++ rest) =
      .token .string text.toList (body ++ ['"']).length := by
    rw [hSplit, ← hMore]
    simp [Source.Token.front, hRead]
  have hRouting : Routing.Token.front '"' ((body ++ ['"']) ++ rest) =
      .token .string text.toList (body ++ ['"']).length := by
    rw [hSplit, ← hMore, Routing.Token.front_quote, hRead]
  refine ⟨h, fun place => ?_, fun position => ?_⟩
  · rw [← hSplit, Source.Token.scanFrom_of_token hSource, String.ofList_toList]
  · rw [← hSplit, Routing.Token.scanFrom_of_token hRouting, String.ofList_toList,
      List.length_append, List.length_singleton]

theorem runsOutInBoth_of_readLiteral (h : readLiteral cs = none) : RunsOutInBoth cs := by
  refine ⟨?_, fun place => ?_, fun position => ?_⟩
  · rintro body text rest hDecodes rfl
    rw [readLiteral_of_decodes hDecodes] at h
    cases h
  · have hFront : Source.Token.front '"' cs = .fault .unterminatedString := by
      simp [Source.Token.front, h]
    rw [Source.Token.scanFrom, hFront]
  · rw [Routing.Token.scanFrom, Routing.Token.front_quote, h]

/-- Behind an opening quote the scanners agree. -/
theorem runsOutInBoth_or_endsInBoth (cs : List Char) :
    RunsOutInBoth cs ∨ ∃ body text rest, cs = body ++ '"' :: rest ∧ EndsInBoth body text rest := by
  cases hRead : readLiteral cs with
  | none => exact .inl (runsOutInBoth_of_readLiteral hRead)
  | some r =>
    obtain ⟨value, rest⟩ := r
    obtain ⟨body, rfl, hDecodes⟩ := decodes_of_readLiteral hRead
    rw [← String.toList_ofList (l := value)] at hDecodes
    exact .inr ⟨body, _, rest, rfl, endsInBoth_of_decodes hDecodes⟩

theorem endsInBoth_escape (text : String) (rest : List Char) :
    EndsInBoth (escape text.toList) text rest :=
  endsInBoth_of_decodes (decodes_escape text.toList)

theorem scan_literal (text : String) :
    Source.Token.scan (literal text) = .ok [⟨.string, text, .start⟩] ∧
      Routing.Token.scan (literal text) = .ok [⟨.string, text, 0⟩] := by
  have hBoth := endsInBoth_escape text []
  rw [Source.Token.scan, Routing.Token.scan, literal, String.toList_ofList, hBoth.source,
    hBoth.routing]
  simp [Source.Token.scanFrom, Routing.Token.scanFrom, Except.map]

end Strings

section Spelled

open Source Source.Node

variable {d : Definition} {guard : String}

theorem toList_literal (text : String) : (literal text).toList = (Value.str text).written :=
  String.toList_ofList

/-- The text of a definition spells each of its expressions as a string. -/
theorem literal_infix_written (h : guard ∈ d.guards) :
    (literal guard).toList <:+: d.written.toList := by
  have hChild : ∀ part ∈ d.parts, ∀ m ∈ part.2, m.written <:+: d.written.toList := by
    intro part hPart m hm
    rw [Definition.written, String.toList_ofList]
    exact written_infix_of_mem_children (List.mem_flatMap.mpr ⟨part, hPart, hm⟩)
  rw [toList_literal]
  obtain h | h := List.mem_append.mp h
  · obtain ⟨stage, hStage, hRoutes⟩ := List.mem_flatMap.mp h
    obtain ⟨route, hRoute, rfl⟩ := List.mem_map.mp hRoutes
    have hGuard : (Value.str route.condition).written <:+: route.toNode.written :=
      written_infix_bare "when" (by simp) (by simp)
    have hInStage : route.toNode ∈ stage.toNode.children :=
      List.mem_append_left _ (List.mem_append_right _ (List.mem_map_of_mem hRoute))
    have hInFile : stage.toNode.written <:+: d.written.toList :=
      hChild ("stage", d.stages.map Stage.toNode) (by simp [Definition.parts]) _
        (List.mem_map_of_mem hStage)
    exact (hGuard.trans (written_infix_of_mem_children hInStage)).trans hInFile
  · obtain ⟨t, ht, hCondition⟩ := List.mem_filterMap.mp h
    have hGuard : (Value.str guard).written <:+: t.toNode.written :=
      written_infix_bare "when" (by simp) (by simp [hCondition])
    exact hGuard.trans (hChild ("transition", d.transitions.map Transition.toNode)
      (by simp [Definition.parts]) _ (List.mem_map_of_mem ht))

theorem guards_unlined (d : Definition) : d.unlined.guards = d.guards := by
  have hStage (stage : Stage) : stage.unlined.guards = stage.guards := rfl
  simp [Definition.guards, Definition.unlined, List.flatMap_map, hStage]

end Spelled

namespace Routing

theorem parse_quotedComparison (path value : String) :
    Expr.parse (quotedComparison path value) = .ok (.compare .output path .equal value) := by
  have hValue : Scans (literal value).toList fun ts =>
      ∃ t : Token, ts = [t] ∧ t.IsLiteral ∧ t.value = value := by
    intro position
    refine ⟨[⟨.string, value, position⟩], ?_, _, rfl, .inl rfl, rfl⟩
    rw [literal, String.toList_ofList, (endsInBoth_escape value []).routing]
    simp [Token.scanFrom, Except.map]
  refine parse_of_scans_literal ?_ hValue
  simp [quotedComparison, literal, Relation.operator]

theorem edgeConditions_quotedComparison (path value : String) :
    edgeConditions (some (quotedComparison path value)) =
      .ok [(Leaf.compare .output path .equal value).condition] :=
  edgeConditions_of_compile
    (Guard.compile_eq_ok_iff.mpr ⟨_, parse_quotedComparison path value, rfl⟩)

end Routing

/-- Behind an opening quote both scanners agree and both give an escaped text back. The expressions
of any workflow file are values of its tokens, so that a comparison whose strings are escaped comes
through a file whose string it is, escaped once more. -/
theorem strings_exact_in_both_layers :
    (∀ cs, RunsOutInBoth cs ∨
      ∃ body text rest, cs = body ++ '"' :: rest ∧ EndsInBoth body text rest) ∧
    (∀ text rest, EndsInBoth (escape text.toList) text rest) ∧
    (∀ source d, Definition.parse source = .ok d → ∃ ts root, Source.Token.scan source = .ok ts ∧
      Source.Node.ofTokens ts = .ok [root] ∧
      d.guards = root.guarded.filterMap Source.Node.guard? ∧
      ∀ guard ∈ d.guards, Source.GivesGuard ts guard) ∧
    ∀ path value,
      Expr.parse (quotedComparison path value) = .ok (.compare .output path .equal value) ∧
      edgeConditions (some (quotedComparison path value)) =
        .ok [(Leaf.compare .output path .equal value).condition] ∧
      Source.Token.scan (literal (quotedComparison path value)) =
        .ok [⟨.string, quotedComparison path value, .start⟩] ∧
      ∀ d : Definition, d.IsRegular → d.HoldsNoFloat → quotedComparison path value ∈ d.guards →
        (literal (quotedComparison path value)).toList <:+: d.written.toList ∧
        ∃ d', Definition.parse d.written = .ok d' ∧ d'.guards = d.guards := by
  refine ⟨runsOutInBoth_or_endsInBoth, endsInBoth_escape, fun _ _ => Definition.guards_parse,
    fun path value => ⟨parse_quotedComparison path value,
      edgeConditions_quotedComparison path value, (scan_literal _).1,
      fun d hRegular hFloat hGuard => ⟨literal_infix_written hGuard, ?_⟩⟩⟩
  obtain ⟨ts, hScan, n, hTree, hCopies⟩ :=
    Source.exists_ofTokens_written (hRegular.isWritable_toNode hFloat)
  obtain ⟨d', hRead, hUnlined⟩ := Definition.exists_ofNodes_eq_ok hCopies hRegular hFloat
  refine ⟨d', ?_, ?_⟩
  · simp only [Definition.parse, Except.bind_eq_ok_iff, Except.mapError_eq_ok_iff]
    exact ⟨ts, hScan, [n], hTree, hRead⟩
  · rw [← guards_unlined d', hUnlined, guards_unlined]

/-- A quote in the path and a backslash as the value, on a transition. -/
theorem strings_exact_in_both_layers_at_quote_and_backslash :
    let guard := quotedComparison "a.\"" "\\"
    let source := "workflow w \x7bstart a;stage a kind=llm;stage z kind=exit;" ++
      "transition from=a to=z when=" ++ literal guard ++ "\x7d"
    guard = "output(\"a.\\\"\") == \"\\\\\"" ∧
    Expr.parse guard = .ok (.compare .output "a.\"" .equal "\\") ∧
    ∃ d : Definition, Definition.parse source = .ok d ∧ d.guards = [guard] ∧
      (∃ ts, Source.Token.scan source = .ok ts ∧ Source.GivesGuard ts guard) ∧
      d.IsRegular ∧ d.HoldsNoFloat ∧ (literal guard).toList <:+: d.written.toList ∧
      ∃ d', Definition.parse d.written = .ok d' ∧ d'.guards = d.guards := by
  intro guard source
  obtain ⟨d, hd⟩ : ∃ d : Definition, d =
      { name := "w", start := "a", stages := [{ id := "a", kind := .llm, line := 1 },
          { id := "z", kind := .exit, line := 1 }],
        transitions := [⟨"a", "z", some guard, .none⟩] } := ⟨_, rfl⟩
  have hParse : Definition.parse source = .ok d := by
    rw [hd]
    decide +kernel
  have hRegular : d.IsRegular := Definition.isRegular_parse hParse
  have hFloat : d.HoldsNoFloat := by
    rw [hd]
    simp [Definition.HoldsNoFloat, Definition.values, Stage.values, Table.values, Table.empty]
  have hGuards : d.guards = [guard] := by
    rw [hd]
    rfl
  have hMem : guard ∈ d.guards := hGuards ▸ List.mem_singleton_self guard
  obtain ⟨-, -, hGiven, hBoth⟩ := strings_exact_in_both_layers
  obtain ⟨ts, -, hScan, -, -, hTokens⟩ := hGiven source d hParse
  obtain ⟨hExpr, -, -, hWritten⟩ := hBoth "a.\"" "\\"
  obtain ⟨hInfix, hRead⟩ := hWritten d hRegular hFloat hMem
  exact ⟨by decide +kernel, hExpr, d, hParse, hGuards, ⟨ts, hScan, hTokens guard hMem⟩, hRegular,
    hFloat, hInfix, hRead⟩

end Workflow
