import Workflow.Proofs.Definition.Written

/-!
# Parsing undoes writing

Whatever definition was read, if it holds no number with a point then its text can be scanned and
read, and gives the definition again but for the lines of its stages.
-/

namespace Workflow

open Workflow.Source Node

theorem Value.IsScanned.isWritable {v : Value} (h : v.IsScanned) (hFloat : ∀ x, v ≠ .float x) :
    v.IsWritable :=
  h.resolve_right fun ⟨x, hx⟩ => hFloat x hx

namespace Source.Node

variable {name : String} {args : List Value} {entries : List (String × Option Value)}
  {inner : List Node} {n : Node} {depth : Nat}

theorem hasWritableItems_bare (hName : Token.IsWord name) (hArgs : ∀ v ∈ args, v.IsWritable)
    (hKeys : ∀ key ∈ entries.map Prod.fst, Token.IsWord key)
    (hValues : ∀ value ∈ entries.map Prod.snd, ∀ v ∈ value, v.IsWritable) :
    (bare name args entries inner).HasWritableItems := by
  refine ⟨hName, hArgs, ?_⟩
  rintro ⟨key, v⟩ he
  obtain hMem | ⟨hNone, -⟩ := Table.mem_entries_insertAll he
  · have hEntry := mem_present.mp hMem
    exact ⟨hKeys key (List.mem_map_of_mem hEntry), hValues _ (List.mem_map_of_mem hEntry) v rfl⟩
  · cases hNone

theorem isWritable_of_line (h : n.HasWritableItems) (hChildren : n.children = []) :
    n.IsWritable depth := by
  cases depth with
  | zero => exact ⟨h, hChildren⟩
  | succ depth => exact ⟨h, by simp [hChildren]⟩

theorem isWritable_directive {v : Value} (hName : Token.IsWord name) (h : v.IsWritable) :
    (directive name v).IsWritable depth :=
  isWritable_of_line (hasWritableItems_bare hName (List.forall_mem_singleton.mpr h) nofun nofun) rfl

end Source.Node

section Parts

variable {depth : Nat}

theorem isWritable_given {v : Value} (h : v = .none ∨ v.IsWritable) :
    ∀ u ∈ v.given?, u.IsWritable := by
  obtain rfl | hWritable := h
  · exact nofun
  · cases v <;> rintro _ ⟨⟩ <;> exact hWritable

theorem Choice.isWritable_toNode (choice : Choice) : choice.toNode.IsWritable depth := by
  have hKeys : ∀ key ∈ ["label", "to"], Token.IsWord key := by decide
  refine isWritable_of_line (hasWritableItems_bare (by decide) ?_ hKeys ?_) rfl
  · exact List.forall_mem_singleton.mpr trivial
  · simp [Value.IsWritable]

theorem Route.isWritable_toNode {route : Route}
    (h : route.priority = .none ∨ route.priority.IsWritable) : route.toNode.IsWritable depth := by
  have hKeys : ∀ key ∈ ["when", "to", "priority"], Token.IsWord key := by decide
  refine isWritable_of_line (hasWritableItems_bare (by decide) nofun hKeys ?_) rfl
  simpa [Value.IsWritable] using isWritable_given h

theorem Transition.isWritable_toNode {t : Transition}
    (h : t.priority = .none ∨ t.priority.IsWritable) : t.toNode.IsWritable depth := by
  have hKeys : ∀ key ∈ ["from", "to", "when", "priority"], Token.IsWord key := by decide
  refine isWritable_of_line (hasWritableItems_bare (by decide) nofun hKeys ?_) rfl
  simpa [Value.IsWritable] using isWritable_given h

theorem Retry.isWritable_toNode {retry : Retry} (h : retry.maxAttempts.IsWritable) :
    retry.toNode.IsWritable depth := by
  have hKeys : ∀ key ∈ ["max_attempts", "backoff", "delay", "max_delay"], Token.IsWord key := by
    decide
  refine isWritable_of_line (hasWritableItems_bare (by decide) nofun hKeys ?_) rfl
  simpa [Value.IsWritable] using h

theorem Profile.isWritable_toNode (name : String) (profile : Profile) :
    (profile.toNode name).IsWritable depth := by
  have hKeys : ∀ key ∈ ["model", "provider", "reasoning_effort"], Token.IsWord key := by decide
  refine isWritable_of_line (hasWritableItems_bare (by decide) ?_ hKeys ?_) rfl
  · exact List.forall_mem_singleton.mpr trivial
  · simp [Value.IsWritable]

theorem Models.isWritable_toNode (models : Models) : models.toNode.IsWritable (depth + 1) := by
  refine ⟨hasWritableItems_bare (by decide) nofun nofun nofun, ?_⟩
  refine List.forall_mem_append.mpr ⟨?_, ?_⟩
  · intro n hn
    obtain ⟨model, -, rfl⟩ := Option.map_eq_some_iff.mp (Option.mem_toList.mp hn)
    exact isWritable_directive (by decide) trivial
  · intro n hn
    obtain ⟨e, -, rfl⟩ := List.mem_map.mp hn
    exact Profile.isWritable_toNode e.1 e.2

theorem Value.IsScannedPriority.isWritable {v : Value} (h : v.IsScannedPriority) :
    v = .none ∨ v.IsWritable := by
  obtain hNone | ⟨i, rfl, hScanned⟩ := h
  · exact Or.inl hNone
  · exact Or.inr (hScanned.isWritable nofun)

theorem Stage.isWritable_toNode {stage : Stage} (h : stage.IsRegular)
    (hFloat : ∀ v ∈ stage.values, ∀ x, v ≠ .float x) : stage.toNode.IsWritable (depth + 1) := by
  have hKind : Token.IsWord "kind" := by decide
  refine ⟨hasWritableItems_bare (by decide) (List.forall_mem_singleton.mpr trivial) ?_ ?_, ?_⟩
  · intro key hKey
    rw [List.map_cons, List.map_map, List.mem_cons] at hKey
    obtain rfl | hAttr := hKey
    · exact hKind
    · obtain ⟨e, he, rfl⟩ := List.mem_map.mp hAttr
      exact (h.attrs e he).1
  · intro value hValue v hv
    rw [List.map_cons, List.map_map, List.mem_cons] at hValue
    obtain rfl | hAttr := hValue
    · cases hv
      trivial
    · obtain ⟨e, he, rfl⟩ := List.mem_map.mp hAttr
      cases hv
      have hMem : e.2 ∈ stage.values :=
        List.mem_append_left _ (List.mem_append_left _ (List.mem_map_of_mem he))
      exact (h.attrs e he).2.isWritable (hFloat e.2 hMem)
  · intro n hn
    rcases List.mem_append.mp hn with hn | hn
    · rcases List.mem_append.mp hn with hn | hn
      · obtain ⟨choice, -, rfl⟩ := List.mem_map.mp hn
        exact Choice.isWritable_toNode choice
      · obtain ⟨route, hRoute, rfl⟩ := List.mem_map.mp hn
        exact Route.isWritable_toNode (h.priorities route hRoute).isWritable
    · obtain ⟨retry, hRetry, rfl⟩ := Option.map_eq_some_iff.mp (Option.mem_toList.mp hn)
      have hMem : retry.maxAttempts ∈ stage.values :=
        List.mem_append_right _ (Option.mem_toList.mpr (Option.mem_map_of_mem _ hRetry))
      exact Retry.isWritable_toNode ((h.retry retry hRetry).scanned.isWritable (hFloat _ hMem))

end Parts

namespace Definition

variable {source : String} {d : Definition}

theorem isWritable_texts {name : String} {text : Option String} {depth : Nat}
    (hName : Token.IsWord name) :
    ∀ n ∈ (text.map fun s => directive name (.str s)).toList, n.IsWritable depth := by
  intro n hn
  obtain ⟨s, -, rfl⟩ := Option.map_eq_some_iff.mp (Option.mem_toList.mp hn)
  exact isWritable_directive hName trivial

theorem IsRegular.isWritable_toNode (h : d.IsRegular) (hFloat : d.HoldsNoFloat) :
    d.toNode.IsWritable 64 := by
  refine ⟨hasWritableItems_bare (by decide) (List.forall_mem_singleton.mpr trivial) nofun nofun, ?_⟩
  intro n hn
  obtain ⟨part, hPart, hn⟩ := List.mem_flatMap.mp hn
  simp only [Definition.parts, List.mem_cons, List.not_mem_nil, or_false] at hPart
  obtain rfl | rfl | rfl | rfl | rfl | rfl | rfl | rfl := hPart
  · obtain ⟨i, -, hScanned⟩ := h.version
    have hVersion := hScanned.isWritable (hFloat d.version (by simp [values]))
    rw [List.mem_singleton.mp hn]
    exact isWritable_directive (by decide) hVersion
  · exact isWritable_texts (by decide) n hn
  · exact isWritable_texts (by decide) n hn
  · rw [List.mem_singleton.mp hn]
    exact isWritable_directive (by decide) trivial
  · obtain ⟨models, -, rfl⟩ := Option.map_eq_some_iff.mp (Option.mem_toList.mp hn)
    exact models.isWritable_toNode
  · exact isWritable_texts (by decide) n hn
  · obtain ⟨stage, hStage, rfl⟩ := List.mem_map.mp hn
    exact Stage.isWritable_toNode (h.stages stage hStage) (hFloat.stage stage hStage)
  · obtain ⟨t, ht, rfl⟩ := List.mem_map.mp hn
    exact Transition.isWritable_toNode (h.priorities t ht).isWritable

/-- A definition that was read and holds no number with a point is read from its text again, but
for the lines of its stages. -/
theorem parse_written (h : parse source = .ok d) (hFloat : d.HoldsNoFloat) :
    ∃ d', parse d.written = .ok d' ∧ d'.unlined = d.unlined := by
  have hRegular := isRegular_parse h
  obtain ⟨ts, hScan, n, hTree, hCopies⟩ :=
    exists_ofTokens_written (hRegular.isWritable_toNode hFloat)
  obtain ⟨d', hRead, hUnlined⟩ := exists_ofNodes_eq_ok hCopies hRegular hFloat
  refine ⟨d', ?_, hUnlined⟩
  simp only [parse, Except.bind_eq_ok_iff, Except.mapError_eq_ok_iff]
  exact ⟨ts, hScan, [n], hTree, hRead⟩

theorem parse_written_at_prompted_stage :
    ∃ (source : String) (d : Definition),
      source = "workflow w \x7b start a; goal \"\"; version -3\n\n stage a x.1=true " ++
        "kind=human \x7b prompt \"a \\\"b\\\"\\n\\\\\"; retry max_attempts=2 backoff=fixed; " ++
        "option y to=z label=\"\" \x7d\n stage z kind=exit \x7d" ∧
      d = { name := "w", start := "a", version := .int (-3), goal := some "", stages := [
        { id := "a", kind := .human, line := 3, choices := [⟨"y", "y", "z"⟩],
          attrs := ⟨[("x.1", .bool true), ("prompt", .str "a \"b\"\n\\")], by decide⟩,
          retry := some ⟨.int 2, some "fixed", none, none⟩ },
        { id := "z", kind := .exit, line := 4 }] } ∧
      parse source = .ok d ∧ d.HoldsNoFloat ∧ d.written ≠ source ∧
      ∃ d', parse d.written = .ok d' ∧ d'.unlined = d.unlined := by
  obtain ⟨d, hd⟩ : ∃ d : Definition, d =
      { name := "w", start := "a", version := .int (-3), goal := some "", stages := [
        { id := "a", kind := .human, line := 3, choices := [⟨"y", "y", "z"⟩],
          attrs := ⟨[("x.1", .bool true), ("prompt", .str "a \"b\"\n\\")], by decide⟩,
          retry := some ⟨.int 2, some "fixed", none, none⟩ },
        { id := "z", kind := .exit, line := 4 }] } := ⟨_, rfl⟩
  have hParse : parse ("workflow w \x7b start a; goal \"\"; version -3\n\n stage a x.1=true " ++
      "kind=human \x7b prompt \"a \\\"b\\\"\\n\\\\\"; retry max_attempts=2 backoff=fixed; " ++
      "option y to=z label=\"\" \x7d\n stage z kind=exit \x7d") = .ok d := by
    rw [hd]
    decide +kernel
  have hFloat : d.HoldsNoFloat := by
    rw [hd]
    simp [HoldsNoFloat, values, Stage.values, Table.values, Table.empty]
  refine ⟨_, d, rfl, hd, hParse, hFloat, ?_, parse_written hParse hFloat⟩
  rw [hd]
  decide +kernel

end Definition

end Workflow
