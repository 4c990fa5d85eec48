import Workflow.Proofs.Definition.Written
import Workflow.Proofs.Source.Lexeme

/-!
# Reading without places

Only the lines of stages and the errors of a document depend on where its nodes stand. From trees
that are equal but for their places the readers give definitions that are equal but for the lines
of their stages, or errors.
-/

namespace Workflow

open Workflow.Source Except

section Nodes

variable {n m : Node} (h : n.Copies m) (stage : String)

include h

namespace Source.Node

theorem corresponds_textArgument (what : String) :
    Corresponds Eq (n.textArgument stage what) (m.textArgument stage what) := by
  unfold textArgument
  rw [h.args_eq]
  split
  · rfl
  · trivial

theorem corresponds_integerArgument (what : String) :
    Corresponds Eq (n.integerArgument stage what) (m.integerArgument stage what) := by
  unfold integerArgument
  rw [h.args_eq]
  split
  · rfl
  · trivial

theorem corresponds_textProperty? (key : String) :
    Corresponds Eq (n.textProperty? stage key) (m.textProperty? stage key) := by
  unfold textProperty?
  rw [h.props_eq]
  split
  · rfl
  · rfl
  · trivial

theorem corresponds_textProperty (key : String) :
    Corresponds Eq (n.textProperty stage key) (m.textProperty stage key) := by
  refine (corresponds_textProperty? h stage key).bind_eq fun text? => ?_
  split
  · rfl
  · trivial

theorem corresponds_integerProperty (key : String) :
    Corresponds Eq (n.integerProperty stage key) (m.integerProperty stage key) := by
  unfold integerProperty
  rw [h.props_eq]
  split
  · rfl
  · rfl
  · trivial

end Source.Node

open Source.Node

theorem Choice.corresponds_ofNode : Corresponds Eq (Choice.ofNode stage n) (Choice.ofNode stage m) :=
  (corresponds_textArgument h stage _).bind_eq fun _ =>
    (corresponds_textProperty? h stage _).bind_eq fun _ =>
      (corresponds_textProperty h stage _).bind_eq fun _ => rfl

theorem Route.corresponds_ofNode : Corresponds Eq (Route.ofNode stage n) (Route.ofNode stage m) :=
  (corresponds_textProperty h stage _).bind_eq fun _ =>
    (corresponds_textProperty h stage _).bind_eq fun _ =>
      (corresponds_integerProperty h stage _).bind_eq fun _ => rfl

theorem Transition.corresponds_ofNode : Corresponds Eq (Transition.ofNode n) (Transition.ofNode m) :=
  (corresponds_textProperty h "" _).bind_eq fun _ =>
    (corresponds_textProperty h "" _).bind_eq fun _ =>
      (corresponds_textProperty? h "" _).bind_eq fun _ =>
        (corresponds_integerProperty h "" _).bind_eq fun _ => rfl

theorem Retry.corresponds_attemptsOf :
    Corresponds Eq (Retry.attemptsOf stage n) (Retry.attemptsOf stage m) := by
  unfold Retry.attemptsOf
  rw [h.props_eq]
  split
  · trivial
  · rfl
  · rfl
  · trivial

theorem Retry.corresponds_ofNode : Corresponds Eq (Retry.ofNode stage n) (Retry.ofNode stage m) := by
  refine (Retry.corresponds_attemptsOf h stage).bind_eq fun maxAttempts =>
    (corresponds_textProperty? h stage _).bind_eq fun backoff => ?_
  have hDelays : Corresponds Eq
      (do .ok ({ maxAttempts, backoff, delay := ← n.textProperty? stage "delay",
                 maxDelay := ← n.textProperty? stage "max_delay" } : Retry))
      (do .ok ({ maxAttempts, backoff, delay := ← m.textProperty? stage "delay",
                 maxDelay := ← m.textProperty? stage "max_delay" } : Retry)) :=
    (corresponds_textProperty? h stage _).bind_eq fun _ =>
      (corresponds_textProperty? h stage _).bind_eq fun _ => rfl
  split
  · split
    · trivial
    · exact hDelays
  · exact hDelays

theorem Stage.corresponds_kindOf : Corresponds Eq (Stage.kindOf stage n) (Stage.kindOf stage m) := by
  refine (corresponds_textProperty? h stage _).bind_eq fun word? => ?_
  split
  · trivial
  · split
    · rfl
    · trivial

end Nodes

/-- Stages are equal but for their lines. -/
theorem Stage.unlined_eq_iff {s t : Stage} :
    s.unlined = t.unlined ↔ ∃ line, t = { s with line } := by
  constructor
  · intro h
    obtain ⟨id, kind, attrs, choices, routes, retry, line⟩ := s
    obtain ⟨id', kind', attrs', choices', routes', retry', line'⟩ := t
    simp only [Stage.unlined, Stage.mk.injEq, and_true] at h
    obtain ⟨rfl, rfl, rfl, rfl, rfl, rfl⟩ := h
    exact ⟨line', rfl⟩
  · rintro ⟨line, rfl⟩
    rfl

section Stages

open Source.Node

variable {n m : Node} {ns ms : List Node}

def Stage.Copies (s t : Stage) : Prop :=
  s.unlined = t.unlined

theorem Stage.corresponds_addChild {s t : Stage} (hStages : s.Copies t) (h : n.Copies m) :
    Corresponds Stage.Copies (s.addChild n) (t.addChild m) := by
  obtain ⟨line, rfl⟩ := Stage.unlined_eq_iff.mp hStages
  unfold Stage.addChild
  rw [h.name_eq]
  split
  · split
    · trivial
    · exact (corresponds_textArgument h s.id _).bind_eq fun _ => rfl
  · split
    · trivial
    · exact (Choice.corresponds_ofNode h s.id).bind_eq fun _ => rfl
  · split
    · trivial
    · exact (Route.corresponds_ofNode h s.id).bind_eq fun _ => rfl
  · split
    · trivial
    · exact (Retry.corresponds_ofNode h s.id).bind_eq fun _ => rfl
  · trivial

theorem Stage.corresponds_checkCommand {s t : Stage} (hStages : s.Copies t) :
    Corresponds Eq (s.checkCommand n) (t.checkCommand m) := by
  obtain ⟨line, rfl⟩ := Stage.unlined_eq_iff.mp hStages
  unfold Stage.checkCommand
  dsimp only
  split
  · split
    · trivial
    · rfl
  · trivial
  · rfl

theorem Stage.corresponds_checkPrompt {s t : Stage} (hStages : s.Copies t) :
    Corresponds Eq (s.checkPrompt n) (t.checkPrompt m) := by
  obtain ⟨line, rfl⟩ := Stage.unlined_eq_iff.mp hStages
  unfold Stage.checkPrompt
  dsimp only
  split
  · split
    · trivial
    · rfl
  · trivial
  · rfl

theorem Stage.corresponds_ofNode (h : n.Copies m) :
    Corresponds Stage.Copies (Stage.ofNode n) (Stage.ofNode m) := by
  refine (corresponds_textArgument h "" _).bind_eq fun id =>
    (Stage.corresponds_kindOf h id).bind_eq fun kind => ?_
  have hBare : Stage.Copies
      { id, kind, attrs := n.props.erase "kind", line := n.place.line }
      { id, kind, attrs := m.props.erase "kind", line := m.place.line } := by
    rw [h.props_eq]
    rfl
  refine (Corresponds.foldlM h.children
    (fun _ _ _ _ => Stage.corresponds_addChild) hBare).bind fun s t hStages => ?_
  exact (Stage.corresponds_checkCommand hStages).bind_eq fun _ =>
    (Stage.corresponds_checkPrompt hStages).bind_eq fun _ => hStages

theorem Models.corresponds_ofNode (h : n.Copies m) :
    Corresponds Eq (Models.ofNode n) (Models.ofNode m) := by
  refine Corresponds.foldlM h.children ?_ rfl
  rintro models _ n m rfl h
  unfold Models.addChild
  rw [h.name_eq]
  split
  · exact (corresponds_textArgument h "" _).bind_eq fun _ => rfl
  · exact (corresponds_textArgument h "" _).bind_eq fun _ =>
      (corresponds_textProperty? h "" _).bind_eq fun _ =>
        (corresponds_textProperty? h "" _).bind_eq fun _ =>
          (corresponds_textProperty? h "" _).bind_eq fun _ => rfl
  · trivial

end Stages

section Documents

open Source.Node

variable {n m : Node} {ns ms : List Node}

theorem forall₂_copies_iff_unlined {ss ts : List Stage} :
    List.Forall₂ Stage.Copies ss ts ↔ ss.map Stage.unlined = ts.map Stage.unlined := by
  rw [← List.forall₂_eq_eq_eq, List.forall₂_map_left_iff, List.forall₂_map_right_iff]
  rfl

theorem Source.Node.corresponds_single? (h : List.Forall₂ Node.Copies ns ms) (name : String) :
    Corresponds (Option.Rel Node.Copies) (Node.single? name ns) (Node.single? name ms) := by
  have hNamed := forall₂_copies_filter h name
  unfold Node.single?
  generalize ns.filter (·.name == name) = named, ms.filter (·.name == name) = named' at hNamed ⊢
  cases hNamed with
  | nil => exact .none
  | cons hFirst hRest =>
    cases hRest with
    | nil => exact .some hFirst
    | cons => trivial

namespace Definition

theorem corresponds_rootOf (h : List.Forall₂ Node.Copies ns ms) :
    Corresponds Node.Copies (rootOf ns) (rootOf ms) := by
  unfold rootOf
  cases h with
  | nil => trivial
  | cons hFirst hRest =>
    cases hRest with
    | nil =>
      dsimp only
      rw [hFirst.name_eq]
      split
      · exact hFirst
      · trivial
    | cons => trivial

theorem corresponds_checkDirectives (h : List.Forall₂ Node.Copies ns ms) :
    Corresponds Eq (checkDirectives ns) (checkDirectives ms) := by
  unfold checkDirectives
  induction h with
  | nil => rfl
  | @cons n m _ _ hFirst _ ih =>
    rw [List.find?_cons, List.find?_cons, hFirst.name_eq]
    cases !directives.contains m.name
    · exact ih
    · trivial

theorem corresponds_addStage {ss ts : List Stage} (hStages : List.Forall₂ Stage.Copies ss ts)
    (h : n.Copies m) :
    Corresponds (List.Forall₂ Stage.Copies) (addStage ss n) (addStage ts m) := by
  refine (Stage.corresponds_ofNode h).bind fun s t hStage => ?_
  have hFind : Option.Rel Stage.Copies (ss.find? (·.id == s.id)) (ts.find? (·.id == t.id)) := by
    obtain ⟨line, rfl⟩ := Stage.unlined_eq_iff.mp hStage
    induction hStages with
    | nil => exact .none
    | @cons s' t' _ _ hFirst _ ih =>
      obtain ⟨line', rfl⟩ := Stage.unlined_eq_iff.mp hFirst
      rw [List.find?_cons, List.find?_cons]
      dsimp only
      split
      · exact .some hFirst
      · exact ih
  revert hFind
  cases ss.find? (·.id == s.id) <;> cases ts.find? (·.id == t.id)
  · exact fun _ => List.rel_append hStages (.cons hStage .nil)
  · exact nofun
  · exact nofun
  · exact fun _ => trivial

theorem corresponds_ofNodes (h : List.Forall₂ Node.Copies ns ms) :
    Corresponds (fun d d' => d.unlined = d'.unlined) (ofNodes ns) (ofNodes ms) := by
  refine (corresponds_rootOf h).bind fun root root' hRoot => ?_
  have hChildren := hRoot.children
  refine (corresponds_textArgument hRoot "" _).bind_eq fun name => ?_
  refine (corresponds_checkDirectives hChildren).bind_eq fun _ => ?_
  refine (corresponds_single? hChildren "start").bind fun _ _ hStart => ?_
  cases hStart with
  | none => trivial
  | some hStart =>
    refine (corresponds_textArgument hStart "" _).bind_eq fun start => ?_
    refine (corresponds_single? hChildren "version").bind fun _ _ hVersion => ?_
    refine (corresponds_single? hChildren "goal").bind fun goal goal' hGoal => ?_
    refine (corresponds_single? hChildren "description").bind fun text text' hText => ?_
    refine (corresponds_single? hChildren "model_stylesheet").bind fun style style' hStyle => ?_
    refine (corresponds_single? hChildren "models").bind fun models models' hModels => ?_
    refine (Corresponds.foldlM (forall₂_copies_filter hChildren "stage")
      (fun _ _ _ _ => corresponds_addStage) .nil).bind fun stages stages' hStages => ?_
    have hUnlined := forall₂_copies_iff_unlined.mp hStages
    have hDeclared : stages.any (·.id == start) = stages'.any (·.id == start) := by
      have hIds := congrArg (List.any · (· == start)) (map_id_of_unlined hUnlined)
      rw [List.any_map, List.any_map] at hIds
      exact hIds
    rw [hDeclared]
    refine Corresponds.guard (a := ()) trivial fun _ => ?_
    refine (Corresponds.listMapM (forall₂_copies_filter hChildren "transition")
      fun _ _ => Transition.corresponds_ofNode).bind_eq fun transitions => ?_
    have hOptional (version : Value) : Corresponds (fun d d' => d.unlined = d'.unlined)
        (do .ok ({ name, start, stages, transitions, version,
                   goal := ← goal.mapM (·.textArgument "" "workflow goal"),
                   description := ← text.mapM (·.textArgument "" "workflow description"),
                   models := ← models.mapM Models.ofNode,
                   stylesheet := ← style.mapM (·.textArgument "" "model_stylesheet") } : Definition))
        (do .ok ({ name, start, stages := stages', transitions, version,
                   goal := ← goal'.mapM (·.textArgument "" "workflow goal"),
                   description := ← text'.mapM (·.textArgument "" "workflow description"),
                   models := ← models'.mapM Models.ofNode,
                   stylesheet := ← style'.mapM (·.textArgument "" "model_stylesheet") } :
              Definition)) := by
      refine (Corresponds.optionMapM hGoal fun _ _ h => corresponds_textArgument h "" _).bind_eq
        fun goal => ?_
      refine (Corresponds.optionMapM hText fun _ _ h => corresponds_textArgument h "" _).bind_eq
        fun description => ?_
      refine (Corresponds.optionMapM hModels fun _ _ => Models.corresponds_ofNode).bind_eq
        fun models => ?_
      refine (Corresponds.optionMapM hStyle fun _ _ h => corresponds_textArgument h "" _).bind_eq
        fun stylesheet => ?_
      simp only [Corresponds, unlined, hUnlined]
    cases hVersion with
    | none => exact hOptional _
    | some hVersion => exact (corresponds_integerArgument hVersion "" _).bind_eq hOptional

end Definition

end Documents

section Sources

open Source.Token Source.Node

variable {source source' : String} {ts us : List Token}

theorem Source.Token.corresponds_scan
    (h : withoutPlaces (scan source) = withoutPlaces (scan source')) :
    Corresponds (fun ts us => ts.map lexeme = us.map lexeme) (scan source) (scan source') := by
  revert h
  cases scan source <;> cases scan source'
  · exact fun _ => trivial
  · exact nofun
  · exact nofun
  · exact fun h => Except.ok.inj h

theorem Source.Node.corresponds_ofTokens (h : ts.map lexeme = us.map lexeme) :
    Corresponds (List.Forall₂ Node.Copies) (ofTokens ts) (ofTokens us) := by
  cases hFirst : ofTokens ts with
  | ok nodes =>
    obtain ⟨nodes', hSecond, hCopies⟩ := exists_ofTokens_of_lexemes h.symm hFirst
    rw [hSecond]
    exact forall₂_copies_iff.mpr hCopies.symm
  | error e =>
    cases hSecond : ofTokens us with
    | ok nodes =>
      obtain ⟨nodes', hNodes, -⟩ := exists_ofTokens_of_lexemes h hSecond
      rw [hFirst] at hNodes
      cases hNodes
    | error e' => trivial

namespace Definition

theorem corresponds_parse (h : withoutPlaces (scan source) = withoutPlaces (scan source')) :
    Corresponds (fun d d' => d.unlined = d'.unlined) (parse source) (parse source') :=
  (corresponds_scan h).mapError.bind fun _ _ hTokens =>
    (corresponds_ofTokens hTokens).mapError.bind fun _ _ hNodes =>
      (corresponds_ofNodes hNodes).mapError

/-- A comment that stands between tokens is a blank: the tokens have the same kinds and values, or
there is the same fault, and the same definition is read but for the lines of its stages. -/
theorem comment_eq_blank {before comment after : String} {done : List (Kind × String)}
    (h : Passes before.toList done (comment ++ after).toList)
    (hComment : IsComment comment.toList after.toList) :
    withoutPlaces (scan (before ++ comment ++ after)) =
        withoutPlaces (scan (before ++ " " ++ after)) ∧
      (parse (before ++ comment ++ after)).toOption.map unlined =
        (parse (before ++ " " ++ after)).toOption.map unlined := by
  have hLexemes : withoutPlaces (scan (before ++ comment ++ after)) =
      withoutPlaces (scan (before ++ " " ++ after)) := by
    rw [String.toList_append] at h
    have hBlank := lexemes_comment_eq_blank h hComment
    have hSpace : " ".toList = [' '] := rfl
    simpa only [scan, lexemes, String.toList_append, List.append_assoc, hSpace,
      List.singleton_append] using hBlank
  exact ⟨hLexemes, (corresponds_parse hLexemes).map_toOption⟩

/-- A comment on two lines behind a string that looks like one. -/
theorem comment_eq_blank_behind_string :
    let before := "workflow w\x7bstart \"//\";stage \"//\""
    let comment := "/* ;\n\" */"
    let after := "kind=exit\x7d"
    Passes before.toList [(.word, "workflow"), (.word, "w"), (.opening, "\x7b"), (.word, "start"),
        (.string, "//"), (.newline, "\n"), (.word, "stage"), (.string, "//")]
        (comment ++ after).toList ∧
      IsComment comment.toList after.toList ∧
      withoutPlaces (scan (before ++ comment ++ after)) =
        withoutPlaces (scan (before ++ " " ++ after)) ∧
      (parse (before ++ comment ++ after)).toOption.map unlined =
        some { name := "w", start := "//", stages := [{ id := "//", kind := .exit }] } := by
  intro before comment after
  have hPasses : Passes before.toList [(.word, "workflow"), (.word, "w"), (.opening, "\x7b"),
      (.word, "start"), (.string, "//"), (.newline, "\n"), (.word, "stage"), (.string, "//")]
      (comment ++ after).toList := by decide +kernel
  have hFront : front '/' ("* ;\n\" */".toList ++ after.toList) =
      .gap "* ;\n\" */".toList.length := rfl
  have hText : comment.toList = '/' :: "* ;\n\" */".toList := by decide +kernel
  have hComment : IsComment comment.toList after.toList := by
    rw [hText]
    exact isComment_iff_front.mpr hFront
  obtain ⟨hScan, hParse⟩ := comment_eq_blank hPasses hComment
  have hBlank : parse (before ++ " " ++ after) = .ok
      { name := "w", start := "//", stages := [{ id := "//", kind := .exit, line := 1 }] } := by
    decide +kernel
  refine ⟨hPasses, hComment, hScan, ?_⟩
  rw [hParse, hBlank]
  rfl

end Definition

end Sources

end Workflow
