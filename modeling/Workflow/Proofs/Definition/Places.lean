import Workflow.Proofs.Definition.Reader
import Workflow.Proofs.Source.Layout
import Workflow.Proofs.Source.Reader

/-!
# Where the errors of a source stand

An error about the content of a node tree is about one of its nodes, and names the stage that the
node is or belongs to. The place of a node is the place of the word that begins it. So every error
of a source without a place of its own is about an empty document, and every other one stands at a
place of the source or at its end.
-/

namespace Workflow

open Workflow.Source Workflow.Text Except

namespace Source.Node

/-- The node of a stage with a text as its id. -/
structure IsStage (n : Node) (id : String) : Prop where
  name : n.name = "stage"
  argument : n.args.head? = some (.str id)

variable {node : Node} {stage what : String}

theorem textArgument_eq_ok_iff {text : String} :
    node.textArgument stage what = .ok text ↔ node.args.head? = some (.str text) := by
  unfold textArgument
  split
  · next hArgument => rw [hArgument, Except.ok.injEq, Option.some.injEq, Value.str.injEq]
  · next hOther => exact iff_of_false nofun fun h => hOther text h

theorem forall_ne_of_textArgument {e : ContentError}
    (h : node.textArgument stage what = .error e) : ∀ text, node.args.head? ≠ some (.str text) := by
  intro text hText
  rw [textArgument_eq_ok_iff.mpr hText] at h
  cases h

end Source.Node

section Nodes

variable {P : ContentError → Prop} {node : Node} {stage : String}
  (hNode : ∀ fault, P ⟨fault, node.place, stage⟩)

include hNode

namespace Source.Node

theorem failsWith_refuse {α : Type} (fault : ContentFault) :
    FailsWith P (node.refuse stage fault : Read α) :=
  fun _ h => Except.error.inj h ▸ hNode fault

theorem failsWith_textArgument (what : String) : FailsWith P (node.textArgument stage what) := by
  unfold textArgument
  split
  · exact failsWith_ok
  · exact failsWith_refuse hNode _

theorem failsWith_integerArgument (what : String) :
    FailsWith P (node.integerArgument stage what) := by
  unfold integerArgument
  split
  · exact failsWith_ok
  · exact failsWith_refuse hNode _

theorem failsWith_textProperty? (key : String) : FailsWith P (node.textProperty? stage key) := by
  unfold textProperty?
  split
  · exact failsWith_ok
  · exact failsWith_ok
  · exact failsWith_refuse hNode _

theorem failsWith_textProperty (key : String) : FailsWith P (node.textProperty stage key) := by
  refine (failsWith_textProperty? hNode key).bind fun text? _ => ?_
  split
  · exact failsWith_ok
  · exact failsWith_refuse hNode _

theorem failsWith_integerProperty (key : String) :
    FailsWith P (node.integerProperty stage key) := by
  unfold integerProperty
  split
  · exact failsWith_ok
  · exact failsWith_ok
  · exact failsWith_refuse hNode _

end Source.Node

open Source.Node

theorem Choice.failsWith_ofNode : FailsWith P (Choice.ofNode stage node) :=
  (failsWith_textArgument hNode _).bind fun _ _ =>
    (failsWith_textProperty? hNode _).bind fun _ _ =>
      (failsWith_textProperty hNode _).bind fun _ _ => failsWith_ok

theorem Route.failsWith_ofNode : FailsWith P (Route.ofNode stage node) :=
  (failsWith_textProperty hNode _).bind fun _ _ =>
    (failsWith_textProperty hNode _).bind fun _ _ =>
      (failsWith_integerProperty hNode _).bind fun _ _ => failsWith_ok

theorem Retry.failsWith_attemptsOf : FailsWith P (Retry.attemptsOf stage node) := by
  unfold Retry.attemptsOf
  split
  · exact failsWith_refuse hNode _
  · exact failsWith_ok
  · exact failsWith_ok
  · exact failsWith_refuse hNode _

theorem Retry.failsWith_ofNode : FailsWith P (Retry.ofNode stage node) := by
  refine (Retry.failsWith_attemptsOf hNode).bind fun maxAttempts _ =>
    (failsWith_textProperty? hNode _).bind fun backoff _ => ?_
  have hDelays : FailsWith P (do
      let delay ← node.textProperty? stage "delay"
      let maxDelay ← node.textProperty? stage "max_delay"
      .ok ({ maxAttempts, backoff, delay, maxDelay } : Retry)) :=
    (failsWith_textProperty? hNode _).bind fun _ _ =>
      (failsWith_textProperty? hNode _).bind fun _ _ => failsWith_ok
  split
  · split
    · exact (failsWith_refuse hNode _).bind fun _ _ => hDelays
    · exact hDelays
  · exact hDelays

theorem Stage.failsWith_kindOf : FailsWith P (Stage.kindOf stage node) := by
  refine (failsWith_textProperty? hNode _).bind fun word? _ => ?_
  split
  · exact failsWith_refuse hNode _
  · split
    · exact failsWith_ok
    · exact failsWith_refuse hNode _

end Nodes

section Stages

open Source.Node

variable {P : ContentError → Prop} {node : Node} {stage : Stage}

section Checks

variable (hNode : ∀ fault, P ⟨fault, node.place, stage.id⟩)

include hNode

theorem Stage.failsWith_addChild : FailsWith P (stage.addChild node) := by
  unfold Stage.addChild
  split
  · split
    · exact failsWith_refuse hNode _
    · exact (failsWith_textArgument hNode _).bind fun _ _ => failsWith_ok
  · split
    · exact failsWith_refuse hNode _
    · exact (Choice.failsWith_ofNode hNode).bind fun _ _ => failsWith_ok
  · split
    · exact failsWith_refuse hNode _
    · exact (Route.failsWith_ofNode hNode).bind fun _ _ => failsWith_ok
  · split
    · exact failsWith_refuse hNode _
    · exact (Retry.failsWith_ofNode hNode).bind fun _ _ => failsWith_ok
  · exact failsWith_refuse hNode _

theorem Stage.failsWith_checkCommand : FailsWith P (stage.checkCommand node) := by
  unfold Stage.checkCommand
  split
  · split
    · exact failsWith_refuse hNode _
    · exact failsWith_ok
  · exact failsWith_refuse hNode _
  · exact failsWith_ok

theorem Stage.failsWith_checkPrompt : FailsWith P (stage.checkPrompt node) := by
  unfold Stage.checkPrompt
  split
  · split
    · exact failsWith_refuse hNode _
    · exact failsWith_ok
  · exact failsWith_refuse hNode _
  · exact failsWith_ok

end Checks

theorem Stage.id_addChild {stage' : Stage} (h : stage.addChild node = .ok stage') :
    stage'.id = stage.id := by
  obtain ⟨prompt, rfl⟩ | ⟨choice, -, -, rfl⟩ | ⟨route, -, -, rfl⟩ | ⟨retry, -, rfl⟩ :=
    Stage.addChild_cases h
  all_goals rfl

/-- The errors of a stage node and its children name the stage once its id is read. -/
theorem Stage.failsWith_ofNode
    (hNode : (∀ id, node.args.head? ≠ some (.str id)) → ∀ fault, P ⟨fault, node.place, ""⟩)
    (hStage : ∀ id, node.args.head? = some (.str id) →
      (∀ fault, P ⟨fault, node.place, id⟩) ∧
        ∀ child ∈ node.children, ∀ fault, P ⟨fault, child.place, id⟩) :
    FailsWith P (Stage.ofNode node) := by
  have hArgument : FailsWith P (node.textArgument "" "stage id") := fun e hError =>
    failsWith_textArgument (hNode (forall_ne_of_textArgument hError)) _ e hError
  refine hArgument.bind fun id hId => ?_
  obtain ⟨hSelf, hChildren⟩ := hStage id (textArgument_eq_ok_iff.mp hId)
  have hKeep {s s' : Stage} (child : Node) (_ : child ∈ node.children) (hs : s.id = id)
      (h : s.addChild child = .ok s') : s'.id = id :=
    (Stage.id_addChild h).trans hs
  refine (Stage.failsWith_kindOf hSelf).bind fun kind _ => ?_
  refine (FailsWith.foldlM (·.id = id) hKeep ?_ rfl).bind fun stage hRead => ?_
  · rintro s child hChild rfl
    exact Stage.failsWith_addChild (hChildren child hChild)
  · obtain rfl : stage.id = id := foldlM_preserves hKeep rfl hRead
    exact (Stage.failsWith_checkCommand hSelf).bind fun _ _ =>
      (Stage.failsWith_checkPrompt hSelf).bind fun _ _ => failsWith_ok

end Stages

section Documents

open Source.Node

variable {P : ContentError → Prop} {node : Node} {nodes : List Node}

theorem Transition.failsWith_ofNode (hNode : ∀ fault, P ⟨fault, node.place, ""⟩) :
    FailsWith P (Transition.ofNode node) :=
  (failsWith_textProperty hNode _).bind fun _ _ =>
    (failsWith_textProperty hNode _).bind fun _ _ =>
      (failsWith_textProperty? hNode _).bind fun _ _ =>
        (failsWith_integerProperty hNode _).bind fun _ _ => failsWith_ok

theorem Models.failsWith_addChild {models : Models} (hNode : ∀ fault, P ⟨fault, node.place, ""⟩) :
    FailsWith P (models.addChild node) := by
  unfold Models.addChild
  split
  · exact (failsWith_textArgument hNode _).bind fun _ _ => failsWith_ok
  · exact (failsWith_textArgument hNode _).bind fun _ _ =>
      (failsWith_textProperty? hNode _).bind fun _ _ =>
        (failsWith_textProperty? hNode _).bind fun _ _ =>
          (failsWith_textProperty? hNode _).bind fun _ _ => failsWith_ok
  · exact failsWith_refuse hNode _

theorem Models.failsWith_ofNode
    (hChildren : ∀ child ∈ node.children, ∀ fault, P ⟨fault, child.place, ""⟩) :
    FailsWith P (Models.ofNode node) :=
  FailsWith.foldlM (fun _ => True) (fun _ _ _ _ => trivial)
    (fun child hChild _ => Models.failsWith_addChild (hChildren child hChild)) trivial

theorem Source.Node.failsWith_single? {name : String}
    (hNodes : ∀ n ∈ nodes, n.name = name → ∀ fault, P ⟨fault, n.place, ""⟩) :
    FailsWith P (Node.single? name nodes) := by
  unfold single?
  split
  · exact failsWith_ok
  · exact failsWith_ok
  · next second rest hFilter =>
    have hSecond : second ∈ nodes.filter (·.name == name) := by simp [hFilter]
    obtain ⟨hMem, hName⟩ := List.mem_filter.mp hSecond
    exact failsWith_refuse (hNodes second hMem (beq_iff_eq.mp hName)) _

theorem Definition.failsWith_checkDirectives
    (hNodes : ∀ n ∈ nodes, n.name ∉ directives → ∀ fault, P ⟨fault, n.place, ""⟩) :
    FailsWith P (checkDirectives nodes) := by
  unfold checkDirectives
  split
  · next n hFind =>
    have hUnknown : n.name ∉ directives := by simpa using List.find?_some hFind
    exact failsWith_refuse (hNodes n (List.mem_of_find?_eq_some hFind) hUnknown) _
  · exact failsWith_ok

theorem Stage.textArgument_of_ofNode {stage : Stage} (h : Stage.ofNode node = .ok stage) :
    node.textArgument "" "stage id" = .ok stage.id := by
  simp only [Stage.ofNode, bind_eq_ok_iff, ok.injEq] at h
  obtain ⟨id, hId, kind, -, stage, hFold, -, -, -, -, rfl⟩ := h
  rw [hId]
  exact congrArg ok (foldlM_preserves (p := (·.id = id))
    (fun _ _ hs h => (Stage.id_addChild h).trans hs) rfl hFold).symm

theorem Definition.failsWith_addStage {stages : List Stage}
    (hNode : (∀ id, node.args.head? ≠ some (.str id)) → ∀ fault, P ⟨fault, node.place, ""⟩)
    (hStage : ∀ id, node.args.head? = some (.str id) →
      (∀ fault, P ⟨fault, node.place, id⟩) ∧
        ∀ child ∈ node.children, ∀ fault, P ⟨fault, child.place, id⟩) :
    FailsWith P (addStage stages node) := by
  refine (Stage.failsWith_ofNode hNode hStage).bind fun stage hRead => ?_
  split
  · have hId := textArgument_eq_ok_iff.mp (Stage.textArgument_of_ofNode hRead)
    exact failsWith_refuse (hStage stage.id hId).1 _
  · exact failsWith_ok

namespace Definition

/-- The places that an error about some nodes can name, each with the stage that it names. -/
inductive Blames (nodes : List Node) : Place → String → Prop
  | nothing : nodes = [] → Blames nodes .unknown ""
  | top {n : Node} : n ∈ nodes → Blames nodes n.place ""
  | directive {root n : Node} : nodes = [root] → n ∈ root.children →
      (∀ id, ¬ n.IsStage id) → Blames nodes n.place ""
  | models {root n child : Node} : nodes = [root] → n ∈ root.children → n.name = "models" →
      child ∈ n.children → Blames nodes child.place ""
  | stage {root n : Node} {id : String} : nodes = [root] → root.name = "workflow" →
      n ∈ root.children → n.IsStage id → Blames nodes n.place id
  | inStage {root n child : Node} {id : String} : nodes = [root] → root.name = "workflow" →
      n ∈ root.children → n.IsStage id → child ∈ n.children → Blames nodes child.place id

theorem failsWith_rootOf :
    FailsWith (fun e => Blames nodes e.place e.stage) (rootOf nodes) := by
  unfold rootOf
  split
  · rintro _ ⟨⟩
    exact .nothing rfl
  · split
    · exact failsWith_ok
    · exact failsWith_refuse (fun _ => .top (List.mem_singleton_self _)) _
  · exact failsWith_refuse (fun _ => .top (by simp)) _

theorem failsWith_ofNodes : FailsWith (fun e => Blames nodes e.place e.stage) (ofNodes nodes) := by
  refine failsWith_rootOf.bind fun root hRoot => ?_
  obtain ⟨rfl, hWorkflow⟩ := rootOf_eq_ok_iff.mp hRoot
  let P (e : ContentError) : Prop := Blames [root] e.place e.stage
  have hSelf (fault : ContentFault) : P ⟨fault, root.place, ""⟩ := .top (List.mem_singleton_self _)
  have hDirective {name : String} (hOther : name ≠ "stage") :
      ∀ n ∈ root.children, n.name = name → ∀ fault, P ⟨fault, n.place, ""⟩ :=
    fun n hn hName _ => .directive rfl hn fun _ hStage => hOther (hName ▸ hStage.name)
  have hSingle {name : String} {node? : Option Node} (hOther : name ≠ "stage")
      (h : Node.single? name root.children = .ok node?) :
      ∀ n ∈ node?, ∀ fault, P ⟨fault, n.place, ""⟩ := by
    intro n hn
    obtain rfl := Option.mem_def.mp hn
    exact hDirective hOther n (of_single? h).1 (of_single? h).2
  have hModels {node? : Option Node} (h : Node.single? "models" root.children = .ok node?) :
      ∀ n ∈ node?, FailsWith P (Models.ofNode n) := by
    intro n hn
    obtain rfl := Option.mem_def.mp hn
    obtain ⟨hMem, hName⟩ := of_single? h
    exact Models.failsWith_ofNode fun child hChild _ => .models rfl hMem hName hChild
  have hText {node? : Option Node} {name : String} (what : String) (hOther : name ≠ "stage")
      (h : Node.single? name root.children = .ok node?) :
      ∀ n ∈ node?, FailsWith P (n.textArgument "" what) :=
    fun n hn => failsWith_textArgument (hSingle hOther h n hn) _
  refine (failsWith_textArgument hSelf _).bind fun name _ => ?_
  refine (failsWith_checkDirectives fun n hn hUnknown _ => ?_).bind fun _ _ => ?_
  · exact .directive rfl hn fun _ hStage => hUnknown (hStage.name ▸ by decide)
  refine (failsWith_single? (hDirective (by decide))).bind fun startNode? hStart => ?_
  split
  · next startNode =>
    have hStartNode := hSingle (by decide) hStart startNode rfl
    refine (failsWith_textArgument hStartNode _).bind fun start _ => ?_
    refine (failsWith_single? (hDirective (by decide))).bind fun versionNode hVersion => ?_
    refine (failsWith_single? (hDirective (by decide))).bind fun goalNode hGoal => ?_
    refine (failsWith_single? (hDirective (by decide))).bind fun descriptionNode hDescription => ?_
    refine (failsWith_single? (hDirective (by decide))).bind fun stylesheetNode hStylesheet => ?_
    refine (failsWith_single? (hDirective (by decide))).bind fun modelsNode hModelsNode => ?_
    refine (FailsWith.foldlM (fun _ => True) (fun _ _ _ _ => trivial) ?_ trivial).bind
      fun stages _ => ?_
    · intro _ n hStage _
      obtain ⟨hMem, hName⟩ : n ∈ root.children ∧ n.name = "stage" := by
        simpa using List.mem_filter.mp hStage
      refine failsWith_addStage (fun hNoId _ => ?_) fun id hId => ⟨fun _ => ?_, fun child hChild _ => ?_⟩
      · exact .directive rfl hMem fun id hStage => hNoId id hStage.argument
      · exact .stage rfl hWorkflow hMem ⟨hName, hId⟩
      · exact .inStage rfl hWorkflow hMem ⟨hName, hId⟩ hChild
    refine FailsWith.guard (a := ()) (failsWith_refuse hStartNode _) fun _ => ?_
    refine (FailsWith.listMapM fun n hn => ?_).bind fun transitions _ => ?_
    · obtain ⟨hMem, hName⟩ := List.mem_filter.mp hn
      exact Transition.failsWith_ofNode (hDirective (by decide) n hMem (beq_iff_eq.mp hName))
    have hOptional (version : Value) : FailsWith P (do
        let goal ← goalNode.mapM (·.textArgument "" "workflow goal")
        let description ← descriptionNode.mapM (·.textArgument "" "workflow description")
        let models ← modelsNode.mapM Models.ofNode
        let stylesheet ← stylesheetNode.mapM (·.textArgument "" "model_stylesheet")
        .ok ({ name, start, stages, transitions, version, goal, description, models,
               stylesheet } : Definition)) :=
      (FailsWith.optionMapM (hText _ (by decide) hGoal)).bind fun _ _ =>
        (FailsWith.optionMapM (hText _ (by decide) hDescription)).bind fun _ _ =>
          (FailsWith.optionMapM (hModels hModelsNode)).bind fun _ _ =>
            (FailsWith.optionMapM (hText _ (by decide) hStylesheet)).bind fun _ _ => failsWith_ok
    split
    · next node =>
      have hNode := hSingle (by decide) hVersion node rfl
      exact (failsWith_integerArgument hNode _).bind fun version _ => hOptional version
    · exact hOptional _
  · exact failsWith_refuse hSelf _

end Definition

end Documents

namespace Source

/-- A node stands in some trees, as one of them or in their blocks. -/
inductive Node.StandsIn : List Node → Node → Prop
  | top {nodes : List Node} {n : Node} : n ∈ nodes → StandsIn nodes n
  | inner {nodes : List Node} {n m : Node} : n ∈ nodes → StandsIn n.children m → StandsIn nodes m

theorem Node.standsIn_append {nodes nodes' : List Node} {n : Node}
    (h : StandsIn (nodes ++ nodes') n) : StandsIn nodes n ∨ StandsIn nodes' n := by
  cases h with
  | top h => exact (List.mem_append.mp h).imp .top .top
  | inner h hInner => exact (List.mem_append.mp h).imp (.inner · hInner) (.inner · hInner)

theorem Node.standsIn_singleton {n m : Node} (h : StandsIn [n] m) :
    m = n ∨ StandsIn n.children m := by
  cases h with
  | top h => exact Or.inl (List.mem_singleton.mp h)
  | inner h hInner =>
    obtain rfl := List.mem_singleton.mp h
    exact Or.inr hInner

theorem Node.not_standsIn_nil {n : Node} : ¬ StandsIn [] n := by
  intro h
  cases h <;> contradiction

/-- A node of a tree is named by a word of the tree, and stands where the word does. -/
theorem Derivation.exists_name_of_standsIn {s : Symbol} (d : Derivation s) {n : Node}
    (h : Node.StandsIn d.nodes n) :
    ∃ t ∈ d.tokens, t.kind = .word ∧ t.value = n.name ∧ t.place = n.place := by
  induction d with
  | done => exact absurd h Node.not_standsIn_nil
  | newline t hNewline others ih =>
    obtain ⟨name, hMem, hName⟩ := ih h
    exact ⟨name, List.mem_cons_of_mem t hMem, hName⟩
  | node first others ihFirst ihOthers =>
    obtain hFirst | hOthers := Node.standsIn_append h
    · obtain ⟨name, hMem, hName⟩ := ihFirst hFirst
      exact ⟨name, List.mem_append_left _ hMem, hName⟩
    · obtain ⟨name, hMem, hName⟩ := ihOthers hOthers
      exact ⟨name, List.mem_append_right _ hMem, hName⟩
  | line name hName items =>
    obtain rfl | hInner := Node.standsIn_singleton h
    · exact ⟨name, List.mem_cons_self, hName, rfl, rfl⟩
    · exact absurd hInner Node.not_standsIn_nil
  | block name hName items opening hOpening inner closing hClosing ih =>
    obtain rfl | hInner := Node.standsIn_singleton h
    · exact ⟨name, List.mem_cons_self, hName, rfl, rfl⟩
    · obtain ⟨t, hMem, ht⟩ := ih hInner
      exact ⟨t, by simp [tokens, hMem], ht⟩

/-- A place at a character of a text or at the end of the text. -/
def Place.IsIn (cs : List Char) (p : Place) : Prop :=
  ∃ front, front <+: cs ∧ p = behind front

theorem Token.LaidOut.isIn {before rest : List Char} {ts : List Token}
    (h : LaidOut before rest ts) : ∀ t ∈ ts, t.place.IsIn (before ++ rest) := by
  induction h with
  | done hGap => exact nofun
  | @token before gap spelling rest t ts hGap hSpelled hPlace hRest ih =>
    refine List.forall_mem_cons.mpr ⟨⟨before ++ gap, ?_, hPlace⟩, ?_⟩
    · rw [← List.append_assoc]
      exact List.prefix_append _ _
    · simpa only [List.append_assoc] using ih

theorem Token.isIn_of_scanFrom {before cs : List Char} {skip : Nat} {fault : LexicalFault}
    {p : Place} (h : scanFrom (Place.behind before) skip cs = .error (fault, p)) :
    p.IsIn (before ++ cs) := by
  induction cs generalizing before skip with
  | nil => cases skip <;> cases h
  | cons c cs ih =>
    have hNext {skip : Nat} (h : scanFrom ((Place.behind before).next c) skip cs =
        .error (fault, p)) : p.IsIn (before ++ c :: cs) := by
      have hBehind : (Place.behind before).next c = Place.behind (before ++ [c]) :=
        (Place.behind_append before [c]).symm
      rw [hBehind] at h
      simpa using ih h
    cases skip with
    | succ skip => exact hNext h
    | zero =>
      rw [scanFrom] at h
      cases hFront : front c cs with
      | gap more =>
        rw [hFront] at h
        exact hNext h
      | token kind value more =>
        rw [hFront] at h
        obtain hOthers | ⟨_, -, h⟩ := bind_eq_error_iff.mp h
        · exact hNext hOthers
        · cases h
      | fault found =>
        rw [hFront] at h
        cases h
        exact ⟨before, List.prefix_append _ _, rfl⟩

end Source

namespace Definition

theorem Blames.place_cases {nodes : List Node} {p : Place} {stage : String}
    (h : Blames nodes p stage) : p = .unknown ∨ ∃ n, Node.StandsIn nodes n ∧ p = n.place := by
  cases h with
  | nothing => exact Or.inl rfl
  | top hn => exact Or.inr ⟨_, .top hn, rfl⟩
  | directive hRoot hn | stage hRoot _ hn =>
    exact Or.inr ⟨_, .inner (hRoot ▸ List.mem_singleton_self _) (.top hn), rfl⟩
  | models hRoot hn _ hChild | inStage hRoot _ hn _ hChild =>
    exact Or.inr ⟨_, .inner (hRoot ▸ List.mem_singleton_self _) (.inner hn (.top hChild)), rfl⟩

theorem place_of_parse {source : String} {e : ParseError}
    (h : parse source = .error (.malformed e)) :
    e.snippet = excerpt source e.place.line ∧
      (e.place = .unknown ∨ e.place.IsIn source.toList) := by
  rw [parse] at h
  obtain hScan | ⟨ts, hScan, h⟩ := bind_eq_error_iff.mp h
  · obtain ⟨⟨fault, p⟩, hFault, hEq⟩ := mapError_eq_error_iff.mp hScan
    cases hEq
    have hIn : p.IsIn ([] ++ source.toList) := Token.isIn_of_scanFrom hFault
    exact ⟨rfl, Or.inr hIn⟩
  · have hTokens : ∀ t ∈ ts, t.place.IsIn source.toList :=
      (Token.laidOut_of_scan (mapError_eq_ok_iff.mp hScan)).isIn
    obtain hTree | ⟨nodes, hTree, h⟩ := bind_eq_error_iff.mp h
    · obtain ⟨treeFault, hTree, hEq⟩ := mapError_eq_error_iff.mp hTree
      have hIn := isIn_of_ofTokens hTree
      cases treeFault with
      | tooManyDigits count => cases hEq
      | grammar fault found =>
        cases found with
        | some t =>
          cases hEq
          exact ⟨rfl, Or.inr (hTokens t (hIn t rfl))⟩
        | none =>
          cases hEq
          exact ⟨rfl, Or.inr ⟨source.toList, List.prefix_rfl, Place.after_start _⟩⟩
    · obtain ⟨content, hContent, hEq⟩ := mapError_eq_error_iff.mp h
      cases hEq
      obtain hUnknown | ⟨n, hn, hPlace⟩ := (failsWith_ofNodes content hContent).place_cases
      · exact ⟨rfl, Or.inl hUnknown⟩
      · obtain ⟨d, hDocument, -, rfl⟩ := exists_isDocument_of_ofTokens (mapError_eq_ok_iff.mp hTree)
        obtain ⟨t, ht, -, -, hName⟩ := d.exists_name_of_standsIn hn
        rw [hDocument.tokens] at ht
        exact ⟨rfl, Or.inr (hPlace.trans hName.symm ▸ hTokens t ht)⟩

end Definition

end Workflow
