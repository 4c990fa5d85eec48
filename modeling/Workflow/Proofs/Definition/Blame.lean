import Workflow.Proofs.Definition.Places

/-!
# What the errors of a source blame

The tokens of a source stand at different places, and each node of a tree stands where its name
does. So the place of an error tells which node the error is about and below which nodes that one
stands. With this, the stage that an error names is read off the node: it is the stage that the node
is, or the one that the node stands directly below.
-/

namespace Workflow

open Workflow.Source Except

namespace Source

/-- A node stands in some trees below other nodes, the outermost of them first. -/
inductive Node.StandsBelow : List Node → List Node → Node → Prop
  | top {nodes : List Node} {n : Node} : n ∈ nodes → StandsBelow nodes [] n
  | inner {nodes above : List Node} {outer n : Node} : outer ∈ nodes →
      StandsBelow outer.children above n → StandsBelow nodes (outer :: above) n

namespace Node

/-- The place of a node in some trees tells the node and those that it stands below. -/
def StandApart (nodes : List Node) : Prop :=
  ∀ ⦃above above' : List Node⦄ ⦃n n' : Node⦄, StandsBelow nodes above n →
    StandsBelow nodes above' n' → n.place = n'.place → above = above' ∧ n = n'

variable {nodes above : List Node} {n root : Node}

theorem StandsBelow.standsIn (h : StandsBelow nodes above n) : StandsIn nodes n := by
  induction h with
  | top hMem => exact .top hMem
  | inner hMem _ ih => exact .inner hMem ih

theorem StandsIn.exists_standsBelow (h : StandsIn nodes n) :
    ∃ above, StandsBelow nodes above n := by
  induction h with
  | top hMem => exact ⟨[], .top hMem⟩
  | inner hMem _ ih =>
    obtain ⟨above, hBelow⟩ := ih
    exact ⟨_ :: above, .inner hMem hBelow⟩

theorem StandApart.eq_of_place_eq (h : StandApart nodes) (hn : StandsIn nodes n) :
    ∀ m, StandsIn nodes m → m.place = n.place → m = n := by
  intro m hm hPlace
  obtain ⟨_, hBelow⟩ := hn.exists_standsBelow
  obtain ⟨_, hBelow'⟩ := hm.exists_standsBelow
  exact (h hBelow' hBelow hPlace).2

theorem standsBelow_append {nodes' : List Node} (h : StandsBelow (nodes ++ nodes') above n) :
    StandsBelow nodes above n ∨ StandsBelow nodes' above n := by
  cases h with
  | top hMem => exact (List.mem_append.mp hMem).imp .top .top
  | inner hMem hBelow => exact (List.mem_append.mp hMem).imp (.inner · hBelow) (.inner · hBelow)

theorem standsBelow_singleton (h : StandsBelow [root] above n) :
    above = [] ∧ n = root ∨
      ∃ others, above = root :: others ∧ StandsBelow root.children others n := by
  cases h with
  | top hMem => exact Or.inl ⟨rfl, List.mem_singleton.mp hMem⟩
  | inner hMem hBelow =>
    obtain rfl := List.mem_singleton.mp hMem
    exact Or.inr ⟨_, rfl, hBelow⟩

theorem not_standsBelow_nil : ¬ StandsBelow [] above n :=
  fun h => not_standsIn_nil h.standsIn

end Node

theorem Node.IsStage.eq {n : Node} {id id' : String} (h : n.IsStage id) (h' : n.IsStage id') :
    id = id' := by
  simpa using h.argument.symm.trans h'.argument

section Places

variable {s : Symbol} {n : Node}

theorem Derivation.place_mem (d : Derivation s) (h : Node.StandsIn d.nodes n) :
    n.place ∈ d.tokens.map Token.place := by
  obtain ⟨t, hMem, -, -, hPlace⟩ := d.exists_name_of_standsIn h
  exact List.mem_map.mpr ⟨t, hMem, hPlace⟩

theorem Derivation.standApart (d : Derivation s) (hPlaces : (d.tokens.map Token.place).Nodup) :
    Node.StandApart d.nodes := by
  intro above above' n n' h h' hSame
  -- no token of one part of a tree stands where a token of another part does, so two nodes at one
  -- place are in the same part
  induction d generalizing above above' with
  | done => exact absurd h Node.not_standsBelow_nil
  | newline t hNewline others ih => exact ih (List.nodup_cons.mp hPlaces).2 h h'
  | node first others ihFirst ihOthers =>
    rw [tokens, List.map_append, List.nodup_append] at hPlaces
    obtain ⟨hFirst, hOthers, hApart⟩ := hPlaces
    obtain hn | hn := Node.standsBelow_append h <;>
      obtain hn' | hn' := Node.standsBelow_append h'
    · exact ihFirst hFirst hn hn'
    · exact absurd hSame (hApart _ (first.place_mem hn.standsIn) _ (others.place_mem hn'.standsIn))
    · exact absurd hSame.symm
        (hApart _ (first.place_mem hn'.standsIn) _ (others.place_mem hn.standsIn))
    · exact ihOthers hOthers hn hn'
  | line name hName items =>
    obtain ⟨rfl, rfl⟩ | ⟨_, -, hn⟩ := Node.standsBelow_singleton h
    · obtain ⟨rfl, rfl⟩ | ⟨_, -, hn'⟩ := Node.standsBelow_singleton h'
      · exact ⟨rfl, rfl⟩
      · exact absurd hn' Node.not_standsBelow_nil
    · exact absurd hn Node.not_standsBelow_nil
  | block name hName items opening hOpening inner closing hClosing ih =>
    rw [tokens, List.map_cons, List.nodup_cons] at hPlaces
    obtain ⟨hHead, hTail⟩ := hPlaces
    have hInner : (inner.tokens.map Token.place).Sublist
        ((items.flatMap Item.tokens ++ opening :: (inner.tokens ++ [closing])).map Token.place) :=
      .map _ (((List.sublist_append_left _ _).cons _).trans (List.sublist_append_right _ _))
    have hApart {above : List Node} {m : Node} (hm : Node.StandsBelow inner.nodes above m) :
        m.place ≠ name.place :=
      fun hEq => hHead (hEq ▸ hInner.subset (inner.place_mem hm.standsIn))
    obtain ⟨rfl, rfl⟩ | ⟨_, rfl, hn⟩ := Node.standsBelow_singleton h <;>
      obtain ⟨rfl, rfl⟩ | ⟨_, rfl, hn'⟩ := Node.standsBelow_singleton h'
    · exact ⟨rfl, rfl⟩
    · exact absurd hSame.symm (hApart hn')
    · exact absurd hSame (hApart hn)
    · obtain ⟨rfl, rfl⟩ := ih (hTail.sublist hInner) hn hn'
      exact ⟨rfl, rfl⟩

theorem Token.nodup_places_of_scan {source : String} {tokens : List Token}
    (h : scan source = .ok tokens) : (tokens.map Token.place).Nodup := by
  have hOrder := (List.pairwise_append.mp (laidOut_of_scan h).places.2).1
  refine hOrder.imp fun hBefore hSame => ?_
  unfold Place.Precedes at hBefore
  rw [hSame] at hBefore
  omega

end Places

end Source

namespace Definition

/-- A node is the node of a stage of the only workflow, or stands directly below one. -/
def BelongsTo (nodes : List Node) (n : Node) (id : String) : Prop :=
  ∃ root stage, nodes = [root] ∧ root.name = "workflow" ∧ stage ∈ root.children ∧
    stage.IsStage id ∧ (n = stage ∨ n ∈ stage.children)

/-- The node that an error about some nodes is about: only this node has the place of the error. The
error names the stage that the node belongs to, or none if the node belongs to none. -/
structure IsBlamed (nodes : List Node) (n : Node) (place : Place) (stage : String) : Prop where
  standsIn : Node.StandsIn nodes n
  place_eq : n.place = place
  eq_of_place_eq : ∀ m, Node.StandsIn nodes m → m.place = place → m = n
  stage_eq : ∀ id, BelongsTo nodes n id → stage = id
  stage_eq_empty : (∀ id, ¬ BelongsTo nodes n id) → stage = ""

section Blames

variable {nodes above : List Node} {n : Node} {stage id id' : String}

theorem BelongsTo.exists_standsBelow (h : BelongsTo nodes n id) :
    (∃ root, Node.StandsBelow nodes [root] n ∧ n.IsStage id) ∨
      ∃ root stage, Node.StandsBelow nodes [root, stage] n ∧ stage.IsStage id := by
  obtain ⟨root, stage, rfl, -, hMem, hStage, rfl | hInner⟩ := h
  · exact Or.inl ⟨root, .inner (List.mem_singleton_self _) (.top hMem), hStage⟩
  · exact Or.inr ⟨root, stage, .inner (List.mem_singleton_self _) (.inner hMem (.top hInner)),
      hStage⟩

theorem BelongsTo.of_standsBelow (hApart : Node.StandApart nodes)
    (hn : Node.StandsBelow nodes above n) (h : BelongsTo nodes n id) :
    (∃ root, above = [root] ∧ n.IsStage id) ∨
      ∃ root stage, above = [root, stage] ∧ stage.IsStage id := by
  obtain ⟨root, hBelow, hStage⟩ | ⟨root, stage, hBelow, hStage⟩ := h.exists_standsBelow
  · exact Or.inl ⟨root, (hApart hn hBelow rfl).1, hStage⟩
  · exact Or.inr ⟨root, stage, (hApart hn hBelow rfl).1, hStage⟩

theorem BelongsTo.eq (hApart : Node.StandApart nodes) (h : BelongsTo nodes n id)
    (h' : BelongsTo nodes n id') : id = id' := by
  obtain ⟨root, hn, hStage⟩ | ⟨root, stage, hn, hStage⟩ := h.exists_standsBelow
  · obtain ⟨_, -, hStage'⟩ | ⟨_, _, hEq, -⟩ := h'.of_standsBelow hApart hn
    · exact hStage.eq hStage'
    · cases hEq
  · obtain ⟨_, hEq, -⟩ | ⟨_, _, hEq, hStage'⟩ := h'.of_standsBelow hApart hn
    · cases hEq
    · cases hEq
      exact hStage.eq hStage'

theorem isBlamed_of_belongsTo (hApart : Node.StandApart nodes) (h : BelongsTo nodes n id) :
    IsBlamed nodes n n.place id := by
  have hn : Node.StandsIn nodes n := by
    obtain ⟨_, hBelow, -⟩ | ⟨_, _, hBelow, -⟩ := h.exists_standsBelow
    · exact hBelow.standsIn
    · exact hBelow.standsIn
  exact ⟨hn, rfl, hApart.eq_of_place_eq hn, fun _ h' => h.eq hApart h',
    fun hNone => absurd h (hNone id)⟩

theorem isBlamed_of_not_belongsTo (hApart : Node.StandApart nodes) (hn : Node.StandsIn nodes n)
    (hNone : ∀ id, ¬ BelongsTo nodes n id) : IsBlamed nodes n n.place "" :=
  ⟨hn, rfl, hApart.eq_of_place_eq hn, fun id h => absurd h (hNone id), fun _ => rfl⟩

theorem Blames.exists_isBlamed {p : Place} (hApart : Node.StandApart nodes)
    (h : Blames nodes p stage) :
    nodes = [] ∧ p = .unknown ∧ stage = "" ∨ ∃ n, IsBlamed nodes n p stage := by
  -- the root, a directive and a child of a directive stand at different depths, so a node of one
  -- kind is never one of another kind
  cases h with
  | nothing hEmpty => exact Or.inl ⟨hEmpty, rfl, rfl⟩
  | top hn =>
    have hBelow := Node.StandsBelow.top hn
    refine Or.inr ⟨_, isBlamed_of_not_belongsTo hApart hBelow.standsIn fun id hId => ?_⟩
    obtain ⟨_, hEq, -⟩ | ⟨_, _, hEq, -⟩ := hId.of_standsBelow hApart hBelow <;> cases hEq
  | directive hRoot hn hOther =>
    have hBelow := Node.StandsBelow.inner (hRoot ▸ List.mem_singleton_self _) (.top hn)
    refine Or.inr ⟨_, isBlamed_of_not_belongsTo hApart hBelow.standsIn fun id hId => ?_⟩
    obtain ⟨_, -, hStage⟩ | ⟨_, _, hEq, -⟩ := hId.of_standsBelow hApart hBelow
    · exact hOther id hStage
    · cases hEq
  | models hRoot hn hName hChild =>
    have hBelow := Node.StandsBelow.inner (hRoot ▸ List.mem_singleton_self _)
      (.inner hn (.top hChild))
    refine Or.inr ⟨_, isBlamed_of_not_belongsTo hApart hBelow.standsIn fun id hId => ?_⟩
    obtain ⟨_, hEq, -⟩ | ⟨_, _, hEq, hStage⟩ := hId.of_standsBelow hApart hBelow
    · cases hEq
    · cases hEq
      exact absurd (hName.symm.trans hStage.name) (by decide)
  | stage hRoot hWorkflow hn hStage =>
    have hBelongs : BelongsTo nodes _ stage := ⟨_, _, hRoot, hWorkflow, hn, hStage, Or.inl rfl⟩
    exact Or.inr ⟨_, isBlamed_of_belongsTo hApart hBelongs⟩
  | inStage hRoot hWorkflow hn hStage hChild =>
    have hBelongs : BelongsTo nodes _ stage :=
      ⟨_, _, hRoot, hWorkflow, hn, hStage, Or.inr hChild⟩
    exact Or.inr ⟨_, isBlamed_of_belongsTo hApart hBelongs⟩

end Blames

theorem stage_eq_empty_of_treeError {source : String} {fault : TreeError} {e : ParseError}
    (h : treeError source fault = .malformed e) : e.stage = "" := by
  obtain ⟨fault, _ | t⟩ | count := fault <;> cases h <;> rfl

/-- An error about the nodes of a source stands where the word that begins its node does, or nowhere
if there is no node, and names the stage that the node belongs to. An error from before the nodes
are read names no stage. -/
theorem stage_of_parse {source : String} {e : ParseError}
    (h : parse source = .error (.malformed e)) :
    (∀ tokens nodes, Token.scan source = .ok tokens → Node.ofTokens tokens = .ok nodes →
      (nodes = [] → e.place.line = 0 ∧ e.place.column = 0 ∧ e.stage = "") ∧
      (nodes ≠ [] → ∃ n, IsBlamed nodes n e.place e.stage ∧
        ∃ t ∈ tokens, t.kind = .word ∧ t.value = n.name ∧ t.place = e.place)) ∧
    ((∀ tokens nodes, Token.scan source = .ok tokens → Node.ofTokens tokens ≠ .ok nodes) →
      e.stage = "") := by
  constructor
  · intro tokens nodes hScan hTree
    have hContent : (ofNodes nodes).mapError (fun e =>
        malformed source (.content e.fault) e.place e.stage) = .error (.malformed e) := by
      simpa [parse, hScan, hTree, Except.mapError, bind, Except.bind] using h
    obtain ⟨content, hRefused, hEq⟩ := mapError_eq_error_iff.mp hContent
    cases hEq
    obtain ⟨d, hDocument, -, rfl⟩ := exists_isDocument_of_ofTokens hTree
    have hPlaces := Token.nodup_places_of_scan hScan
    rw [← hDocument.tokens] at hPlaces
    obtain ⟨hEmpty, hPlace, hStage⟩ | ⟨n, hBlamed⟩ :=
      (failsWith_ofNodes content hRefused).exists_isBlamed (d.standApart hPlaces)
    · exact ⟨fun _ => ⟨congrArg Place.line hPlace, congrArg Place.column hPlace, hStage⟩,
        fun hNodes => absurd hEmpty hNodes⟩
    · refine ⟨fun hNone => ?_, fun _ => ⟨n, hBlamed, ?_⟩⟩
      · exact absurd (hNone ▸ hBlamed.standsIn) Node.not_standsIn_nil
      · obtain ⟨t, hMem, hWord, hName, hPlace⟩ := d.exists_name_of_standsIn hBlamed.standsIn
        exact ⟨t, hDocument.tokens ▸ hMem, hWord, hName, hPlace.trans hBlamed.place_eq⟩
  · intro hNoTree
    rw [parse] at h
    obtain hScan | ⟨tokens, hScan, h⟩ := bind_eq_error_iff.mp h
    · obtain ⟨_, -, hEq⟩ := mapError_eq_error_iff.mp hScan
      cases hEq
      rfl
    · obtain hTree | ⟨nodes, hTree, -⟩ := bind_eq_error_iff.mp h
      · obtain ⟨_, -, hEq⟩ := mapError_eq_error_iff.mp hTree
        exact stage_eq_empty_of_treeError hEq
      · exact absurd (mapError_eq_ok_iff.mp hTree)
          (hNoTree tokens nodes (mapError_eq_ok_iff.mp hScan))

/-- The second stage of a workflow has a child without its property: the error names this stage and
not the one before it, and so there is a node of the source that belongs to this stage. -/
theorem stage_of_parse_at_second_stage :
    let source := "workflow \"w\" \x7b\n start \"a\"\n stage \"a\" kind=\"tool\" command=\"c\"\n" ++
      " stage \"b\" kind=\"llm\" \x7b\n  retry\n \x7d\n\x7d"
    let e : ParseError := ⟨.content .missingMaxAttempts, ⟨5, 3⟩, "retry", "b"⟩
    parse source = .error (.malformed e) ∧
      ∃ tokens nodes n, Token.scan source = .ok tokens ∧ Node.ofTokens tokens = .ok nodes ∧
        IsBlamed nodes n e.place "b" ∧ BelongsTo nodes n "b" := by
  intro source e
  have hParse : parse source = .error (.malformed e) := by decide +kernel
  obtain ⟨hNodes, hNoTree⟩ := stage_of_parse hParse
  have hNamed : e.stage ≠ "" := by decide
  obtain ⟨tokens, nodes, hScan, hTree⟩ :
      ∃ tokens nodes, Token.scan source = .ok tokens ∧ Node.ofTokens tokens = .ok nodes := by
    by_contra hNone
    exact hNamed (hNoTree fun tokens nodes hScan hTree => hNone ⟨tokens, nodes, hScan, hTree⟩)
  obtain ⟨hEmpty, hSome⟩ := hNodes tokens nodes hScan hTree
  obtain ⟨n, hBlamed, -⟩ := hSome fun hNone => hNamed (hEmpty hNone).2.2
  refine ⟨hParse, tokens, nodes, n, hScan, hTree, hBlamed, ?_⟩
  by_contra hOther
  refine hNamed (hBlamed.stage_eq_empty fun id hId => hOther ?_)
  obtain rfl : "b" = id := hBlamed.stage_eq id hId
  exact hId

end Definition

end Workflow
