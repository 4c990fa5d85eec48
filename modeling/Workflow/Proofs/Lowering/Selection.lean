import Workflow.Proofs.Definition.Reader
import Workflow.Proofs.Number.Exact
import Workflow.Proofs.Question.Choice

/-!
# Selection by order and by weight

A step along a graph may take the first open edge or the open edge with the greatest weight. The
edges stand in declaration order, and their weights put priority before that order. The two
selections agree where the first open way out has the greatest priority of the open ways, and, as
long as no stage has more ways out than a priority outweighs, only there.
-/

namespace Workflow

namespace Graph.Edge

def isOpen (outcome : Outcome) (context : Context) (edge : Edge) : Bool :=
  context.satisfies outcome (edge.condition.string?.getD "")

/-- An edge has an integer as its weight, which is read exactly unless it is too long. -/
def IsWeighed (edge : Edge) : Prop :=
  ∃ n, edge.attrs.attr "weight" = .int n ∧
    (n.natAbs < 2 ^ 53 → ∃ x, edge.weight = .ok (some x) ∧ x.isInt n = true)

theorem isWeighed_of_attr {edge : Edge} {n : Int} (h : edge.attrs.attr "weight" = .int n) :
    edge.IsWeighed := by
  refine ⟨n, h, fun hSmall => ?_⟩
  obtain ⟨x, hx, hExact⟩ := Binary64.exists_ofInt?_eq_some hSmall
  refine ⟨x, ?_, hExact⟩
  rw [Edge.weight, h]
  simp only [hx]

/-- No weight of the others is greater, and an equal weight leads to the same target. -/
def Outweighs (edge : Edge) (others : List Edge) : Prop :=
  ∃ n, edge.attrs.attr "weight" = .int n ∧ ∀ other ∈ others, ∃ m,
    other.attrs.attr "weight" = .int m ∧ m ≤ n ∧ (m = n → other.target = edge.target)

end Graph.Edge

section Packing

variable {total i j p q : Int}

theorem scaled_lt_scaled_of_le (hOrder : i < j) (h : q ≤ p) :
    q * priorityScale + (total - j) < p * priorityScale + (total - i) := by
  simp only [priorityScale]
  omega

/-- Positions below the scale never make up for a lower priority. -/
theorem le_of_scaled_le_scaled (hTotal : total ≤ priorityScale) (hFirst : 0 ≤ i) (hLast : j < total)
    (h : q * priorityScale + (total - j) ≤ p * priorityScale + (total - i)) : q ≤ p := by
  simp only [priorityScale] at h hTotal
  omega

theorem scaled_lt_scaled_iff (hTotal : total ≤ priorityScale) (hi : 0 ≤ i) (hiLast : i < total)
    (hj : 0 ≤ j) (hjLast : j < total) :
    q * priorityScale + (total - j) < p * priorityScale + (total - i) ↔ q < p ∨ p = q ∧ i < j := by
  constructor
  · intro h
    have hLe : q ≤ p := le_of_scaled_le_scaled hTotal hi hjLast (Int.le_of_lt h)
    obtain hLess | rfl := Int.lt_or_eq_of_le hLe
    · exact .inl hLess
    · exact .inr ⟨rfl, by omega⟩
  · rintro (hLess | ⟨rfl, hOrder⟩)
    · -- were the weight no greater, the greater priority would be the lower one
      refine Int.not_le.mp fun hLe => ?_
      exact absurd (le_of_scaled_le_scaled hTotal hj hiLast hLe) (Int.not_le.mpr hLess)
    · exact scaled_lt_scaled_of_le hOrder (Int.le_refl p)

end Packing

/-- A priority as a way out holds it, which may be missing. -/
def Value.ofPriority : Option Int → Value
  | Option.none => .none
  | some n => .int n

theorem Value.orElse_ofPriority (p : Option Int) :
    (Value.ofPriority p).orElse (.int 0) = .int (p.getD 0) := by
  cases p with
  | none => rfl
  | some n => by_cases hZero : n = 0 <;> simp [ofPriority, orElse, isGiven, hZero]

theorem orderWeight_ofPriority (p : Option Int) (index total : Int) :
    orderWeight (.ofPriority p) index total =
      .ok (.int (p.getD 0 * priorityScale + (total - index))) := by
  rw [orderWeight, Value.orElse_ofPriority]

/-- Weights order the positions among `total` siblings by priority first and declaration second,
for all priorities, exactly as long as there are no more siblings than a priority outweighs. -/
theorem orderWeight_lexicographic_iff (total : Nat) :
    (∀ (p q : Option Int) (i j : Nat), i < total → j < total → ∃ v w : Int,
      orderWeight (.ofPriority p) i total = .ok (.int v) ∧
      orderWeight (.ofPriority q) j total = .ok (.int w) ∧
      (w < v ↔ q.getD 0 < p.getD 0 ∨ p.getD 0 = q.getD 0 ∧ i < j)) ↔ total ≤ 1000000 := by
  constructor
  · intro h
    refine Nat.not_lt.mp fun hMany => ?_
    -- one step of priority only makes up for the first million siblings
    obtain ⟨v, w, hv, hw, hOrder⟩ := h (some 1) none 1000000 0 hMany (by omega)
    rw [orderWeight_ofPriority] at hv hw
    cases hv
    cases hw
    have hLess := hOrder.mpr (.inl (by decide))
    simp only [Option.getD, priorityScale] at hLess
    omega
  · intro hTotal p q i j hi hj
    refine ⟨_, _, orderWeight_ofPriority p i total, orderWeight_ofPriority q j total, ?_⟩
    have hScale : (total : Int) ≤ priorityScale := by
      simp only [priorityScale]
      omega
    rw [scaled_lt_scaled_iff hScale (by omega) (by omega) (by omega) (by omega)]
    simp only [Int.ofNat_lt]

namespace Exit

def precedence (exit : Exit) : Int :=
  match exit.priority with
  | .int n => n
  | _ => 0

/-- The weight of a way out that has `entry.2` of `total` siblings before it. -/
def weight (total : Nat) (entry : Exit × Nat) : Int :=
  entry.1.precedence * priorityScale + ((total : Int) - entry.2)

/-- A way out is open after an outcome if a condition of its guard holds. -/
def isOpen (outcome : Outcome) (context : Context) (exit : Exit) : Bool :=
  match Routing.edgeConditions exit.condition with
  | .ok conditions => conditions.any (context.satisfies outcome)
  | .error _ => false

structure HasEdge (total : Nat) (entry : Exit × Nat) (edge : Graph.Edge) : Prop where
  target : edge.target = entry.1.target
  weight : edge.attrs.attr "weight" = .int (weight total entry)

section Weights

variable {total i j : Nat} {way other : Exit}

theorem orElse_priority {exit : Exit} (h : exit.priority.IsPriority) :
    exit.priority.orElse (.int 0) = .int exit.precedence := by
  rw [precedence]
  obtain hNone | ⟨n, hInt⟩ := h
  · rw [hNone]
    exact Value.orElse_ofPriority none
  · rw [hInt]
    exact Value.orElse_ofPriority (some n)

theorem eq_weight_of_isWeight {entry : Exit × Nat} {v : Value}
    (hPriority : entry.1.priority.IsPriority)
    (h : IsWeight entry.1.priority ((total : Int) - entry.2) v) : v = .int (weight total entry) := by
  have hOrElse := orElse_priority hPriority
  cases h with
  | whole h =>
    cases hOrElse.symm.trans h
    rfl
  | truth h =>
    rw [h] at hPriority
    obtain hNone | ⟨_, hInt⟩ := hPriority
    · cases hNone
    · cases hInt
  | binary h => cases hOrElse.symm.trans h

theorem weight_lt_of_precedence_le (hOrder : i < j) (h : other.precedence ≤ way.precedence) :
    weight total (other, j) < weight total (way, i) :=
  scaled_lt_scaled_of_le (Int.ofNat_lt.mpr hOrder) h

/-- Where a priority outweighs all siblings, the order of weights is first that of priorities. -/
theorem precedence_le_of_weight_le (hTotal : (total : Int) ≤ priorityScale) (hLast : j < total)
    (h : weight total (other, j) ≤ weight total (way, i)) : other.precedence ≤ way.precedence :=
  le_of_scaled_le_scaled hTotal (Int.natCast_nonneg i) (Int.ofNat_lt.mpr hLast) h

end Weights

section Open

variable {source : String} {total : Nat} {outcome : Outcome} {context : Context}
  {entry : Exit × Nat} {entries : List (Exit × Nat)} {part : List Graph.Edge}
  {parts : List (List Graph.Edge)}

theorem Expands.hasEdge (h : Exit.Expands source total entry part)
    (hPriority : entry.1.priority.IsPriority) : ∀ edge ∈ part, HasEdge total entry edge := by
  obtain ⟨conditions, weight, -, hWeight, rfl⟩ := h
  intro edge hEdge
  obtain ⟨condition, -, rfl⟩ := List.mem_map.mp hEdge
  refine ⟨rfl, ?_⟩
  rw [← eq_weight_of_isWeight hPriority hWeight]
  simp [Table.ofList, Table.attr]

theorem Expands.any_isOpen (h : Exit.Expands source total entry part) :
    part.any (Graph.Edge.isOpen outcome context) = entry.1.isOpen outcome context := by
  obtain ⟨conditions, weight, hConditions, -, rfl⟩ := h
  have hOpen : ∀ condition, Graph.Edge.isOpen outcome context ⟨source, entry.1.target,
      Table.ofList [("condition", .str condition), ("weight", weight)]⟩ =
        context.satisfies outcome condition := by
    intro condition
    have hAttr : (Table.ofList [("condition", Value.str condition), ("weight", weight)]).attr
        "condition" = .str condition := by
      simp [Table.ofList, Table.attr]
    rw [Graph.Edge.isOpen, Graph.Edge.condition_eq hAttr]
    rfl
  rw [isOpen, hConditions, List.any_map]
  exact congrArg conditions.any (funext hOpen)

theorem exists_entry_of_open (h : List.Forall₂ (Exit.Expands source total) entries parts)
    (hPriorities : ∀ entry ∈ entries, entry.1.priority.IsPriority) :
    ∀ edge ∈ parts.flatten.filter (Graph.Edge.isOpen outcome context),
      ∃ entry ∈ entries, entry.1.isOpen outcome context = true ∧ HasEdge total entry edge := by
  intro edge hEdge
  obtain ⟨hMem, hOpen⟩ := List.mem_filter.mp hEdge
  obtain ⟨part, hPart, hMem⟩ := List.mem_flatten.mp hMem
  obtain ⟨entry, hEntry, hExpands⟩ := Except.exists_of_mem_of_forall₂ h part hPart
  refine ⟨entry, hEntry, ?_, hExpands.hasEdge (hPriorities entry hEntry) edge hMem⟩
  rw [← hExpands.any_isOpen]
  exact List.any_eq_true.mpr ⟨edge, hMem, hOpen⟩

theorem exists_open_of_entry (h : List.Forall₂ (Exit.Expands source total) entries parts)
    (hPriorities : ∀ entry ∈ entries, entry.1.priority.IsPriority) :
    ∀ entry ∈ entries, entry.1.isOpen outcome context = true →
      ∃ edge ∈ parts.flatten.filter (Graph.Edge.isOpen outcome context),
        HasEdge total entry edge := by
  intro entry hEntry hOpen
  obtain ⟨part, hPart, hExpands : Exit.Expands source total entry part⟩ :=
    Except.exists_of_mem_of_forall₂ h.flip entry hEntry
  rw [← hExpands.any_isOpen, List.any_eq_true] at hOpen
  obtain ⟨edge, hMem, hOpen⟩ := hOpen
  exact ⟨edge, List.mem_filter.mpr ⟨List.mem_flatten.mpr ⟨part, hPart, hMem⟩, hOpen⟩,
    hExpands.hasEdge (hPriorities entry hEntry) edge hMem⟩

/-- The first open edge belongs to the way out at `entry`. The other open edges belong to it or to
open ways after it, and every open way after it has one. -/
structure IsFirstOpen (outcome : Outcome) (context : Context) (total : Nat)
    (before : List (Exit × Nat)) (entry : Exit × Nat) (after : List (Exit × Nat))
    (first : Graph.Edge) (rest : List Graph.Edge) : Prop where
  closed : ∀ other ∈ before, other.1.isOpen outcome context = false
  isOpen : entry.1.isOpen outcome context = true
  head : HasEdge total entry first
  others : ∀ edge ∈ rest, ∃ other ∈ entry :: after,
    other.1.isOpen outcome context = true ∧ HasEdge total other edge
  later : ∀ other ∈ after, other.1.isOpen outcome context = true →
    ∃ edge ∈ rest, HasEdge total other edge

variable {first : Graph.Edge} {rest kept : List Graph.Edge}

theorem isFirstOpen_front (hFirst : Exit.Expands source total entry part)
    (hRest : List.Forall₂ (Exit.Expands source total) entries parts)
    (hPriorities : ∀ other ∈ entry :: entries, other.1.priority.IsPriority)
    (hKept : part.filter (Graph.Edge.isOpen outcome context) = first :: kept) :
    IsFirstOpen outcome context total [] entry entries first
      (kept ++ parts.flatten.filter (Graph.Edge.isOpen outcome context)) := by
  rw [List.forall_mem_cons] at hPriorities
  have hKeep : ∀ edge ∈ first :: kept, HasEdge total entry edge := by
    intro edge hEdge
    rw [← hKept] at hEdge
    exact hFirst.hasEdge hPriorities.1 edge (List.mem_of_mem_filter hEdge)
  have hOpen : entry.1.isOpen outcome context = true := by
    obtain ⟨hMem, hFirstOpen⟩ := List.mem_filter.mp (hKept ▸ List.mem_cons_self)
    rw [← hFirst.any_isOpen, List.any_eq_true]
    exact ⟨first, hMem, hFirstOpen⟩
  refine ⟨by simp, hOpen, hKeep first List.mem_cons_self, ?_, ?_⟩
  · intro edge hEdge
    obtain hEdge | hEdge := List.mem_append.mp hEdge
    · exact ⟨entry, List.mem_cons_self, hOpen, hKeep edge (List.mem_cons_of_mem _ hEdge)⟩
    · obtain ⟨other, hOther, hHas⟩ := exists_entry_of_open hRest hPriorities.2 edge hEdge
      exact ⟨other, List.mem_cons_of_mem _ hOther, hHas⟩
  · intro other hOther hOtherOpen
    obtain ⟨edge, hEdge, hHas⟩ := exists_open_of_entry hRest hPriorities.2 other hOther hOtherOpen
    exact ⟨edge, List.mem_append_right _ hEdge, hHas⟩

theorem exists_isFirstOpen (h : List.Forall₂ (Exit.Expands source total) entries parts)
    (hPriorities : ∀ entry ∈ entries, entry.1.priority.IsPriority)
    (hOpen : parts.flatten.filter (Graph.Edge.isOpen outcome context) = first :: rest) :
    ∃ before entry after, entries = before ++ entry :: after ∧
      IsFirstOpen outcome context total before entry after first rest := by
  -- the ways out are passed until one has an open edge
  induction h with
  | nil => cases hOpen
  | @cons entry part entries parts hFirst hRest ih =>
    rw [List.flatten_cons, List.filter_append] at hOpen
    cases hKept : part.filter (Graph.Edge.isOpen outcome context) with
    | nil =>
      have hClosed : entry.1.isOpen outcome context = false := by
        rw [← hFirst.any_isOpen, List.any_eq_false]
        simpa using hKept
      rw [hKept, List.nil_append] at hOpen
      obtain ⟨before, way, after, rfl, hWay⟩ := ih (List.forall_mem_cons.mp hPriorities).2 hOpen
      exact ⟨entry :: before, way, after, rfl,
        { hWay with closed := List.forall_mem_cons.mpr ⟨hClosed, hWay.closed⟩ }⟩
    | cons edge kept =>
      rw [hKept, List.cons_append] at hOpen
      obtain ⟨rfl, rfl⟩ := List.cons.inj hOpen
      exact ⟨[], entry, entries, rfl, isFirstOpen_front hFirst hRest hPriorities hKept⟩

end Open

/-- The open ways out among others have no greater priority. -/
def Precedes (outcome : Outcome) (context : Context) (way : Exit) (others : List Exit) : Prop :=
  ∀ other ∈ others, other.isOpen outcome context = true → other.precedence ≤ way.precedence

section Order

variable {outcome : Outcome} {context : Context} {total : Nat} {before after : List (Exit × Nat)}
  {entry : Exit × Nat} {first : Graph.Edge} {rest : List Graph.Edge}

theorem IsFirstOpen.outweighs
    (h : IsFirstOpen outcome context total before entry after first rest)
    (hOrder : ∀ other ∈ after, entry.2 < other.2)
    (hPrecedes : entry.1.Precedes outcome context (after.map Prod.fst)) :
    first.Outweighs rest := by
  refine ⟨_, h.head.weight, fun edge hEdge => ?_⟩
  obtain ⟨other, hOther, hOpen, hHas⟩ := h.others edge hEdge
  refine ⟨_, hHas.weight, ?_⟩
  obtain rfl | hOther := List.mem_cons.mp hOther
  · exact ⟨Int.le_refl _, fun _ => hHas.target.trans h.head.target.symm⟩
  · have hLess : weight total other < weight total entry :=
      weight_lt_of_precedence_le (hOrder other hOther)
        (hPrecedes other.1 (List.mem_map_of_mem hOther) hOpen)
    exact ⟨Int.le_of_lt hLess, fun hEq => absurd hEq (Int.ne_of_lt hLess)⟩

theorem IsFirstOpen.precedes
    (h : IsFirstOpen outcome context total before entry after first rest)
    (hTotal : (total : Int) ≤ priorityScale) (hLast : ∀ other ∈ after, other.2 < total)
    (hOutweighs : first.Outweighs rest) :
    entry.1.Precedes outcome context (after.map Prod.fst) := by
  intro way hWay hOpen
  obtain ⟨other, hOther, rfl⟩ := List.mem_map.mp hWay
  obtain ⟨edge, hEdge, hHas⟩ := h.later other hOther hOpen
  obtain ⟨n, hn, hOthers⟩ := hOutweighs
  obtain ⟨m, hm, hLe, -⟩ := hOthers edge hEdge
  cases h.head.weight.symm.trans hn
  cases hHas.weight.symm.trans hm
  exact precedence_le_of_weight_le hTotal (hLast other hOther) hLe

end Order

end Exit

section First

variable {source : String} {exits : List Exit} {edges rest : List Graph.Edge} {first : Graph.Edge}
  {outcome : Outcome} {context : Context}

theorem Expands.exists_hasEdge (h : Expands source exits edges)
    (hPriorities : ∀ exit ∈ exits, exit.priority.IsPriority) :
    ∀ edge ∈ edges, ∃ entry ∈ exits.zipIdx, Exit.HasEdge exits.length entry edge := by
  obtain ⟨parts, hParts, rfl⟩ := h
  intro edge hEdge
  obtain ⟨part, hPart, hMem⟩ := List.mem_flatten.mp hEdge
  obtain ⟨entry, hEntry, hExpands⟩ := Except.exists_of_mem_of_forall₂ hParts part hPart
  have hPriority := hPriorities entry.1 (List.fst_mem_of_mem_zipIdx hEntry)
  exact ⟨entry, hEntry, hExpands.hasEdge hPriority edge hMem⟩

theorem Expands.isWeighed (h : Expands source exits edges)
    (hPriorities : ∀ exit ∈ exits, exit.priority.IsPriority) :
    ∀ edge ∈ edges, edge.IsWeighed := by
  intro edge hEdge
  obtain ⟨entry, -, hHas⟩ := h.exists_hasEdge hPriorities edge hEdge
  exact Graph.Edge.isWeighed_of_attr hHas.weight

/-- The first open edge belongs to the first open way out. It outweighs the other open edges if
that way has the greatest priority of the open ways; the converse needs few enough siblings. -/
theorem Expands.exists_first (h : Expands source exits edges)
    (hPriorities : ∀ exit ∈ exits, exit.priority.IsPriority)
    (hOpen : edges.filter (Graph.Edge.isOpen outcome context) = first :: rest) :
    ∃ before way after, exits = before ++ way :: after ∧
      (∀ other ∈ before, other.isOpen outcome context = false) ∧
      way.isOpen outcome context = true ∧ first.target = way.target ∧
      (way.Precedes outcome context after → first.Outweighs rest) ∧
      ((exits.length : Int) ≤ priorityScale → first.Outweighs rest →
        way.Precedes outcome context after) := by
  obtain ⟨parts, hParts, rfl⟩ := h
  have hEntries : ∀ entry ∈ exits.zipIdx, entry.1.priority.IsPriority := fun entry hEntry =>
    hPriorities entry.1 (List.fst_mem_of_mem_zipIdx hEntry)
  obtain ⟨_, _, _, hSplit, hFirst⟩ := Exit.exists_isFirstOpen hParts hEntries hOpen
  obtain ⟨before, tail, hExits, rfl, hTail⟩ := List.zipIdx_eq_append_iff.mp hSplit
  obtain ⟨way, after, rfl, rfl, rfl⟩ := List.zipIdx_eq_cons_iff.mp hTail.symm
  have hLast : ∀ other ∈ after.zipIdx (0 + before.length + 1), other.2 < exits.length := by
    intro other hOther
    have hBound := List.snd_lt_of_mem_zipIdx hOther
    rw [hExits, List.length_append, List.length_cons]
    omega
  refine ⟨before, way, after, hExits, ?_, hFirst.isOpen, hFirst.head.target, ?_, ?_⟩
  · intro other hOther
    rw [← List.zipIdx_map_fst 0 before] at hOther
    obtain ⟨entry, hEntry, rfl⟩ := List.mem_map.mp hOther
    exact hFirst.closed entry hEntry
  · intro hPrecedes
    refine hFirst.outweighs (fun other => List.le_snd_of_mem_zipIdx) ?_
    rwa [List.zipIdx_map_fst]
  · intro hTotal hOutweighs
    have hPrecedes := hFirst.precedes hTotal hLast hOutweighs
    rwa [List.zipIdx_map_fst] at hPrecedes

end First

namespace Definition

/-- The ways out of a stage that asks nobody. -/
def waysFrom (d : Definition) (stage : Stage) : List Exit :=
  if stage.kind = .decision then stage.routes.map Route.exit else d.exitsFrom stage.id

variable {d : Definition} {stage : Stage}

theorem LeavingEdges.expands {edges : List Graph.Edge} (h : d.LeavingEdges stage edges)
    (hKind : stage.kind ≠ .human) : Expands stage.id (d.waysFrom stage) edges := by
  unfold LeavingEdges at h
  unfold waysFrom
  cases hStage : stage.kind with
  | human => exact absurd hStage hKind
  | decision =>
    rw [hStage] at h
    exact h
  | llm | tool | exit =>
    rw [hStage] at h
    exact h

theorem HasPriorities.waysFrom (h : d.HasPriorities) (hStage : stage ∈ d.stages) :
    ∀ exit ∈ d.waysFrom stage, exit.priority.IsPriority := by
  intro exit hExit
  unfold Definition.waysFrom at hExit
  split at hExit
  · obtain ⟨route, hRoute, rfl⟩ := List.mem_map.mp hExit
    exact h.1 stage hStage route hRoute
  · obtain ⟨t, ht, rfl⟩ := List.mem_map.mp hExit
    exact h.2 t (List.mem_of_mem_filter ht)

/-- Selection by weight agrees with selection by order where the first open way out has the
greatest priority of the open ways. -/
theorem selection_toGraph {g : Graph} (h : d.toGraph = .ok g) (hPriorities : d.HasPriorities)
    (hStage : stage ∈ d.stages) (hKind : stage.kind ≠ .human) (hId : stage.id ≠ Graph.startId) :
    (∀ edge ∈ g.edgesFrom stage.id, edge.IsWeighed) ∧
    ∀ outcome context first rest, g.openEdges stage.id outcome context = first :: rest →
      ∃ before way after, d.waysFrom stage = before ++ way :: after ∧
        (∀ other ∈ before, other.isOpen outcome context = false) ∧
        way.isOpen outcome context = true ∧ first.target = way.target ∧
        (way.Precedes outcome context after → first.Outweighs rest) ∧
        (((d.waysFrom stage).length : Int) ≤ priorityScale → first.Outweighs rest →
          way.Precedes outcome context after) := by
  obtain ⟨between, own, hParts⟩ := exists_edgeParts h
  have hLinked := (isAccepted_of_toGraph h).isLinked
  have hExpands := (hParts.leavingEdges hLinked hStage hId).expands hKind
  have hWays := hPriorities.waysFrom hStage
  exact ⟨hExpands.isWeighed hWays, fun _ _ _ _ => hExpands.exists_first hWays⟩

theorem selection_toGraph_at_three_routes :
    ∃ d g, ∃ stage ∈ d.stages, toGraph d = .ok g ∧ d.HasPriorities ∧ stage.kind = .decision ∧
      g.openEdges stage.id Outcome.succeeded {} =
        [⟨"x", "y", Table.ofList [("condition", .str "context.x.status="),
            ("weight", .int 2000002)]⟩,
          ⟨"x", "z", Table.ofList [("condition", .str ""), ("weight", .int (-999999))]⟩] ∧
      (∀ edge ∈ g.edgesFrom stage.id, edge.IsWeighed) ∧
      ∃ before way after, d.waysFrom stage = before ++ way :: after ∧
        (∀ other ∈ before, other.isOpen Outcome.succeeded {} = false) ∧
        way.isOpen Outcome.succeeded {} = true ∧ way.target = "y" := by
  obtain ⟨stage, hStage⟩ : ∃ stage : Stage, stage =
      { id := "x", kind := .decision, routes := [⟨"outcome(\"x\") == \"ok\"", "z", .int 5⟩,
        ⟨"outcome(\"x\") == \"\" || exists(\"y.log\")", "y", .int 2⟩,
        ⟨"true", "z", .int (-1)⟩] } := ⟨_, rfl⟩
  obtain ⟨d, hd⟩ : ∃ d : Definition, d =
      { name := "w", start := "x", stages := [stage, { id := "y", kind := .exit },
        { id := "z", kind := .exit }] } := ⟨_, rfl⟩
  have hReachable : d.reachable = ["y", "z", "x"] := by
    simp [hd, hStage, reachable, visit, leadsTo, stage?, targets, stageIds]
  have hValidate : d.validate = [] := by
    rw [validate, checkReachable, hReachable, hd, hStage]
    decide +kernel
  have hAccepted := isAccepted_of_validate_eq_nil hValidate
  have hPriorities : d.HasPriorities := by
    rw [hd, hStage]
    simp [HasPriorities, Stage.HasPriorities, Value.IsPriority]
  have hMem : stage ∈ d.stages := by
    rw [hd]
    exact List.mem_cons_self
  have hEdges : d.edges = .ok [⟨"__start__", "x", Table.ofList [("condition", .str "")]⟩,
      ⟨"x", "z", Table.ofList [("condition", .str "context.x.status=ok"), ("weight", .int 5000003)]⟩,
      ⟨"x", "y", Table.ofList [("condition", .str "context.x.status="), ("weight", .int 2000002)]⟩,
      ⟨"x", "y", Table.ofList [("condition", .str "context.y.log!="), ("weight", .int 2000002)]⟩,
      ⟨"x", "z", Table.ofList [("condition", .str ""), ("weight", .int (-999999))]⟩] := by
    rw [hd, hStage]
    decide +kernel
  obtain ⟨g, hGraph, hg⟩ : ∃ g, d.toGraph = .ok g ∧ .ok g.edges = d.edges :=
    ⟨_, toGraph_eq_ok hAccepted hEdges, hEdges.symm⟩
  rw [hEdges] at hg
  have hOpen : g.openEdges stage.id Outcome.succeeded {} =
      [⟨"x", "y", Table.ofList [("condition", .str "context.x.status="),
          ("weight", .int 2000002)]⟩,
        ⟨"x", "z", Table.ofList [("condition", .str ""), ("weight", .int (-999999))]⟩] := by
    rw [Graph.openEdges, Graph.edgesFrom, Except.ok.inj hg, hStage]
    decide +kernel
  obtain ⟨hWeighed, hFirst⟩ := selection_toGraph hGraph hPriorities hMem (by rw [hStage]; decide)
    (by rw [hStage]; decide)
  obtain ⟨before, way, after, hWays, hClosed, hWay, hTarget, -⟩ := hFirst _ _ _ _ hOpen
  exact ⟨d, g, stage, hMem, hGraph, hPriorities, by rw [hStage], hOpen, hWeighed, before, way, after,
    hWays, hClosed, hWay, hTarget.symm⟩

/-- A route with a greater priority outweighs an open one that is declared before it. -/
theorem exists_first_outweighed :
    ∃ d g, ∃ stage ∈ d.stages, toGraph d = .ok g ∧ d.HasPriorities ∧ stage.kind = .decision ∧
      stage.id ≠ Graph.startId ∧ ∀ outcome context, ∃ first second,
        g.openEdges stage.id outcome context = [first, second] ∧ ¬ first.Outweighs [second] := by
  obtain ⟨stage, hStage⟩ : ∃ stage : Stage, stage =
      { id := "x", kind := .decision, routes := [⟨"true", "y", .none⟩, ⟨"true", "z", .int 1⟩] } :=
    ⟨_, rfl⟩
  obtain ⟨d, hd⟩ : ∃ d : Definition, d =
      { name := "w", start := "x", stages := [stage, { id := "y", kind := .exit },
        { id := "z", kind := .exit }] } := ⟨_, rfl⟩
  have hReachable : d.reachable = ["z", "y", "x"] := by
    simp [hd, hStage, reachable, visit, leadsTo, stage?, targets, stageIds]
  have hErrors : ∀ x ∈ d.validate, x.isError = false := by
    rw [validate, checkReachable, hReachable, hd, hStage]
    decide +kernel
  have hPriorities : d.HasPriorities := by
    rw [hd, hStage]
    simp [HasPriorities, Stage.HasPriorities, Value.IsPriority]
  have hMem : stage ∈ d.stages := by
    rw [hd]
    exact List.mem_cons_self
  have hEdges : d.edges = .ok [⟨"__start__", "x", Table.ofList [("condition", .str "")]⟩,
      ⟨"x", "y", Table.ofList [("condition", .str ""), ("weight", .int 2)]⟩,
      ⟨"x", "z", Table.ofList [("condition", .str ""), ("weight", .int 1000001)]⟩] := by
    rw [hd, hStage]
    decide +kernel
  obtain ⟨g, hGraph, hg⟩ : ∃ g, d.toGraph = .ok g ∧ .ok g.edges = d.edges :=
    ⟨_, toGraph_eq_ok hErrors hEdges, hEdges.symm⟩
  rw [hEdges] at hg
  have hEmpty : Condition.clauses "" = [] := by decide +kernel
  refine ⟨d, g, stage, hMem, hGraph, hPriorities, by rw [hStage], by rw [hStage]; decide, ?_⟩
  intro outcome context
  have hAlways : context.satisfies outcome "" = true := by
    rw [Context.satisfies, Condition.holds, hEmpty]
    rfl
  refine ⟨⟨"x", "y", Table.ofList [("condition", .str ""), ("weight", .int 2)]⟩,
      ⟨"x", "z", Table.ofList [("condition", .str ""), ("weight", .int 1000001)]⟩, ?_, ?_⟩
  · rw [Graph.openEdges, Graph.edgesFrom, Except.ok.inj hg, hStage]
    have hCondition : ∀ target n, Graph.Edge.condition ⟨"x", target,
        Table.ofList [("condition", .str ""), ("weight", .int n)]⟩ = .str "" := fun _ _ =>
      Graph.Edge.condition_eq rfl
    simp [hCondition, Value.string?, hAlways]
  · rintro ⟨n, hn, hOthers⟩
    obtain ⟨m, hm, hLe, -⟩ := hOthers _ (List.mem_singleton_self _)
    cases hn
    cases hm
    exact absurd hLe (by decide)

end Definition

end Workflow
