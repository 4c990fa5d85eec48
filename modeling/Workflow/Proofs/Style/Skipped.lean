import Workflow.Proofs.Style.Cascade
import Workflow.Proofs.Style.Blocks

/-!
# Blocks whose selector is none

The reader of a stylesheet does not know where a block begins: it looks for the next character that
begins a selector, through the selectors and the bodies of blocks that it cannot use. For a text of
blocks without braces inside, `reread` says which blocks it finds instead. A block whose selector is
none changes nothing of what follows exactly if it is inert: the part of its selector that is found
is no selector either, or nothing at all is found in it. If all such blocks of a text are inert,
every other block gives its rule.
-/

namespace Workflow.Style

open Workflow.Text

namespace Block

/-- Neither the selector nor the body holds a brace. -/
structure IsBraceless (block : Block) : Prop where
  selector : '\x7b' ∉ block.selector ∧ '\x7d' ∉ block.selector
  body : '\x7b' ∉ block.body ∧ '\x7d' ∉ block.body

instance (block : Block) : Decidable block.IsBraceless :=
  decidable_of_iff (('\x7b' ∉ block.selector ∧ '\x7d' ∉ block.selector) ∧
      '\x7b' ∉ block.body ∧ '\x7d' ∉ block.body)
    ⟨fun h => ⟨h.1, h.2⟩, fun h => ⟨h.selector, h.body⟩⟩

end Block

def textOf (written : List Block) : String :=
  String.ofList (written.flatMap Block.chars)

def holdsSelector (cs : List Char) : Bool :=
  cs.any beginsSelector

def fromSelector (cs : List Char) : List Char :=
  cs.dropWhile fun c => !beginsSelector c

/-- The blocks that are found in the text of some blocks. What is carried stands before them and
belongs to no block that was found. -/
def reread (carried : List Char) : List Block → List Block
  | [] => []
  | block :: rest =>
    if holdsSelector (carried ++ block.selector) then
      ⟨fromSelector (carried ++ block.selector), block.body⟩ :: reread [] rest
    else reread (block.body ++ ['\x7d']) rest

section Found

variable {carried gap rest cs : List Char} {block : Block} {written : List Block}

theorem isGap_iff : IsGap cs ↔ holdsSelector cs = false := by
  simp [IsGap, holdsSelector]

theorem fromSelector_append (h : IsGap gap) : fromSelector (gap ++ cs) = fromSelector cs :=
  List.dropWhile_append_of_pos fun c hc => by simp [h c hc]

theorem block?_gap_append (h : IsGap gap) : block? (gap ++ rest) = block? rest := by
  have hDrop : (gap ++ rest).dropWhile (fun c => !beginsSelector c) =
      rest.dropWhile fun c => !beginsSelector c := fromSelector_append h
  rw [block?, hDrop, block?]

theorem blocks_of_block?_eq (h : block? cs = block? rest) : blocks cs = blocks rest := by
  rw [blocks, blocks]
  split <;> split <;> simp_all

theorem blocks_eq_nil_of_notMem (h : '\x7b' ∉ cs) : blocks cs = [] := by
  have hCut : cutFirst? ['\x7b'] (fromSelector cs) = none := by
    rw [cutFirst?_eq_none_iff (List.cons_ne_nil _ _), singleton_infix_iff]
    exact fun hMem => h ((List.dropWhile_sublist _).subset hMem)
  have hNone : block? cs = none := by
    rw [block?]
    exact congrArg (Option.bind · _) hCut
  rw [blocks]
  split
  · rfl
  · next hSome => cases hSome.symm.trans hNone

theorem exists_fromSelector_eq_cons (h : holdsSelector cs = true) :
    ∃ c more, fromSelector cs = c :: more ∧ beginsSelector c = true := by
  cases hFrom : fromSelector cs with
  | nil =>
    have hGap : IsGap cs := fun c hc => by
      simpa using List.dropWhile_eq_nil_iff.mp hFrom c hc
    rw [isGap_iff.mp hGap] at h
    cases h
  | cons c more =>
    have hHead := List.head?_dropWhile_not (fun c => !beginsSelector c) cs
    rw [show cs.dropWhile (fun c => !beginsSelector c) = c :: more from hFrom] at hHead
    exact ⟨c, more, rfl, by simpa using hHead⟩

theorem chars_append (block : Block) (rest : List Char) :
    block.chars ++ rest = block.selector ++ '\x7b' :: (block.body ++ '\x7d' :: rest) := by
  simp [Block.chars]

/-- A text of blocks without braces inside is read as the blocks that are found in it. -/
theorem blocks_flatMap_chars (hCarried : '\x7b' ∉ carried)
    (h : ∀ block ∈ written, block.IsBraceless) :
    blocks (carried ++ written.flatMap Block.chars) = reread carried written := by
  induction written generalizing carried with
  | nil =>
    rw [List.flatMap_nil, List.append_nil]
    exact blocks_eq_nil_of_notMem hCarried
  | cons block written ih =>
    rw [List.forall_mem_cons] at h
    obtain ⟨⟨⟨hSelector, -⟩, hBody⟩, hWritten⟩ := h
    have hBefore : '\x7b' ∉ carried ++ block.selector := by simp [hCarried, hSelector]
    rw [List.flatMap_cons, chars_append, ← List.append_assoc, reread]
    generalize carried ++ block.selector = before at hBefore
    split
    · next hHolds =>
      obtain ⟨c, more, hFrom, hBegins⟩ := exists_fromSelector_eq_cons hHolds
      obtain ⟨gap, hGap, hSplit⟩ : ∃ gap, IsGap gap ∧ gap ++ fromSelector before = before := by
        refine ⟨_, fun c hc => ?_, List.takeWhile_append_dropWhile⟩
        simpa using List.mem_takeWhile_imp hc
      have hFound : Block.IsWritable ⟨fromSelector before, block.body⟩ := by
        refine ⟨⟨c, by simp [hFrom], hBegins⟩, fun hMem => ?_, hBody.2⟩
        exact hBefore ((List.dropWhile_sublist _).subset hMem)
      have hText (rest : List Char) : before ++ '\x7b' :: (block.body ++ '\x7d' :: rest) =
          gap ++ ((Block.mk (fromSelector before) block.body).chars ++ rest) := by
        rw [chars_append, ← List.append_assoc, hSplit]
      rw [hText, blocks_append hGap hFound]
      exact congrArg (_ :: ·) (ih List.not_mem_nil hWritten)
    · next hHolds =>
      -- nothing is found up to the opening brace, so the search goes on in the body
      have hGap : IsGap (before ++ ['\x7b']) := by
        rw [Bool.not_eq_true, ← isGap_iff] at hHolds
        simp only [IsGap, List.mem_append, List.mem_singleton]
        rintro c (hc | rfl)
        · exact hHolds c hc
        · rfl
      have hText (rest : List Char) : before ++ '\x7b' :: (block.body ++ '\x7d' :: rest) =
          before ++ ['\x7b'] ++ (block.body ++ ['\x7d'] ++ rest) := by
        simp
      rw [hText, blocks_of_block?_eq (block?_gap_append hGap)]
      exact ih (by simp [hBody.1]) hWritten

end Found

section Rules

variable {carried : List Char} {block : Block} {rules : List Rule} {written : List Block}

theorem exists_cons_of_parse? {text : String} {selector : Selector}
    (h : Selector.parse? text = some selector) :
    ∃ c more, text.toList = c :: more ∧ beginsSelector c = true := by
  unfold Selector.parse? at h
  split at h
  · next hStar =>
    rw [hStar]
    exact ⟨'*', [], rfl, rfl⟩
  · split at h
    · next more hText => exact ⟨'#', more, hText, rfl⟩
    · next more hText => exact ⟨'.', more, hText, rfl⟩
    · cases h

theorem beginsSelector_eq_false_of_isBlank {c : Char} (h : isBlank c = true) :
    beginsSelector c = false := by
  rw [← Bool.not_eq_true]
  intro hBegins
  simp only [beginsSelector, Bool.or_eq_true, beq_iff_eq] at hBegins
  obtain (rfl | rfl) | rfl := hBegins <;> exact absurd h (by decide)

/-- Only blanks stand before a selector, so it is found where it begins. -/
theorem trimChars_fromSelector {cs : List Char} {c : Char} {more : List Char}
    (hTrim : trimChars cs = c :: more) (hBegins : beginsSelector c = true) :
    holdsSelector cs = true ∧ trimChars (fromSelector cs) = trimChars cs := by
  obtain ⟨tail, hTail⟩ : ∃ tail, cs.dropWhile isBlank = c :: tail := by
    obtain ⟨rest, hRest⟩ := dropEnd_isPrefix isBlank (cs.dropWhile isBlank)
    rw [trimChars] at hTrim
    exact ⟨more ++ rest, by rw [← hRest, hTrim, List.cons_append]⟩
  have hBlanks : IsGap (cs.takeWhile isBlank) := fun d hd =>
    beginsSelector_eq_false_of_isBlank (List.mem_takeWhile_imp hd)
  have hFrom : fromSelector cs = cs.dropWhile isBlank := by
    calc fromSelector cs
        = fromSelector (cs.takeWhile isBlank ++ cs.dropWhile isBlank) := by
          rw [List.takeWhile_append_dropWhile]
      _ = fromSelector (cs.dropWhile isBlank) := fromSelector_append hBlanks
      _ = cs.dropWhile isBlank := by
          rw [hTail, fromSelector, List.dropWhile_cons_of_neg (by simp [hBegins])]
  constructor
  · have hMem : c ∈ cs := (List.dropWhile_sublist _).subset (hTail ▸ List.mem_cons_self)
    exact List.any_eq_true.mpr ⟨c, hMem, hBegins⟩
  · rw [hFrom, trimChars, dropWhile_eq_self (beginsUnblank_dropWhile cs), trimChars]

/-- A block with a selector gives its rule also if what stands before the selector is left out. -/
theorem rule?_fromSelector (h : block.rule? ≠ none) :
    holdsSelector block.selector = true ∧
      (Block.mk (fromSelector block.selector) block.body).rule? = block.rule? := by
  obtain ⟨selector, hSelector⟩ : ∃ selector, Selector.parse? block.selectorText = some selector := by
    rw [Block.rule?, ne_eq, Option.map_eq_none_iff] at h
    exact Option.ne_none_iff_exists'.mp h
  obtain ⟨c, more, hText, hBegins⟩ := exists_cons_of_parse? hSelector
  rw [Block.selectorText, trim, String.toList_ofList, String.toList_ofList] at hText
  obtain ⟨hHolds, hSame⟩ := trimChars_fromSelector hText hBegins
  refine ⟨hHolds, ?_⟩
  simp only [Block.rule?, Block.selectorText, trim, String.toList_ofList, hSame]

/-- What is found in a block whose selector is none is no selector either, and nothing is found
beyond its own braces. -/
def Block.IsInert (block : Block) : Prop :=
  if holdsSelector block.selector then
    (Block.mk (fromSelector block.selector) block.body).rule? = none
  else holdsSelector block.body = false

instance (block : Block) : Decidable block.IsInert := by
  unfold Block.IsInert
  infer_instance

theorem holdsSelector_gap_append {cs : List Char} (h : IsGap carried) :
    holdsSelector (carried ++ cs) = holdsSelector cs := by
  have hNone : carried.any beginsSelector = false := isGap_iff.mp h
  simp [holdsSelector, hNone]

theorem isGap_closed {cs : List Char} (h : holdsSelector cs = false) : IsGap (cs ++ ['\x7d']) := by
  rw [← isGap_iff] at h
  simp only [IsGap, List.mem_append, List.mem_singleton]
  rintro c (hc | rfl)
  · exact h c hc
  · rfl

theorem reread_of_gap (h : IsGap carried) : reread carried written = reread [] written := by
  cases written with
  | nil => rfl
  | cons block written =>
    rw [reread, reread, holdsSelector_gap_append h, fromSelector_append h]
    rfl

theorem filterMap_rule?_reread (hGap : IsGap carried)
    (h : ∀ block ∈ written, block.rule? = none → block.IsInert) :
    (reread carried written).filterMap Block.rule? = written.filterMap Block.rule? := by
  induction written generalizing carried with
  | nil => rfl
  | cons block written ih =>
    rw [List.forall_mem_cons] at h
    rw [reread_of_gap hGap, reread, List.nil_append, List.filterMap_cons]
    by_cases hHolds : holdsSelector block.selector = true
    · have hFound :
          (Block.mk (fromSelector block.selector) block.body).rule? = block.rule? := by
        by_cases hNone : block.rule? = none
        · have hInert := h.1 hNone
          rw [Block.IsInert, if_pos hHolds] at hInert
          rw [hInert, hNone]
        · exact (rule?_fromSelector hNone).2
      rw [if_pos hHolds, List.filterMap_cons, hFound, ih (List.forall_mem_nil _) h.2]
    · have hNone : block.rule? = none := by
        by_contra hSome
        exact hHolds (rule?_fromSelector hSome).1
      have hInert := h.1 hNone
      rw [Block.IsInert, if_neg hHolds] at hInert
      rw [if_neg hHolds, hNone, ih (isGap_closed hInert) h.2]

end Rules

section Sorted

variable {rule : Rule} {rules : List Rule} {block : Block} {written : List Block}

/-- The order in which rules are applied, up to equal specificity. -/
def Rule.precedes (rule other : Rule) : Bool :=
  decide (rule.selector.specificity ≤ other.selector.specificity)

theorem Rule.precedes_trans (a b c : Rule) (hab : a.precedes b) (hbc : b.precedes c) :
    a.precedes c :=
  decide_eq_true ((of_decide_eq_true hab).trans (of_decide_eq_true hbc))

theorem Rule.precedes_total (a b : Rule) : (a.precedes b || b.precedes a) = true := by
  simp [precedes, Nat.le_total]

theorem bySpecificity_of_pairwise (h : rules.Pairwise fun rule other => rule.precedes other) :
    bySpecificity rules = rules := by
  have hLevels (rules : List Rule) : bySpecificity rules =
      rules.filter (·.selector.specificity == 0) ++ (rules.filter (·.selector.specificity == 1) ++
        rules.filter (·.selector.specificity == 2)) := by
    simp [bySpecificity]
  induction rules with
  | nil => rfl
  | cons rule rules ih =>
    obtain ⟨hRule, hRules⟩ := List.pairwise_cons.mp h
    have hRest := ih hRules
    rw [hLevels] at hRest ⊢
    have hNone {k : Nat} (hLess : k < rule.selector.specificity) :
        rules.filter (·.selector.specificity == k) = [] := by
      refine List.filter_eq_nil_iff.mpr fun other hOther => ?_
      have hOrder := of_decide_eq_true (hRule other hOther)
      simp only [beq_iff_eq]
      omega
    -- the rule stands in front of its own level, and the levels below are empty
    have hMem := specificity_mem_levels rule.selector
    simp only [List.mem_cons, List.not_mem_nil, or_false] at hMem
    obtain hLevel | hLevel | hLevel := hMem
    · simpa [List.filter_cons, hLevel] using hRest
    · rw [hNone (by omega), List.nil_append] at hRest
      simpa [List.filter_cons, hLevel, hNone] using hRest
    · rw [hNone (by omega), hNone (by omega), List.nil_append, List.nil_append] at hRest
      simpa [List.filter_cons, hLevel, hNone] using hRest

theorem filter_mergeSort (rules : List Rule) (k : Nat) :
    (rules.mergeSort Rule.precedes).filter (·.selector.specificity == k) =
      rules.filter (·.selector.specificity == k) := by
  have hTie : (rules.filter (·.selector.specificity == k)).Pairwise
      fun rule other => rule.precedes other := by
    refine List.pairwise_of_forall_mem_list fun rule hRule other hOther => ?_
    have hRule := beq_iff_eq.mp (List.mem_filter.mp hRule).2
    have hOther := beq_iff_eq.mp (List.mem_filter.mp hOther).2
    exact decide_eq_true (hRule.trans hOther.symm).le
  have hSublist := List.sublist_mergeSort Rule.precedes_trans Rule.precedes_total hTie List.filter_sublist
  have hLevel := hSublist.filter (·.selector.specificity == k)
  rw [List.filter_filter] at hLevel
  simp only [Bool.and_self] at hLevel
  exact (hLevel.eq_of_length ((List.mergeSort_perm _ _).filter _).length_eq.symm).symm

/-- Putting the levels of specificity one behind the other is a stable sort. -/
theorem bySpecificity_eq_mergeSort (rules : List Rule) :
    bySpecificity rules = rules.mergeSort Rule.precedes := by
  calc bySpecificity rules
      = bySpecificity (rules.mergeSort Rule.precedes) := by
        simp only [bySpecificity, filter_mergeSort]
    _ = rules.mergeSort Rule.precedes :=
        bySpecificity_of_pairwise
          (List.pairwise_mergeSort Rule.precedes_trans Rule.precedes_total rules)

theorem mem_bySpecificity_iff : rule ∈ bySpecificity rules ↔ rule ∈ rules := by
  rw [bySpecificity_eq_mergeSort]
  exact (List.mergeSort_perm _ _).mem_iff

end Sorted

section Parsed

variable {block : Block} {written : List Block}

theorem parse_textOf (h : ∀ block ∈ written, block.IsBraceless) :
    parse (textOf written) = bySpecificity ((reread [] written).filterMap Block.rule?) := by
  have hBlocks := blocks_flatMap_chars List.not_mem_nil h
  rw [List.nil_append] at hBlocks
  rw [parse, textOf, String.toList_ofList, hBlocks]

theorem Selector.eq_of_parse?_eq_all {text : String} (h : parse? text = some .all) : text = "*" := by
  unfold parse? at h
  split at h
  · assumption
  · split at h <;> cases h

/-- The block that takes the next one with it has a closing brace in its selector, so it is no rule
for all nodes. -/
theorem rule?_swallowing_ne {cs more body : List Char} {declarations : Table String String}
    (h : holdsSelector cs = true) :
    (Block.mk (fromSelector (cs ++ '\x7d' :: more)) body).rule? ≠ some ⟨.all, declarations⟩ := by
  intro hRule
  obtain ⟨selector, hSelector, hEq⟩ := Option.map_eq_some_iff.mp hRule
  cases hEq
  have hStar := Selector.eq_of_parse?_eq_all hSelector
  obtain ⟨c, tail, hFrom, -⟩ := exists_fromSelector_eq_cons h
  have hBrace : '\x7d' ∈ fromSelector (cs ++ '\x7d' :: more) := by
    rw [fromSelector] at hFrom ⊢
    simp [List.dropWhile_append, hFrom]
  have hTrimmed := mem_trimChars_of_mem hBrace (by decide)
  rw [Block.selectorText, trim, String.toList_ofList] at hStar
  rw [← String.toList_ofList (l := trimChars _), hStar] at hTrimmed
  exact absurd hTrimmed (by decide)

/-- A block adds nothing to what follows, and takes nothing from it, if and only if it is inert. -/
theorem isInert_iff_parse_cons (hBlock : block.IsBraceless) :
    block.IsInert ↔ ∀ after : List Block, (∀ other ∈ after, other.IsBraceless) →
      parse (textOf (block :: after)) = parse (textOf after) := by
  have hParse (after : List Block) (hAfter : ∀ other ∈ after, other.IsBraceless) :=
    parse_textOf (List.forall_mem_cons.mpr ⟨hBlock, hAfter⟩)
  by_cases hHolds : holdsSelector block.selector = true
  · have hCons (after : List Block) : reread [] (block :: after) =
        ⟨fromSelector block.selector, block.body⟩ :: reread [] after := if_pos hHolds
    rw [Block.IsInert, if_pos hHolds]
    constructor
    · intro hFound after hAfter
      rw [hParse after hAfter, parse_textOf hAfter, hCons, List.filterMap_cons, hFound]
    · intro hSame
      refine Option.eq_none_iff_forall_ne_some.mpr fun rule hRule => ?_
      have hAlone := hSame [] (List.forall_mem_nil _)
      rw [hParse [] (List.forall_mem_nil _), hCons, List.filterMap_cons, hRule] at hAlone
      have hMem : rule ∈ parse (textOf []) := by
        rw [← hAlone]
        exact mem_bySpecificity_iff.mpr List.mem_cons_self
      rw [parse_textOf (List.forall_mem_nil _), mem_bySpecificity_iff] at hMem
      cases hMem
  · have hCons (after : List Block) :
        reread [] (block :: after) = reread (block.body ++ ['\x7d']) after := if_neg hHolds
    rw [Block.IsInert, if_neg hHolds]
    constructor
    · intro hBody after hAfter
      rw [hParse after hAfter, parse_textOf hAfter, hCons, reread_of_gap (isGap_closed hBody)]
    · intro hSame
      rw [← Bool.not_eq_true]
      intro hBody
      -- a rule for all nodes behind the block is lost
      have hStar : ∀ other ∈ [Block.mk ['*'] []], other.IsBraceless := by decide
      have hMem : ⟨.all, Table.empty⟩ ∈ parse (textOf [Block.mk ['*'] []]) := by decide +kernel
      rw [← hSame _ hStar, hParse _ hStar, hCons, mem_bySpecificity_iff, reread, if_pos ?_,
        List.append_assoc, List.singleton_append] at hMem
      · obtain ⟨found, hFound, hRule⟩ := List.mem_filterMap.mp hMem
        obtain rfl := List.mem_singleton.mp hFound
        exact rule?_swallowing_ne hBody hRule
      · rw [holdsSelector] at hBody ⊢
        simp [hBody]

/-- A text of blocks without braces inside is read as the rules of the blocks that are found in it,
in stable order of specificity. These are the rules of its own blocks if every block whose selector
is none is inert, and just the inert blocks can stand before any others without changing them. -/
theorem parse_written_blocks (h : ∀ block ∈ written, block.IsBraceless) :
    parse (textOf written) =
      ((reread [] written).filterMap Block.rule?).mergeSort Rule.precedes ∧
    ((∀ block ∈ written, block.rule? = none → block.IsInert) →
      parse (textOf written) = (written.filterMap Block.rule?).mergeSort Rule.precedes) ∧
    ∀ block : Block, block.IsBraceless →
      (block.IsInert ↔ ∀ after : List Block, (∀ other ∈ after, other.IsBraceless) →
        parse (textOf (block :: after)) = parse (textOf after)) := by
  refine ⟨?_, fun hInert => ?_, fun block hBlock => isInert_iff_parse_cons hBlock⟩
  · rw [parse_textOf h, bySpecificity_eq_mergeSort]
  · rw [parse_textOf h, filterMap_rule?_reread (List.forall_mem_nil _) hInert,
      bySpecificity_eq_mergeSort]

/-- A block with a selector that is none before one for all nodes. -/
theorem parse_written_blocks_at_box :
    ∃ written : List Block, textOf written = "box \x7b llm_model: Q; \x7d * \x7b llm_model: A; \x7d" ∧
      (∀ block ∈ written, block.IsBraceless) ∧
      (∀ block ∈ written, block.rule? = none → block.IsInert) ∧
      parse (textOf written) = [⟨.all, Table.ofList [("llm_model", "A")]⟩] := by
  obtain ⟨written, hWritten⟩ : ∃ written : List Block, written =
      [⟨"box ".toList, " llm_model: Q; ".toList⟩, ⟨" * ".toList, " llm_model: A; ".toList⟩] :=
    ⟨_, rfl⟩
  have hBraceless : ∀ block ∈ written, block.IsBraceless := by
    rw [hWritten]
    decide
  have hInert : ∀ block ∈ written, block.rule? = none → block.IsInert := by
    rw [hWritten]
    decide +kernel
  refine ⟨written, by rw [hWritten]; decide, hBraceless, hInert, ?_⟩
  rw [(parse_written_blocks hBraceless).2.1 hInert, ← bySpecificity_eq_mergeSort, hWritten]
  decide +kernel

/-- A point in a value of a skipped block begins a selector, and the next block is lost. -/
theorem exists_rule_lost :
    ∃ written : List Block,
      textOf written = "box \x7b llm_model: gpt-3.5; \x7d * \x7b llm_model: A; \x7d" ∧
      (∀ block ∈ written, block.IsBraceless) ∧
      parse (textOf written) = [⟨.cls "5; \x7d *", Table.ofList [("llm_model", "A")]⟩] ∧
      parse (textOf written) ≠ (written.filterMap Block.rule?).mergeSort Rule.precedes := by
  refine ⟨[⟨"box ".toList, " llm_model: gpt-3.5; ".toList⟩,
    ⟨" * ".toList, " llm_model: A; ".toList⟩], by decide, by decide, by decide +kernel, ?_⟩
  rw [← bySpecificity_eq_mergeSort]
  decide +kernel

end Parsed

end Workflow.Style
