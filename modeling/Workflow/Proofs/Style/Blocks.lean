import Workflow.Proofs.Table
import Workflow.Proofs.Text.Cut
import Workflow.Style

/-!
# Blocks and declarations that are written are read back

The reader of a stylesheet looks for the first character that begins a selector, wherever it stands,
and then for the next braces. A block whose selector begins so, with no opening brace in its
selector and no closing one in its body, is read as it is written, whatever follows it. Of a
declaration whose value does not end it, the trimmed value is read, and every value that is read is
trimmed and does not end a declaration.
-/

namespace Workflow.Style

open Workflow.Text

namespace Block

def chars (block : Block) : List Char :=
  block.selector ++ '\x7b' :: (block.body ++ ['\x7d'])

/-- The selector begins one, and neither part holds the brace that ends it. -/
structure IsWritable (block : Block) : Prop where
  begins : ∃ c ∈ block.selector.head?, beginsSelector c
  selector : '\x7b' ∉ block.selector
  body : '\x7d' ∉ block.body

end Block

/-- Characters between blocks: none of them begins a selector. -/
def IsGap (cs : List Char) : Prop :=
  ∀ c ∈ cs, beginsSelector c = false

section Blocks

variable {gap rest : List Char} {block : Block} {written : List Block}

theorem block?_append (hGap : IsGap gap) (h : block.IsWritable) :
    block? (gap ++ (block.chars ++ rest)) = some (block, rest) := by
  obtain ⟨selector, body⟩ := block
  obtain ⟨c, cs, rfl, hBegins⟩ : ∃ c cs, selector = c :: cs ∧ beginsSelector c = true := by
    obtain ⟨c, hHead, hBegins⟩ := h.begins
    obtain ⟨cs, hSelector⟩ := List.head?_eq_some_iff.mp hHead
    exact ⟨c, cs, hSelector, hBegins⟩
  have hDrop (more : List Char) :
      (gap ++ c :: more).dropWhile (fun c => !beginsSelector c) = c :: more := by
    rw [List.dropWhile_append_of_pos (fun d hd => by simp [hGap d hd]),
      List.dropWhile_cons_of_neg (by simp [hBegins])]
  have hChars : (Block.mk (c :: cs) body).chars ++ rest =
      c :: cs ++ '\x7b' :: (body ++ '\x7d' :: rest) := by
    simp [Block.chars]
  rw [block?, hChars, List.cons_append, hDrop, ← List.cons_append, cutFirst?_singleton h.selector]
  simp [cutFirst?_singleton h.body]

theorem blocks_append (hGap : IsGap gap) (h : block.IsWritable) :
    blocks (gap ++ (block.chars ++ rest)) = block :: blocks rest := by
  rw [blocks]
  split
  · next hNone => cases hNone.symm.trans (block?_append hGap h)
  · next hSome =>
    cases hSome.symm.trans (block?_append hGap h)
    rfl

theorem blocks_eq_nil (h : IsGap gap) : blocks gap = [] := by
  have hDrop : gap.dropWhile (fun c => !beginsSelector c) = [] :=
    List.dropWhile_eq_nil_iff.mpr fun c hc => by simp [h c hc]
  have hNone : block? gap = none := by simp [block?, hDrop, cutFirst?]
  rw [blocks]
  split
  · rfl
  · next hSome => cases hSome.symm.trans hNone

theorem blocks_flatMap (hGap : IsGap gap) (h : ∀ block ∈ written, block.IsWritable) :
    blocks (written.flatMap fun block => gap ++ block.chars) = written := by
  induction written with
  | nil => exact blocks_eq_nil nofun
  | cons block written ih =>
    rw [List.forall_mem_cons] at h
    rw [List.flatMap_cons, List.append_assoc, blocks_append hGap h.1, ih h.2]

/-- Joined texts of blocks are read as these blocks. -/
theorem blocks_intercalate {separator : String} {texts : List String}
    (hGap : IsGap separator.toList) (hTexts : texts.map String.toList = written.map Block.chars)
    (h : ∀ block ∈ written, block.IsWritable) :
    blocks (separator.intercalate texts).toList = written := by
  cases texts with
  | nil =>
    obtain rfl : written = [] := List.map_eq_nil_iff.mp hTexts.symm
    exact blocks_eq_nil nofun
  | cons text texts =>
    rw [List.map_cons] at hTexts
    obtain ⟨block, written, rfl, hFirst, hTexts⟩ := List.map_eq_cons_iff.mp hTexts.symm
    rw [List.forall_mem_cons] at h
    have hRest : texts.flatMap (fun text => separator.toList ++ text.toList) =
        written.flatMap fun block => separator.toList ++ block.chars := by
      rw [← List.flatMap_map String.toList fun cs => separator.toList ++ cs, ← hTexts,
        List.flatMap_map]
    rw [toList_intercalate_cons, ← hFirst, hRest, ← List.nil_append (block.chars ++ _),
      blocks_append (List.forall_mem_nil _) h.1, blocks_flatMap hGap h.2]

end Blocks

section Declarations

variable {table : Table String String} {field : String × String} {fields : List (String × String)}

/-- What one part of the body of a block adds to the declarations before it. -/
def declare (table : Table String String) (part : String) : Table String String :=
  match cut? ":" part with
  | none => table
  | some (property, value) =>
    if trim property = "" ∨ trim value = "" then table
    else table.insert (trim property) (trim value)

theorem declarations_eq (body : String) :
    declarations body = (pieces ";" body).foldl declare Table.empty := rfl

/-- A declaration without its end. -/
def declarationText (field : String × String) : String :=
  field.1 ++ ": " ++ field.2

/-- A value as declarations give it: trimmed, and without the character that ends one. -/
def IsPlainValue (value : String) : Prop :=
  trim value = value ∧ ';' ∉ value.toList

instance (value : String) : Decidable (IsPlainValue value) :=
  inferInstanceAs (Decidable (trim value = value ∧ ';' ∉ value.toList))

/-- A declaration that is read as one: neither of its parts holds what ends it. -/
structure IsDeclarable (field : String × String) : Prop where
  property : field.1 ≠ "" ∧ trim field.1 = field.1 ∧ ':' ∉ field.1.toList ∧ ';' ∉ field.1.toList
  value : ';' ∉ field.2.toList

/-- What is read of a declaration: its trimmed value, and nothing if that is empty. -/
def readField? (field : String × String) : Option (String × String) :=
  if trim field.2 = "" then none else some (field.1, trim field.2)

theorem declare_declarationText (h : IsDeclarable field) :
    declare table (" " ++ declarationText field) = table.insertAll (readField? field).toList := by
  obtain ⟨hProperty, hTrimmed, hColon, -⟩ := h.property
  have hCut : cut? ":" (" " ++ declarationText field) = some (" " ++ field.1, " " ++ field.2) := by
    refine (cut?_eq_some_iff (by decide)).mpr ⟨?_, by simpa [singleton_infix_iff] using hColon⟩
    rw [declarationText, show ": " = ":" ++ " " from rfl]
    simp only [String.append_assoc]
  simp only [declare, hCut, trim_space_append, hTrimmed, hProperty, false_or, readField?]
  split <;> rfl

theorem piecesFrom_declarations (h : ∀ field ∈ fields, IsDeclarable field) :
    piecesFrom [';'] 0 (fields.flatMap (fun field =>
      " ".toList ++ (declarationText field ++ ";").toList) ++ " ".toList) =
      fields.map (fun field => (" " ++ declarationText field).toList) ++ [" ".toList] := by
  induction fields with
  | nil => rfl
  | cons field fields ih =>
    rw [List.forall_mem_cons] at h
    obtain ⟨⟨-, -, -, hProperty⟩, hValue⟩ := h.1
    have hInner : ';' ∉ (" " ++ declarationText field).toList := by
      simp [declarationText, hProperty, hValue]
    have hChars (rest : List Char) : " ".toList ++ (declarationText field ++ ";").toList ++ rest =
        (" " ++ declarationText field).toList ++ ';' :: rest := by
      simp
    rw [List.flatMap_cons, List.append_assoc, hChars,
      piecesFrom_of_cut (by decide) (cutFirst?_singleton hInner), ih h.2]
    rfl

/-- The body of a block that declares some fields. -/
def body (fields : List (String × String)) : String :=
  " " ++ " ".intercalate (fields.map fun field => declarationText field ++ ";") ++ " "

theorem toList_body (h : fields ≠ []) :
    (body fields).toList = fields.flatMap (fun field =>
      " ".toList ++ (declarationText field ++ ";").toList) ++ " ".toList := by
  obtain ⟨field, fields, rfl⟩ := List.exists_cons_of_ne_nil h
  simp only [body, List.map_cons, String.toList_append, toList_intercalate_cons, List.flatMap_cons,
    List.flatMap_map, List.append_assoc]

theorem notMem_body {c : Char} (hFields : fields ≠ []) (hMarks : c ∉ [' ', ':', ';'])
    (h : ∀ field ∈ fields, c ∉ field.1.toList ∧ c ∉ field.2.toList) : c ∉ (body fields).toList := by
  simp only [List.mem_cons, List.not_mem_nil, or_false, not_or] at hMarks
  rw [toList_body hFields, List.mem_append, List.mem_flatMap, not_or]
  refine ⟨?_, by simpa using hMarks.1⟩
  rintro ⟨field, hField, hMem⟩
  simp [declarationText, h field hField, hMarks] at hMem

theorem foldl_declare (h : ∀ field ∈ fields, IsDeclarable field) :
    (fields.map fun field => " " ++ declarationText field).foldl declare table =
      table.insertAll (fields.filterMap readField?) := by
  induction fields generalizing table with
  | nil => rfl
  | cons field fields ih =>
    rw [List.forall_mem_cons] at h
    rw [List.map_cons, List.foldl_cons, declare_declarationText h.1, ih h.2, List.filterMap_cons]
    cases readField? field <;> rfl

theorem declarations_body (hFields : fields ≠ []) (h : ∀ field ∈ fields, IsDeclarable field) :
    declarations (body fields) = Table.ofList (fields.filterMap readField?) := by
  have hPieces : pieces ";" (body fields) =
      fields.map (fun field => " " ++ declarationText field) ++ [" "] := by
    rw [pieces, toList_body hFields, show ";".toList = [';'] from rfl, piecesFrom_declarations h]
    simp only [List.map_append, List.map_map, Function.comp_def, String.ofList_toList,
      List.map_singleton]
  have hLast (table : Table String String) : declare table " " = table := rfl
  rw [declarations_eq, hPieces, List.foldl_append, foldl_declare h]
  exact hLast _

end Declarations

section Values

variable {cs : List Char} {block : Block} {rule : Rule} {property value : String}

theorem notMem_of_mem_blocks (h : block ∈ blocks cs) :
    '\x7b' ∉ block.selector ∧ '\x7d' ∉ block.body := by
  fun_induction blocks cs with
  | case1 => cases h
  | case2 cs first rest hFirst ih =>
    obtain rfl | hRest := List.mem_cons.mp h
    · simp only [block?, Option.bind_eq_bind, Option.bind_eq_some_iff] at hFirst
      obtain ⟨⟨selector, rest₁⟩, hSelector, ⟨body, rest₂⟩, hBody, hEq⟩ := hFirst
      cases hEq
      have hSelector := not_infix_of_cutFirst? (List.cons_ne_nil _ _) hSelector
      have hBody := not_infix_of_cutFirst? (List.cons_ne_nil _ _) hBody
      constructor
      · simpa [singleton_infix_iff] using hSelector
      · simpa [singleton_infix_iff] using hBody
    · exact ih hRest

/-- Every value of a table is plain, and its characters are among some others. -/
def HasPlainValues (cs : List Char) (table : Table String String) : Prop :=
  ∀ property value, table.get? property = some value →
    value ≠ "" ∧ IsPlainValue value ∧ value.toList ⊆ cs

theorem HasPlainValues.declare {table : Table String String} {part : String}
    (h : HasPlainValues cs table) (hPart : ';' ∉ part.toList ∧ part.toList ⊆ cs) :
    HasPlainValues cs (declare table part) := by
  unfold Style.declare
  split
  · exact h
  · next before after hCut =>
    split
    · exact h
    · next hGiven =>
      intro property value hGet
      rw [Table.get?_insert] at hGet
      split at hGet
      · obtain rfl := Option.some.inj hGet
        have hPart' : part.toList = before.toList ++ (":".toList ++ after.toList) := by
          rw [((cut?_eq_some_iff (by decide)).mp hCut).1, String.toList_append,
            String.toList_append, List.append_assoc]
        have hSubset : (trim after).toList ⊆ part.toList := by
          rw [hPart', trim, String.toList_ofList]
          exact fun c hc => List.mem_append_right _ (List.mem_append_right _
            ((trimChars_isInfix _).subset hc))
        exact ⟨(not_or.mp hGiven).2, ⟨trim_trim after, fun hMem => hPart.1 (hSubset hMem)⟩,
          fun c hc => hPart.2 (hSubset hc)⟩
      · exact h property value hGet

/-- What is declared is plain and stands in the body, whatever the body is. -/
theorem hasPlainValues_declarations (body : String) :
    HasPlainValues body.toList (declarations body) := by
  have hPieces : ∀ part ∈ pieces ";" body, ';' ∉ part.toList ∧ part.toList ⊆ body.toList := by
    intro part hPart
    obtain ⟨piece, hPiece, rfl⟩ := List.mem_map.mp hPart
    rw [String.toList_ofList]
    exact of_mem_piecesFrom hPiece
  rw [declarations_eq]
  generalize pieces ";" body = parts at hPieces
  suffices h : ∀ table, HasPlainValues body.toList table →
      HasPlainValues body.toList (parts.foldl declare table) from h _ nofun
  induction parts with
  | nil => exact fun _ h => h
  | cons part parts ih =>
    rw [List.forall_mem_cons] at hPieces
    exact fun table h => ih hPieces.2 _ (h.declare hPieces.1)

theorem of_get?_rule (hBlock : block ∈ blocks cs) (hRule : block.rule? = some rule)
    (h : rule.declarations.get? property = some value) :
    value ≠ "" ∧ IsPlainValue value ∧ '\x7d' ∉ value.toList := by
  obtain ⟨selector, -, rfl⟩ := Option.map_eq_some_iff.mp hRule
  obtain ⟨hNonempty, hPlain, hSubset⟩ := hasPlainValues_declarations _ _ _ h
  rw [String.toList_ofList] at hSubset
  exact ⟨hNonempty, hPlain, fun hMem => (notMem_of_mem_blocks hBlock).2 (hSubset hMem)⟩

end Values

end Workflow.Style
