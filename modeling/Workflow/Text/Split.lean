/-!
# Cutting and replacing

All three operations scan from left to right for the occurrences of a text that do not overlap.
-/

namespace Workflow.Text

/-- The pieces between the occurrences of `sep`. The first argument counts the characters still
to be passed over. -/
def piecesFrom (sep : List Char) : Nat → List Char → List (List Char)
  | _, [] => [[]]
  | skip + 1, _ :: cs => piecesFrom sep skip cs
  | 0, c :: cs =>
    if sep.isPrefixOf (c :: cs) then
      [] :: piecesFrom sep (sep.length - 1) cs
    else match piecesFrom sep 0 cs with
      | [] => [[c]]
      | piece :: pieces => (c :: piece) :: pieces

def pieces (sep : String) (s : String) : List String :=
  (piecesFrom sep.toList 0 s.toList).map String.ofList

/-- What stands before and after the first occurrence of `sep`. -/
def cutFirst? (sep : List Char) : List Char → Option (List Char × List Char)
  | [] => if sep.isEmpty then some ([], []) else none
  | c :: cs =>
    if sep.isPrefixOf (c :: cs) then some ([], (c :: cs).drop sep.length)
    else (cutFirst? sep cs).map fun parts => (c :: parts.1, parts.2)

def cut? (sep : String) (s : String) : Option (String × String) :=
  (cutFirst? sep.toList s.toList).map fun parts => (String.ofList parts.1, String.ofList parts.2)

def replaceFrom (old new : List Char) : Nat → List Char → List Char
  | _, [] => []
  | skip + 1, _ :: cs => replaceFrom old new skip cs
  | 0, c :: cs =>
    if old.isPrefixOf (c :: cs) then new ++ replaceFrom old new (old.length - 1) cs
    else c :: replaceFrom old new 0 cs

/-- Every occurrence of `old`, which is not empty, becomes `new`. -/
def replace (old new : String) (s : String) : String :=
  String.ofList (replaceFrom old.toList new.toList 0 s.toList)

theorem piecesFrom_ne_nil (sep : List Char) (skip : Nat) (cs : List Char) :
    piecesFrom sep skip cs ≠ [] := by
  induction cs generalizing skip with
  | nil => cases skip <;> simp [piecesFrom]
  | cons c cs ih =>
    cases skip with
    | succ skip => exact ih skip
    | zero =>
      rw [piecesFrom]
      split
      · simp
      · split <;> simp

theorem cutFirst?_eq_some {sep cs before after : List Char}
    (h : cutFirst? sep cs = some (before, after)) : cs = before ++ sep ++ after := by
  induction cs generalizing before with
  | nil =>
    cases sep <;> simp_all [cutFirst?]
  | cons c cs ih =>
    rw [cutFirst?] at h
    split at h
    · rename_i hPre
      obtain ⟨rest, hRest⟩ := List.isPrefixOf_iff_prefix.mp hPre
      cases h
      simp [← hRest]
    · obtain ⟨parts, hParts, hEq⟩ := Option.map_eq_some_iff.mp h
      cases hEq
      have hTail := ih hParts
      simp [hTail]

end Workflow.Text
