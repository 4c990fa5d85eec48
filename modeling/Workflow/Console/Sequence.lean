/-!
# Control sequences

A control sequence is the escape character, an opening bracket, parameters made of digits,
semicolons and question marks, and an ASCII letter. Only terminals understand them, so a text that
goes elsewhere is written without them. This belongs to the outer layer of the program, and no
theorem is about it.
-/

namespace Workflow.Console

def isParameter (c : Char) : Bool :=
  c.isDigit || c = ';' || c = '?'

/-- What follows the control sequence at the front of a text, from behind its bracket. -/
def afterSequence? (cs : List Char) : Option (List Char) :=
  match cs.dropWhile isParameter with
  | c :: rest => if c.isAlpha then some rest else none
  | [] => none

theorem length_lt_of_afterSequence? {cs rest : List Char} (h : afterSequence? cs = some rest) :
    rest.length < cs.length := by
  have hLength := (List.dropWhile_sublist isParameter (l := cs)).length_le
  unfold afterSequence? at h
  split at h
  · rename_i hDrop
    split at h
    · cases h
      rw [hDrop, List.length_cons] at hLength
      omega
    · cases h
  · cases h

/-- The text without its control sequences. What only comes to look like one stays. -/
def dropSequences (cs : List Char) : List Char :=
  match cs with
  | '\x1b' :: '[' :: rest =>
    match _h : afterSequence? rest with
    | some after => dropSequences after
    | none => '\x1b' :: '[' :: dropSequences rest
  | c :: rest => c :: dropSequences rest
  | [] => []
termination_by cs.length
decreasing_by
  · have := length_lt_of_afterSequence? _h
    simp only [List.length_cons]
    omega
  all_goals
    simp only [List.length_cons]
    omega

def withoutSequences (text : String) : String :=
  String.ofList (dropSequences text.toList)

end Workflow.Console
