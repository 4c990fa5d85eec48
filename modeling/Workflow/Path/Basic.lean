import Workflow.Text.Split

/-!
# Paths

A path is a root of zero, one or two slashes and a list of parts, none of which is empty or a
single point. Two slashes at the front are kept as they are, three or more count as one. The parts
`..` stay until the path is resolved.
-/

namespace Workflow

open Workflow.Text

structure Path where
  slashes : Nat
  parts : List String
  deriving DecidableEq, Repr

namespace Path

def leadingSlashes (cs : List Char) : Nat :=
  (cs.takeWhile (· == '/')).length

def parse (text : String) : Path :=
  let count := leadingSlashes text.toList
  { slashes := if count = 0 then 0 else if count = 2 then 2 else 1
    parts := (pieces "/" text).filter fun part => part ≠ "" ∧ part ≠ "." }

def isAbsolute (p : Path) : Bool :=
  p.slashes ≠ 0

def text (p : Path) : String :=
  let body := "/".intercalate p.parts
  if p.slashes = 0 then (if body = "" then "." else body)
  else String.ofList (List.replicate p.slashes '/') ++ body

/-- The path `q` seen from `p`. -/
def join (p q : Path) : Path :=
  if q.isAbsolute then q else { p with parts := p.parts ++ q.parts }

def child (p : Path) (name : String) : Path :=
  { p with parts := p.parts ++ [name] }

def parent (p : Path) : Path :=
  { p with parts := p.parts.dropLast }

/-- Whether a part holds the null character, which no name of a file can. -/
def hasNull (p : Path) : Bool :=
  p.parts.any (·.toList.contains '\x00')

/-- The last part. -/
def name (p : Path) : String :=
  p.parts.getLast?.getD ""

/-- The parts with every `..` taken together with the part before it, kept in reverse. -/
def resolveParts (reversed : List String) : List String → List String
  | [] => reversed.reverse
  | part :: parts =>
    if part = ".." then resolveParts reversed.tail parts else resolveParts (part :: reversed) parts

/-- Behind a directory, parts that do not lead upwards are only added to it. -/
theorem resolveParts_append {parts : List String} (h : ".." ∉ parts) (reversed base : List String) :
    resolveParts reversed (base ++ parts) = resolveParts reversed base ++ parts := by
  induction base generalizing reversed with
  | nil =>
    induction parts generalizing reversed with
    | nil => rw [List.append_nil, List.append_nil]
    | cons part parts ih =>
      rw [List.mem_cons, not_or] at h
      have hStep : resolveParts reversed (part :: parts) = resolveParts (part :: reversed) parts :=
        if_neg (Ne.symm h.1)
      rw [List.nil_append] at ih ⊢
      rw [hStep, ih h.2]
      simp [resolveParts]
  | cons first base ih =>
    simp only [List.cons_append, resolveParts]
    split
    · exact ih _
    · exact ih _

/-- The absolute path without `..` that `p` stands for in the directory `cwd`. -/
def resolve (cwd p : Path) : Path :=
  let joined := cwd.join p
  { slashes := max 1 joined.slashes, parts := resolveParts [] joined.parts }

/-- Where the extension of a name begins: at the last point, if that is neither the first nor the
last character. -/
def splitName (name : String) : String × String :=
  let reversed := name.toList.reverse
  let extension := reversed.takeWhile (· ≠ '.')
  let stem := reversed.drop (extension.length + 1)
  if extension.isEmpty || stem.isEmpty then (name, "")
  else (String.ofList stem.reverse, String.ofList ('.' :: extension.reverse))

def stem (p : Path) : String := (splitName p.name).1

def extension (p : Path) : String := (splitName p.name).2

end Path

end Workflow
