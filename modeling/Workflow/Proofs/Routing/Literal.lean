import Workflow.Proofs.Text.Blank
import Workflow.Routing.Token

/-!
# Strings of expressions

The reader of strings in expressions keeps what it has read and an index, and the reader of literals
keeps what is left of the text. Both take the same characters in each step, so they stop at the same
quote.
-/

namespace Workflow.Routing.Token

open Workflow.Text

theorem lookup_escapes (c : Char) : (escapes.lookup c).getD c = unescape c := by
  unfold unescape
  split
  · next hFeed => rw [hFeed]; rfl
  · next hFeed =>
    split
    · next hTab => rw [hTab]; rfl
    · next hTab =>
      have hLookup : escapes.lookup c = none := by
        simp [escapes, List.lookup_cons, beq_eq_false_iff_ne.mpr hFeed, beq_eq_false_iff_ne.mpr hTab]
      rw [hLookup]
      rfl

/-- A string ends where the literal ends, and has its characters behind those read before. -/
theorem readString_eq (read : List Char) (index : Nat) (cs : List Char) :
    readString read index cs = (readLiteral cs).map fun r =>
      (read.reverse ++ r.1, index + (cs.length - r.2.length)) := by
  fun_induction readString read index cs with
  | case1 => rfl
  | case2 read index rest =>
    rw [readLiteral, Option.map_some, List.append_nil, List.length_cons, Nat.add_sub_cancel_left]
  | case3 read index c cs ih =>
    rw [ih, readLiteral, Option.map_map]
    refine Option.map_congr fun r hRead => ?_
    have hShorter := length_lt_of_readLiteral hRead
    simp only [lookup_escapes, List.reverse_cons, List.append_assoc, List.singleton_append,
      Function.comp, List.length_cons, Prod.mk.injEq, true_and]
    omega
  | case4 read index c cs hQuote hSlash ih =>
    rw [ih, readLiteral.eq_4 c cs hQuote hSlash, Option.map_map]
    refine Option.map_congr fun r hRead => ?_
    have hShorter := length_lt_of_readLiteral hRead
    simp only [List.reverse_cons, List.append_assoc, List.singleton_append, Function.comp,
      List.length_cons, Prod.mk.injEq, true_and]
    omega

theorem front_quote (cs : List Char) :
    front '"' cs = match readLiteral cs with
      | none => .fault .unterminatedString
      | some (text, rest) => .token .string text (cs.length - rest.length) := by
  have hInk : isBlank '"' = false := by decide
  simp only [front, hInk, readString_eq]
  cases readLiteral cs with
  | none => rfl
  | some r => simp

end Workflow.Routing.Token
