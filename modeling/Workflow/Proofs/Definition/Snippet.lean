import Workflow.Proofs.Definition.Places
import Workflow.Proofs.Text.Lines

/-!
# The line that an error shows

The line of an error is counted by line feeds, but the text shown with it is a line in the wider
sense, which other characters can end too. The two agree if every earlier line feed is the only end
of its line, and then up to the first end inside the line of the error. Otherwise the text shown
stands before that line.
-/

namespace Workflow

open Workflow.Source Workflow.Text

/-- A place of a text stands in one of its lines between line feeds. -/
theorem Source.Place.IsIn.exists_feedLine {cs : List Char} {p : Place} (h : p.IsIn cs) :
    ∃ before line after, feedLines cs = before ++ line :: after ∧
      p.line = before.length + 1 := by
  obtain ⟨front, hPrefix, rfl⟩ := h
  have hCount : front.count '\n' < (feedLines cs).length := by
    rw [length_feedLines]
    exact Nat.lt_succ_of_le (hPrefix.sublist.count_le '\n')
  refine ⟨(feedLines cs).take (front.count '\n'), (feedLines cs)[front.count '\n'],
    (feedLines cs).drop (front.count '\n' + 1), ?_, ?_⟩
  · rw [List.cons_getElem_drop_succ, List.take_append_drop]
  · rw [List.length_take_of_le (Nat.le_of_lt hCount)]
    exact Nat.add_comm 1 _

namespace Definition

/-- The text shown with an error in a line is what the line begins with, and the whole line if only
blanks stand behind its first end, so long as every earlier line feed is the only end of its line.
Otherwise it is a part of an earlier line. -/
theorem snippet_of_parse {source : String} {e : ParseError}
    (h : parse source = .error (.malformed e)) (hLine : e.place.line ≠ 0) :
    ∃ before line after, feedLines source.toList = before ++ line :: after ∧
      e.place.line = before.length + 1 ∧
      ((∀ piece ∈ before, IsOneLine piece) →
        e.snippet = shown (line.takeWhile fun c => !isLineEnd c) ∧
          ((∀ c ∈ line.dropWhile fun c => !isLineEnd c, isBlank c = true) →
            e.snippet = shown line)) ∧
      ((∃ piece ∈ before, ¬ IsOneLine piece) →
        ∃ piece ∈ before, ∃ part, part <:+: piece ∧ e.snippet = shown part) := by
  obtain ⟨hSnippet, hUnknown | hIn⟩ := place_of_parse h
  · exact absurd (congrArg Place.line hUnknown) hLine
  obtain ⟨before, line, after, hSplit, hNumber⟩ := hIn.exists_feedLine
  obtain ⟨hSame, hEarlier⟩ := getElem?_linesFrom hSplit
  rw [excerpt_eq_shown hLine, hNumber, Nat.add_sub_cancel] at hSnippet
  refine ⟨before, line, after, hSplit, hNumber, fun hAll => ?_, fun hSome => ?_⟩
  · rw [hSame hAll] at hSnippet
    exact ⟨hSnippet, fun hBlank => hSnippet.trans (shown_takeWhile_of_blanks hBlank)⟩
  · obtain ⟨piece, hPiece, part, hPart, hShown⟩ := hEarlier hSome
    rw [hShown] at hSnippet
    exact ⟨piece, hPiece, part, hPart, hSnippet⟩

theorem parse_of_scan_error {source : String} {fault : LexicalFault} {p : Place}
    (h : Token.scan source = .error (fault, p)) :
    parse source = .error (malformed source (.lexical fault) p "") := by
  rw [parse, h]
  rfl

/-- Carriage returns before line feeds do no harm. -/
theorem snippet_of_parse_at_carriage_returns :
    let source := "workflow \"w\" \x7b\r\n  start @a\r\n\x7d"
    let e : ParseError := ⟨.lexical (.unexpectedChar '@'), ⟨2, 9⟩, "start @a", ""⟩
    parse source = .error (.malformed e) ∧ e.place.line ≠ 0 ∧
      ∃ line, (feedLines source.toList)[1]? = some line ∧ e.snippet = shown line := by
  intro source e
  have hScan : Token.scan source = .error (.unexpectedChar '@', ⟨2, 9⟩) := by decide +kernel
  have hError : malformed source (.lexical (.unexpectedChar '@')) ⟨2, 9⟩ "" = .malformed e := by
    decide +kernel
  have hParse : parse source = .error (.malformed e) := by
    rw [parse_of_scan_error hScan, hError]
  obtain ⟨before, line, after, hSplit, hNumber, hSame, -⟩ := snippet_of_parse hParse (by decide)
  obtain ⟨first, rfl⟩ := List.length_eq_one_iff.mp (Nat.succ.inj hNumber.symm)
  have hLines : feedLines source.toList =
      ["workflow \"w\" \x7b\r".toList, "  start @a\r".toList, ['\x7d']] := by decide +kernel
  obtain ⟨rfl, rfl, -⟩ : "workflow \"w\" \x7b\r".toList = first ∧ "  start @a\r".toList = line ∧
      [['\x7d']] = after := by
    simpa using hLines.symm.trans hSplit
  have hFirst : ∀ piece ∈ ["workflow \"w\" \x7b\r".toList], IsOneLine piece := by decide +kernel
  have hEnd : "  start @a\r".toList.dropWhile (fun c => !isLineEnd c) = ['\r'] := by decide +kernel
  refine ⟨hParse, by decide, _, by rw [hLines]; rfl, (hSame hFirst).2 fun c hc => ?_⟩
  rw [hEnd] at hc
  obtain rfl := List.mem_singleton.mp hc
  decide

/-- A line separator in a string ends a line that is not counted, so the text shown with an error in
the third line is the end of the second. -/
theorem exists_snippet_of_earlier_line :
    ∃ source e line, parse source = .error (.malformed e) ∧ e.place.line ≠ 0 ∧
      (feedLines source.toList)[e.place.line - 1]? = some line ∧ e.snippet ≠ shown line := by
  let source := "workflow \"w\" \x7b\n  goal \"a\u2028b\"\n  start @a\n\x7d"
  have hScan : Token.scan source = .error (.unexpectedChar '@', ⟨3, 9⟩) := by decide +kernel
  exact ⟨source, ⟨.lexical (.unexpectedChar '@'), ⟨3, 9⟩, "b\"", ""⟩, "  start @a".toList,
    (parse_of_scan_error hScan).trans (by decide +kernel), by decide, by decide +kernel,
    by decide +kernel⟩

end Definition

end Workflow
