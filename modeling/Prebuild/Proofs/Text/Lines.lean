/-
This file proves that cutting a text into lines undoes writing lines one after the
other, each with a line feed at its end. A line must hold no line feed for that, and must
not end in a carriage return, which would be taken for a part of the line's end.

It also proves that the lines of a text can be found piece by piece: where a piece ends with
the end of a line, its lines are lines of the whole text, and the next piece begins a line.
-/

import Prebuild.Text

namespace Prebuild.Text

/-- A text that is one line again once it has been written as a line. -/
structure IsLine (line : Text) : Prop where
  noLineFeed : '\n' ∉ line
  noReturn : line.getLast? ≠ some '\r'

theorem isLine_of_not_mem {line : Text} (noLineFeed : '\n' ∉ line) (noReturn : '\r' ∉ line) :
    IsLine line :=
  ⟨noLineFeed, fun ends => noReturn (List.mem_of_getLast? ends)⟩

/-- A character that does not end a line is the first of the first line. -/
theorem lines_cons_of_inside {character : Char} {text line : Text} {others : List Text}
    (inside : character ≠ '\n') (noReturn : character = '\r' → text.head? ≠ some '\n')
    (rest : text.lines = line :: others) :
    lines (character :: text) = (character :: line) :: others := by
  rw [lines, rest]
  · exact inside
  · rintro following rfl rfl
    exact noReturn rfl rfl

/-- Characters that do not end a line, before the end of one, are all of that line. -/
theorem lines_append_of_ended {line ending : Text} {others : List Text} (noLineFeed : '\n' ∉ line)
    (noReturn : line.getLast? = some '\r' → ending.head? ≠ some '\n')
    (ended : ending.lines = [] :: others) : lines (line ++ ending) = line :: others := by
  induction line with
  | nil => exact ended
  | cons character line inductionHypothesis =>
    rw [List.mem_cons, not_or] at noLineFeed
    have further : lines (line ++ ending) = line :: others := by
      refine inductionHypothesis noLineFeed.2 fun ends => noReturn ?_
      rw [List.getLast?_cons, ends]
      rfl
    refine lines_cons_of_inside (Ne.symm noLineFeed.1) (fun same => ?_) further
    -- What follows a carriage return is the end only if that was the last of the line.
    cases line with
    | nil => exact noReturn (congrArg some same)
    | cons next others =>
      intro lineFeed
      rw [Option.some.inj lineFeed] at noLineFeed
      exact noLineFeed.2 List.mem_cons_self

/-- A text without a line feed is one line, if it is not empty. -/
theorem lines_of_not_mem {line : Text} (nonempty : line ≠ []) (noLineFeed : '\n' ∉ line) :
    line.lines = [line] := by
  induction line with
  | nil => exact absurd rfl nonempty
  | cons character rest inductionHypothesis =>
    rw [List.mem_cons, not_or] at noLineFeed
    obtain ⟨here, further⟩ := noLineFeed
    cases rest with
    | nil => simp [lines, Ne.symm here]
    | cons next others =>
      refine lines_cons_of_inside (Ne.symm here) (fun _ lineFeed => ?_)
        (inductionHypothesis (List.cons_ne_nil _ _) further)
      rw [Option.some.inj lineFeed] at further
      exact further List.mem_cons_self

theorem lines_append_lineFeed {line : Text} (isLine : IsLine line) (text : Text) :
    lines (line ++ '\n' :: text) = line :: text.lines :=
  lines_append_of_ended isLine.noLineFeed (fun ends => absurd ends isLine.noReturn) rfl

/-- No line holds a line feed. -/
theorem lineFeed_not_mem_of_mem_lines {text line : Text} (member : line ∈ text.lines) :
    '\n' ∉ line := by
  fun_induction lines text generalizing line with
  | case1 => cases member
  | case2 rest inductionHypothesis =>
    rcases List.mem_cons.mp member with rfl | further
    · exact List.not_mem_nil
    · exact inductionHypothesis further
  | case3 rest inductionHypothesis =>
    rcases List.mem_cons.mp member with rfl | further
    · exact List.not_mem_nil
    · exact inductionHypothesis further
  | case4 character rest inside noReturn none inductionHypothesis =>
    obtain rfl := List.mem_singleton.mp member
    exact fun lineFeed => inside (List.mem_singleton.mp lineFeed).symm
  | case5 character rest inside noReturn first others cut inductionHypothesis =>
    rw [cut] at inductionHypothesis
    rcases List.mem_cons.mp member with rfl | further
    · rw [List.mem_cons, not_or]
      exact ⟨fun lineFeed => inside lineFeed.symm, inductionHypothesis List.mem_cons_self⟩
    · exact inductionHypothesis (List.mem_cons_of_mem _ further)

/-- What is written as a line is read back as one, but for a carriage return at its end. -/
theorem exists_lines_append_lineFeed {line : Text} (noLineFeed : '\n' ∉ line) (text : Text) :
    ∃ first, lines (line ++ '\n' :: text) = first :: text.lines ∧
      (line = first ∨ line = first ++ ['\r']) := by
  by_cases ends : line.getLast? = some '\r'
  · obtain ⟨front, rfl⟩ := List.getLast?_eq_some_iff.mp ends
    refine ⟨front, ?_, .inr rfl⟩
    rw [List.append_assoc]
    exact lines_append_of_ended (fun member => noLineFeed (List.mem_append_left _ member))
      (fun _ => (nomatch ·)) rfl
  · exact ⟨line, lines_append_lineFeed ⟨noLineFeed, ends⟩ text, .inl rfl⟩

/-! ### Texts that end a line -/

theorem lines_ne_nil {text : Text} (nonempty : text ≠ []) : text.lines ≠ [] := by
  fun_cases lines text with
  | case1 => exact absurd rfl nonempty
  | case2 rest => exact List.cons_ne_nil _ _
  | case3 rest => exact List.cons_ne_nil _ _
  | case4 character rest inside noReturn cut => exact List.cons_ne_nil _ _
  | case5 character rest inside noReturn first others cut => exact List.cons_ne_nil _ _

/-- What follows the text begins a line: the text is empty or ends in a line feed. -/
def EndsLine (text : Text) : Prop := text = [] ∨ text.getLast? = some '\n'

instance (text : Text) : Decidable text.EndsLine := inferInstanceAs (Decidable (_ ∨ _))

theorem EndsLine.tail {character : Char} {rest : Text} (ends : EndsLine (character :: rest)) :
    rest.EndsLine := by
  rcases ends with empty | last
  · cases empty
  · cases rest with
    | nil => exact .inl rfl
    | cons next others => exact .inr (by rwa [List.getLast?_cons_cons] at last)

/-- Cutting a text into lines does not look across the end of a line. -/
theorem lines_append {first : Text} (ends : first.EndsLine) (second : Text) :
    lines (first ++ second) = first.lines ++ second.lines := by
  fun_induction lines first with
  | case1 => rfl
  | case2 rest inductionHypothesis =>
    exact congrArg ([] :: ·) (inductionHypothesis ends.tail)
  | case3 rest inductionHypothesis =>
    exact congrArg ([] :: ·) (inductionHypothesis ends.tail.tail)
  | case4 character rest inside noReturn none inductionHypothesis =>
    -- A character by itself that ends a line is a line feed.
    have alone : rest = [] := Decidable.byContradiction fun more => lines_ne_nil more none
    rcases ends with empty | last
    · cases empty
    · rw [alone, List.getLast?_singleton] at last
      exact absurd (Option.some.inj last) inside
  | case5 character rest inside noReturn line others cut inductionHypothesis =>
    have further := inductionHypothesis ends.tail
    rw [cut] at further
    refine lines_cons_of_inside inside (fun same lineFeed => ?_) further
    cases rest with
    | nil => cases cut
    | cons next rest =>
      exact noReturn rest same (congrArg (· :: rest) (Option.some.inj lineFeed))

/-! ### Lines that are written -/

theorem ofLines_cons (line : Text) (lines : List Text) :
    ofLines (line :: lines) = endLine line ++ ofLines lines := List.flatMap_cons

theorem ofLines_append (first second : List Text) :
    ofLines (first ++ second) = ofLines first ++ ofLines second := List.flatMap_append

theorem ofLines_singleton (line : Text) : ofLines [line] = endLine line := List.append_nil _

/-- Lines that are written one after the other are read back as they are. -/
theorem lines_ofLines {lines : List Text} (isLine : ∀ line ∈ lines, IsLine line) :
    (ofLines lines).lines = lines := by
  induction lines with
  | nil => rfl
  | cons line others inductionHypothesis =>
    obtain ⟨first, further⟩ := List.forall_mem_cons.mp isLine
    rw [ofLines_cons, endLine, List.append_assoc]
    exact (lines_append_lineFeed first _).trans (congrArg (line :: ·) (inductionHypothesis further))

end Prebuild.Text
