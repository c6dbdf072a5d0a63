/-
This file proves that it does not matter how the lines of an input are ended.

A line may be ended by a line feed or by a carriage return and a line feed, each line in its own
way, and the last one need not be ended at all unless it is empty. Cutting such a text gives the
lines back, without what has ended them. All that is made of an input is made of its lines, so
nothing of their ends gets into an artifact, a note or a failure.
-/

import Prebuild.BoardFragment
import Prebuild.Proofs.RegisterPositions
import Prebuild.ShellHeader

namespace Prebuild

namespace Text

/-! ### Ways to write lines -/

/-- What ends a line. -/
inductive LineEnd where
  | lineFeed
  | returnLineFeed
deriving DecidableEq

/-- The characters at the end of a line. -/
def LineEnd.text : LineEnd → Text
  | lineFeed => ['\n']
  | returnLineFeed => ['\r', '\n']

/-- A text has the given lines written in it, one after the other. Each is ended in one of the two
ways, but the last need not be if it is not empty. -/
inductive Spells : Text → List Text → Prop where
  | nothing : Spells [] []
  | ended {text : Text} {lines : List Text} (line : Text) (lineEnd : LineEnd)
      (further : Spells text lines) : Spells (line ++ lineEnd.text ++ text) (line :: lines)
  | unended {line : Text} (nonempty : line ≠ []) : Spells line [line]

/-- What ends a line is no part of it. -/
theorem lines_append_lineEnd {line : Text} (isLine : IsLine line) (lineEnd : LineEnd)
    (text : Text) : lines (line ++ lineEnd.text ++ text) = line :: text.lines := by
  rw [List.append_assoc]
  cases lineEnd with
  | lineFeed => exact lines_append_lineFeed isLine text
  | returnLineFeed =>
    exact lines_append_of_ended isLine.noLineFeed (fun ends => absurd ends isLine.noReturn) rfl

/-- Lines are read back however they have been ended. -/
theorem Spells.lines_eq {text : Text} {lines : List Text} (spells : text.Spells lines)
    (isLine : ∀ line ∈ lines, IsLine line) : text.lines = lines := by
  induction spells with
  | nothing => rfl
  | ended line lineEnd further inductionHypothesis =>
    obtain ⟨here, others⟩ := List.forall_mem_cons.mp isLine
    rw [lines_append_lineEnd here, inductionHypothesis others]
  | unended nonempty =>
    exact lines_of_not_mem nonempty (isLine _ (List.mem_singleton.mpr rfl)).noLineFeed

end Text

/-! ### What is made of the lines -/

namespace RegisterHeader

variable {settings : RegisterSettings} {policy : Policy} {path : Path}

/-- A header is what the lines of the table contribute to it, and nothing else of the table. -/
theorem header_of_lines_eq {table header : Text} {lines : List Text} (cut : table.lines = lines)
    (made : (scan settings policy path table).outcome.result = .ok header) :
    header = lines.zipIdx.flatMap fun pair => contribution settings lines pair.2 pair.1 := by
  obtain ⟨-, rfl⟩ := scan_ok_iff.mp made
  rw [cut, readings_eq, List.flatMap_map]
  simp only [contribution_readingAt]

/-- A directive that is kept stands in the header as it is, followed by a line feed. -/
theorem exists_append_of_isKept {lines : List Text} {index : Nat} {line : Text}
    (here : lines[index]? = some line) (directive : isDirective line = true)
    (kept : IsKept settings lines index) :
    ∃ before after, (lines.zipIdx.flatMap fun pair => contribution settings lines pair.2 pair.1) =
      before ++ Text.endLine line ++ after := by
  have member : (line, index) ∈ lines.zipIdx := List.mk_mem_zipIdx_iff_getElem?.mpr here
  obtain ⟨front, rest, split⟩ := List.append_of_mem member
  have copied : contribution settings lines index line = Text.endLine line := by
    rw [contribution, if_pos directive, if_pos kept, Text.endLine]
  rw [split, List.flatMap_append, List.flatMap_cons, copied, ← List.append_assoc]
  exact ⟨_, _, rfl⟩

end RegisterHeader

/-- Line endings do not matter. Let a text have lines written in it, each ended by a line feed or
by a carriage return and a line feed, the last perhaps not at all. Then as a header of a board, as
a source file and as a register table it comes to the same as the text with a line feed after each
line: the same is written, the same notes are taken, and the same line fails if one does. In
particular, a header that is made from it as a register table is what the lines contribute without
their ends, and a directive that is kept stands there with nothing between it and its line feed. -/
theorem line_endings_do_not_matter {lines : List Text} {text : Text}
    (isLine : ∀ line ∈ lines, Text.IsLine line) (spells : text.Spells lines) :
    (∀ flags, BoardFragment.text flags text = BoardFragment.text flags (Text.ofLines lines)) ∧
    (∀ (settings : ShellSettings) (policy : Policy) (path : Path),
      ShellHeader.scan settings policy path text =
        ShellHeader.scan settings policy path (Text.ofLines lines)) ∧
    ∀ (settings : RegisterSettings) (policy : Policy) (path : Path),
      RegisterHeader.scan settings policy path text =
          RegisterHeader.scan settings policy path (Text.ofLines lines) ∧
        ∀ header, (RegisterHeader.scan settings policy path text).outcome.result = .ok header →
          (header = lines.zipIdx.flatMap fun pair =>
            RegisterHeader.contribution settings lines pair.2 pair.1) ∧
          ∀ (index : Nat) (line : Text), lines[index]? = some line →
            RegisterHeader.isDirective line = true → RegisterHeader.IsKept settings lines index →
              ∃ before after, header = before ++ Text.endLine line ++ after := by
  have cut := spells.lines_eq isLine
  have same : text.lines = (Text.ofLines lines).lines := cut.trans (Text.lines_ofLines isLine).symm
  refine ⟨fun flags => ?_, fun settings policy path => ?_,
    fun settings policy path => ⟨?_, fun header made => ?_⟩⟩
  · rw [BoardFragment.text, BoardFragment.text, same]
  · unfold ShellHeader.scan ShellHeader.readings
    rw [same]
  · rw [RegisterHeader.scan, RegisterHeader.scan, same]
  · obtain rfl := RegisterHeader.header_of_lines_eq cut made
    exact ⟨rfl, fun index line => RegisterHeader.exists_append_of_isKept⟩

/-- Both ways to end a line in one text, a carriage return inside a line, and a last line that is
not ended. -/
theorem line_endings_do_not_matter_mixed :
    let lines : List Text := ["REG_DEF(a, b, )".toList, "#if \rA".toList, [], "REG_DEF(c)".toList]
    let text : Text := "REG_DEF(a, b, )\r\n#if \rA\r\n\nREG_DEF(c)"
    (∀ line ∈ lines, Text.IsLine line) ∧ text.Spells lines ∧
      RegisterHeader.scan {} .abort "regfile.c" text =
        ⟨"ID_AB,\n#if \rA\n", [],
          some (.malformed "regfile.c" 4 "REG_DEF" "REG_DEF(c)")⟩ ∧
      (RegisterHeader.scan {} .warn "regfile.c" text).notes =
        [.skipped "regfile.c" 4 "REG_DEF" "REG_DEF(c)"] ∧
      ∃ before after, (RegisterHeader.scan {} .warn "regfile.c" text).text =
        before ++ "#if \rA\n".toList ++ after := by
  intro lines text
  have isLine : ∀ line ∈ lines, Text.IsLine line := by
    intro line member
    simp only [lines, List.mem_cons, List.not_mem_nil, or_false] at member
    rcases member with rfl | rfl | rfl | rfl
    all_goals exact ⟨by decide, by decide⟩
  have spells : text.Spells lines := by
    have written : text = "REG_DEF(a, b, )".toList ++ ['\r', '\n'] ++
        ("#if \rA".toList ++ ['\r', '\n'] ++ ([] ++ ['\n'] ++ "REG_DEF(c)".toList)) := by
      decide +kernel
    rw [written]
    exact .ended _ .returnLineFeed (.ended _ .returnLineFeed (.ended _ .lineFeed
      (.unended (by decide))))
  obtain ⟨-, -, register⟩ := line_endings_do_not_matter isLine spells
  obtain ⟨strict, -⟩ := register {} .abort "regfile.c"
  obtain ⟨lenient, header⟩ := register {} .warn "regfile.c"
  have unfailed : (RegisterHeader.scan {} .warn "regfile.c" text).failure = none := by
    rw [lenient]
    decide +kernel
  obtain ⟨-, directive⟩ := header _ (Transcript.outcome_result_eq_ok_iff.mpr ⟨unfailed, rfl⟩)
  refine ⟨isLine, spells, ?_, ?_, directive 1 _ rfl (by decide) (by decide +kernel)⟩
  · rw [strict]
    decide +kernel
  · rw [lenient]
    decide +kernel

end Prebuild
