/-
This file says which flag rules can ever apply.

The first rule whose marker is in a line counts, so a rule is lost if the marker of an earlier
rule is in its own marker: every line with the one holds the other. It is lost as well if its
marker holds a line feed, which no line does. Otherwise the marker, taken for a header, is a line
on which the rule is chosen. A rule that is lost may be deleted, since it is passed over on every
line that there is.

Rules are told apart by their positions, as a table may hold a rule twice; then the second is
lost.
-/

import Mathlib.Data.List.Basic
import Prebuild.BoardFragment
import Prebuild.Proofs.Text.Lines

namespace Prebuild

/-! ### Parts of a text -/

/-- A text includes another if that is a run of neighbouring characters of it. -/
theorem Text.includes_eq_true_iff {text part : Text} :
    text.includes part = true ↔ part <:+: text := by
  induction text with
  | nil => rw [includes, List.isEmpty_iff, List.infix_nil]
  | cons character rest inductionHypothesis =>
    rw [includes, Bool.or_eq_true, List.isPrefixOf_iff_prefix, inductionHypothesis,
      List.infix_cons_iff]

namespace BoardFragment

variable {flags : List FlagRule} {index : Nat} {line : Text}

/-! ### The rule that is chosen -/

/-- The position of the rule that applies to a line: the first whose marker is in it. -/
def chosen? (flags : List FlagRule) (line : Text) : Option Nat :=
  flags.findIdx? fun rule => line.includes rule.marker

theorem ruleFor?_eq_bind_chosen? (flags : List FlagRule) (line : Text) :
    ruleFor? flags line = (chosen? flags line).bind fun index => flags[index]? := by
  unfold ruleFor? chosen?
  induction flags with
  | nil => rfl
  | cons rule rest inductionHypothesis =>
    rw [List.find?_cons, List.findIdx?_cons]
    cases line.includes rule.marker with
    | true => rfl
    | false =>
      rw [inductionHypothesis, if_neg Bool.false_ne_true, Option.bind_map]
      rfl

theorem chosen?_eq_some_iff {index : Fin flags.length} :
    chosen? flags line = some index.val ↔ flags[index].marker <:+: line ∧
      ∀ earlier < index, ¬flags[earlier].marker <:+: line := by
  unfold chosen?
  rw [List.findIdx?_eq_some_iff_getElem]
  simp only [Text.includes_eq_true_iff]
  constructor
  · rintro ⟨_, here, before⟩
    exact ⟨here, fun earlier less => before earlier less⟩
  · rintro ⟨here, before⟩
    exact ⟨index.isLt, here, fun earlier less =>
      before ⟨earlier, Nat.lt_trans less index.isLt⟩ less⟩

/-- A fragment is made line by line, of the assignments of the rule that is chosen for the line. -/
theorem text_eq_flatMap_chosen? (flags : List FlagRule) (header : Text) :
    text flags header = header.lines.flatMap fun line =>
      match (chosen? flags line).bind fun index => flags[index]? with
      | some rule => Text.ofLines rule.assignments
      | none => [] := by
  refine List.flatMap_congr fun line _ => ?_
  exact congrArg
    (fun chosen : Option FlagRule =>
      match chosen with
      | some rule => Text.ofLines rule.assignments
      | none => [])
    (ruleFor?_eq_bind_chosen? flags line)

/-- A rule that is not chosen for a line may be deleted as far as that line goes. -/
theorem ruleFor?_eraseIdx (passedOver : chosen? flags line ≠ some index) :
    ruleFor? (flags.eraseIdx index) line = ruleFor? flags line := by
  unfold chosen? at passedOver
  unfold ruleFor?
  induction flags generalizing index with
  | nil => rfl
  | cons rule rest inductionHypothesis =>
    rw [List.findIdx?_cons] at passedOver
    cases index with
    | zero =>
      have absent : line.includes rule.marker = false := by
        refine Bool.eq_false_iff.mpr fun present => passedOver ?_
        rw [if_pos present]
      rw [List.eraseIdx_cons_zero, List.find?_cons, absent]
    | succ index =>
      rw [List.eraseIdx_cons_succ, List.find?_cons, List.find?_cons]
      cases present : line.includes rule.marker with
      | true => rfl
      | false =>
        rw [present, if_neg Bool.false_ne_true] at passedOver
        exact inductionHypothesis fun found => passedOver (congrArg (Option.map (· + 1)) found)

/-! ### Rules that can apply -/

/-- A rule is alive if there is a header with a line for which the rule at this position is
chosen. -/
def IsAlive (flags : List FlagRule) (index : Nat) : Prop :=
  ∃ header : Text, ∃ line ∈ header.lines, chosen? flags line = some index

/-- A text without a line feed is a line of some header: of itself, unless it is empty. -/
theorem exists_header_of_line (noLineFeed : '\n' ∉ line) :
    ∃ header : Text, line ∈ header.lines := by
  cases line with
  | nil => exact ⟨['\n'], List.mem_cons_self⟩
  | cons character rest =>
    refine ⟨character :: rest, ?_⟩
    rw [Text.lines_of_not_mem (List.cons_ne_nil _ _) noLineFeed]
    exact List.mem_cons_self

theorem isAlive_iff {index : Fin flags.length} :
    IsAlive flags index ↔ '\n' ∉ flags[index].marker ∧
      ∀ earlier < index, ¬flags[earlier].marker <:+: flags[index].marker := by
  constructor
  · rintro ⟨header, line, member, chosen⟩
    obtain ⟨here, before⟩ := chosen?_eq_some_iff.mp chosen
    exact ⟨fun lineFeed => Text.lineFeed_not_mem_of_mem_lines member (here.subset lineFeed),
      fun earlier less within => before earlier less (within.trans here)⟩
  · rintro ⟨noLineFeed, before⟩
    obtain ⟨header, member⟩ := exists_header_of_line noLineFeed
    exact ⟨header, flags[index].marker, member,
      chosen?_eq_some_iff.mpr ⟨List.infix_refl _, before⟩⟩

/-- A rule that is not alive may be deleted. -/
theorem text_eraseIdx (dead : ¬IsAlive flags index) (header : Text) :
    text (flags.eraseIdx index) header = text flags header := by
  refine List.flatMap_congr fun line member => ?_
  have passedOver : chosen? flags line ≠ some index :=
    fun chosen => dead ⟨header, line, member, chosen⟩
  rw [lineText, lineText, ruleFor?_eraseIdx passedOver]

/-- Which flag rules are alive. The rule that is chosen for a line is the first whose marker is in
it, and a fragment is made, line by line, of the assignments of the rule that is chosen. There is a
header with a line for which the rule at a position is chosen exactly if its marker holds no line
feed and no marker of an earlier rule is in it. If there is none, deleting the rule from the table
changes the fragment for no header. -/
theorem alive_rules (flags : List FlagRule) (index : Fin flags.length) :
    (∀ line, chosen? flags line = some index.val ↔
      flags[index].marker <:+: line ∧ ∀ earlier < index, ¬flags[earlier].marker <:+: line) ∧
    (∀ header, text flags header = header.lines.flatMap fun line =>
      match (chosen? flags line).bind fun index => flags[index]? with
      | some rule => Text.ofLines rule.assignments
      | none => []) ∧
    (IsAlive flags index ↔ '\n' ∉ flags[index].marker ∧
      ∀ earlier < index, ¬flags[earlier].marker <:+: flags[index].marker) ∧
    (¬IsAlive flags index →
      ∀ header, text (flags.eraseIdx index) header = text flags header) :=
  ⟨fun _ => chosen?_eq_some_iff, text_eq_flatMap_chosen? flags, isAlive_iff, text_eraseIdx⟩

/-- Behind a rule for `CAN`, a rule for `EPCAN` is lost and one for a carriage return is not. -/
theorem alive_rules_shadowed :
    let flags : List FlagRule := [⟨"CAN", ["A"]⟩, ⟨"EPCAN", ["B"]⟩, ⟨"CA\r", ["C", "D"]⟩]
    ¬IsAlive flags 1 ∧ IsAlive flags 2 ∧
      (chosen? flags "#define CA\r" = some 2 ∧
        text flags "#define CA\r\r\nEPCAN\n" = "C\nD\nA\n") ∧
      ∀ header, text [⟨"CAN", ["A"]⟩, ⟨"CA\r", ["C", "D"]⟩] header = text flags header := by
  intro flags
  obtain ⟨-, -, second, deleted⟩ := alive_rules flags 1
  obtain ⟨chosen, lines, third, -⟩ := alive_rules flags 2
  have dead : ¬IsAlive flags 1 := fun alive =>
    (second.mp alive).2 0 (by decide) (Text.includes_eq_true_iff.mp (by decide))
  have free : ∀ earlier < (2 : Fin 3),
      ¬Text.includes flags[(2 : Fin 3)].marker flags[earlier].marker = true := by
    decide
  have freeLine : ∀ earlier < (2 : Fin 3),
      ¬Text.includes "#define CA\r" flags[earlier].marker = true := by
    decide
  refine ⟨dead, third.mpr ⟨by decide, fun earlier less within => ?_⟩, ⟨?_, ?_⟩, deleted dead⟩
  · exact free earlier less (Text.includes_eq_true_iff.mpr within)
  · exact (chosen "#define CA\r").mpr ⟨Text.includes_eq_true_iff.mp (by decide),
      fun earlier less within => freeLine earlier less (Text.includes_eq_true_iff.mpr within)⟩
  · rw [lines]
    decide +kernel

end BoardFragment

end Prebuild
