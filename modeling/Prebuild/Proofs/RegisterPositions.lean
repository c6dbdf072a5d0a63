/-
This file proves that positions in the register header are positions in the table.

A register is known by the position of its constant in the enumeration, so the header has to
have one constant for each definition, in order, and nothing that passes for one. Read back,
the header is cut into lines again, and its directives are told apart by their first
character. That finds the constants as they were written: a constant holds no line feed and
begins with no number sign, since no component does and upper-casing brings in neither; and a
directive is taken over from a line, so it stays one line and begins as it did.
-/

import Prebuild.Proofs.MacroGrammar
import Prebuild.Proofs.RegisterTable
import Prebuild.Proofs.Text.Lines
import Prebuild.Proofs.Text.UpperCase

namespace Prebuild.RegisterHeader

open Text (ConsistsOf IsLine)

variable {settings : RegisterSettings} {policy : Policy} {path : Path}

/-! ### Constants -/

/-- The components of a definition are those of the grammar. -/
theorem exists_componentArguments_of_definition? {line components : Text}
    (defined : definition? settings line = some components) :
    ∃ inside rest, MacroCall.ComponentArguments inside components rest := by
  unfold definition? at defined
  split at defined
  · cases defined
  · split at defined
    · rename_i value matched
      obtain rfl := Option.some.inj defined
      obtain ⟨inside, rest, -, read⟩ := MacroCall.classify_eq_matched_iff.mp matched
      exact ⟨inside, rest, MacroCall.registerComponents_eq_some_iff.mp read⟩
    · cases defined

/-- The components of a definition hold nothing but dotted identifiers. -/
theorem consistsOf_of_definition? {line components : Text}
    (defined : definition? settings line = some components) :
    ConsistsOf Text.isDotted components := by
  obtain ⟨_, _, first, gap, second, -, -, firstDotted, -, secondDotted, rfl⟩ :=
    exists_componentArguments_of_definition? defined
  exact fun character member =>
    (List.mem_append.mp member).elim (firstDotted character) (secondDotted character)

/-- A mark that is no underscore and in no dotted identifier is in a constant only if it is in
the prefix. -/
theorem mem_prefix_of_mem_constant {constantPrefix components : Text} {mark : Char}
    (isMark : Text.IsMark mark) (noUnderscore : mark ≠ '_') (outside : Text.isDotted mark = false)
    (dotted : ConsistsOf Text.isDotted components)
    (member : mark ∈ constant constantPrefix components) : mark ∈ constantPrefix := by
  rcases List.mem_append.mp member with inside | upper
  · exact inside
  · obtain ⟨character, inside, rfl⟩ := List.mem_map.mp (Text.mem_of_mem_upperCase isMark upper)
    have word := dotted character inside
    by_cases stop : character = '.'
    · rw [if_pos stop] at noUnderscore
      exact absurd rfl noUnderscore
    · rw [if_neg stop, word] at outside
      cases outside

/-- The line of a constant is one line. -/
theorem isLine_constant {components : Text} (noLineFeed : '\n' ∉ settings.constantPrefix)
    (dotted : ConsistsOf Text.isDotted components) :
    IsLine (constant settings.constantPrefix components ++ [',']) := by
  constructor
  · intro member
    rcases List.mem_append.mp member with inside | comma
    · exact noLineFeed
        (mem_prefix_of_mem_constant (by decide) (by decide) (by decide) dotted inside)
    · cases List.mem_singleton.mp comma
  · rw [List.getLast?_concat]
    decide

/-- The line of a constant is no directive. -/
theorem isDirective_constant {components : Text}
    (noDirective : isDirective settings.constantPrefix = false)
    (dotted : ConsistsOf Text.isDotted components) :
    isDirective (constant settings.constantPrefix components ++ [',']) = false := by
  unfold constant
  cases spelled : settings.constantPrefix with
  | cons first others =>
    rw [spelled] at noDirective
    exact noDirective
  | nil =>
    rw [isDirective, beq_eq_false_iff_ne]
    intro sign
    have member : '#' ∈ constant [] components := by
      rcases List.mem_append.mp (List.mem_of_head? sign) with inside | comma
      · exact inside
      · cases List.mem_singleton.mp comma
    cases mem_prefix_of_mem_constant (by decide) (by decide) (by decide) dotted member

/-! ### Reading a header back -/

/-- A directive that is written as a line is read back as a directive, whether or not it ends
in a carriage return. -/
theorem filter_lines_directive {line : Text} (noLineFeed : '\n' ∉ line)
    (directive : isDirective line = true) (rest : Text) :
    (Text.endLine line ++ rest).lines.filter (fun line => !isDirective line) =
      rest.lines.filter fun line => !isDirective line := by
  obtain ⟨first, cut, same⟩ := Text.exists_lines_append_lineFeed noLineFeed rest
  have stays : isDirective first = true := by
    rcases same with rfl | rfl
    · exact directive
    · cases first with
      | nil => cases directive
      | cons character others => exact directive
  rw [Text.endLine, List.append_assoc, List.singleton_append, cut, List.filter_cons_of_neg]
  rw [stays]
  decide

/-- A constant that is written as a line is read back as it is. -/
theorem filter_lines_constant {components : Text} (noLineFeed : '\n' ∉ settings.constantPrefix)
    (noDirective : isDirective settings.constantPrefix = false)
    (dotted : ConsistsOf Text.isDotted components) (rest : Text) :
    (identifierLine settings components ++ rest).lines.filter (fun line => !isDirective line) =
      (constant settings.constantPrefix components ++ [',']) ::
        rest.lines.filter fun line => !isDirective line := by
  rw [identifierLine, Text.endLine, List.append_assoc, List.singleton_append,
    Text.lines_append_lineFeed (isLine_constant noLineFeed dotted), List.filter_cons_of_pos]
  rw [isDirective_constant noDirective dotted]
  rfl

/-- Read back, what the lines of a table contribute is their constants, whatever the distance.
Each line of the table adds its constant or nothing, also where a directive is kept. -/
theorem filter_lines_readings {table : List Text} (noLineFeed : '\n' ∉ settings.constantPrefix)
    (noDirective : isDirective settings.constantPrefix = false)
    (cut : ∀ line ∈ table, '\n' ∉ line) (distance : UInt32) :
    (Text.lines ((readings settings distance table).flatMap fun pair => pair.2.contribution)).filter
        (fun line => !isDirective line) =
      (table.filterMap (definition? settings)).map fun components =>
        constant settings.constantPrefix components ++ [','] := by
  induction table generalizing distance with
  | nil => rfl
  | cons line rest inductionHypothesis =>
    obtain ⟨here, further⟩ := List.forall_mem_cons.mp cut
    have others := inductionHypothesis further
    rw [readings, List.flatMap_cons]
    unfold readLine
    by_cases directive : isDirective line = true
    · rw [if_pos directive,
        List.filterMap_cons_none (definition?_eq_none_of_isDirective directive)]
      split
      · exact (filter_lines_directive here directive _).trans (others _)
      · exact others _
    · rw [if_neg directive]
      cases call : MacroCall.classify settings.macroName MacroCall.registerComponents line with
      | matched components =>
        have found : definition? settings line = some components := by
          rw [definition?, if_neg directive, call]
        rw [List.filterMap_cons_some found, List.map_cons, ← others (advance 0)]
        exact filter_lines_constant noLineFeed noDirective (consistsOf_of_definition? found) _
      | notACall =>
        have found : definition? settings line = none := by
          rw [definition?, if_neg directive, call]
        rw [List.filterMap_cons_none found]
        exact others _
      | malformed =>
        have found : definition? settings line = none := by
          rw [definition?, if_neg directive, call]
        rw [List.filterMap_cons_none found]
        exact others _

/-! ### Lines in the shape of a definition -/

/-- A line has the shape of a definition: it is no directive, and it has the shape of a call. -/
def IsShaped (settings : RegisterSettings) (line : Text) : Prop :=
  isDirective line = false ∧ (MacroCall.openCall? settings.macroName line).isSome

instance : DecidablePred (IsShaped settings) := fun _ => inferInstanceAs (Decidable (_ ∧ _))

/-- The shape of a call is what the classification of a line goes by first. -/
theorem isShaped_iff_classify {line : Text} :
    IsShaped settings line ↔ isDirective line = false ∧
      MacroCall.classify settings.macroName MacroCall.registerComponents line ≠ .notACall := by
  rw [IsShaped, Option.isSome_iff_ne_none, ne_eq, ne_eq, MacroCall.classify_eq_notACall_iff]

/-- Unless it is malformed, a line is a definition exactly if it has the shape of one. -/
theorem isSome_definition?_iff {line : Text} (wellFormed : ¬ IsMalformed settings line) :
    (definition? settings line).isSome ↔ IsShaped settings line := by
  rw [isShaped_iff_classify, definition?]
  rw [IsMalformed] at wellFormed
  by_cases directive : isDirective line = true
  · simp [directive]
  · rw [if_neg directive]
    rw [Bool.not_eq_true] at directive
    cases call : MacroCall.classify settings.macroName MacroCall.registerComponents line with
    | matched components => simp [directive]
    | notACall => simp
    | malformed => exact absurd ⟨directive, call⟩ wellFormed

/-- Where no line is malformed, the lines in the shape of a definition are the definitions. -/
theorem map_definition?_filter {table : List Text}
    (wellFormed : ∀ line ∈ table, ¬ IsMalformed settings line) :
    (table.filter fun line => IsShaped settings line).map (definition? settings) =
      (table.filterMap (definition? settings)).map some := by
  induction table with
  | nil => rfl
  | cons line rest inductionHypothesis =>
    obtain ⟨here, further⟩ := List.forall_mem_cons.mp wellFormed
    have shaped := isSome_definition?_iff here
    rw [List.filter_cons]
    cases found : definition? settings line with
    | none => simpa [found, ← shaped] using inductionHypothesis further
    | some components => simpa [found, ← shaped] using inductionHypothesis further

/-! ### Positions -/

/-- If a header is made, it is what the lines of the table contribute, whatever the path. -/
theorem scan_ok_iff {table header : Text} :
    (scan settings policy path table).outcome.result = .ok header ↔
      (policy = .warn ∨ ∀ line ∈ table.lines, ¬ IsMalformed settings line) ∧
        header = (readings settings settings.initialDistance table.lines).flatMap
          fun pair => pair.2.contribution := by
  have succeeds : (scan settings policy path table).failure = none ↔ _ :=
    Transcript.failure_eq_none_iff (readings_malformed_iff settings table.lines)
  rw [Transcript.outcome_result_eq_ok_iff, succeeds, readings_map_fst]
  refine and_congr_right fun clean => ?_
  rw [readings_map_fst] at succeeds
  have whole : (scan settings policy path table).text = _ :=
    Transcript.text_of_failure_eq_none (succeeds.mpr clean)
  rw [whole]

theorem generate_of_scan {table header : Text} {source : Source}
    (read : source.read settings.input = .ok table)
    (scanned : (scan settings policy settings.input table).outcome.result = .ok header) :
    generate settings policy source =
      ⟨(scan settings policy settings.input table).notes ++
        [.identifiers settings.input (countIdentifiers header)],
        .ok [⟨settings.output, header⟩]⟩ := by
  obtain ⟨unfailed, rfl⟩ := Transcript.outcome_result_eq_ok_iff.mp scanned
  have outcome : (scan settings policy settings.input table).outcome =
      ⟨(scan settings policy settings.input table).notes,
        .ok (scan settings policy settings.input table).text⟩ := by
    simp only [Transcript.outcome, unfailed]
  simp [generate, read, Outcome.ofExcept, Outcome.note, outcome]

/-- Positions in the register header are positions in the table. Let the prefix of the constants
hold no line feed and not begin with a number sign. If a header is made from a table, then its
lines that are no directives are the constants of the definitions of the table, in order, each
with a comma after it; and the generator gives that header and notes the number of the
definitions. Under the strict policy the definitions are all the lines of the table that are no
directives and have the shape of a call, in order. -/
theorem positions_are_those_of_the_table {table header : Text}
    (noLineFeed : '\n' ∉ settings.constantPrefix)
    (noDirective : settings.constantPrefix.head? ≠ some '#')
    (succeeded : (scan settings policy path table).outcome.result = .ok header) :
    let definitions := table.lines.filterMap (definition? settings)
    header.lines.filter (fun line => !isDirective line) =
        definitions.map (fun components =>
          constant settings.constantPrefix components ++ [',']) ∧
      (∀ source : Source, source.read settings.input = .ok table →
        generate settings policy source =
          ⟨(scan settings policy settings.input table).notes ++
            [.identifiers settings.input definitions.length],
            .ok [⟨settings.output, header⟩]⟩) ∧
      (policy = .abort →
        (table.lines.filter fun line => IsShaped settings line).map (definition? settings) =
          definitions.map some) := by
  obtain ⟨clean, made⟩ := scan_ok_iff.mp succeeded
  have constants : header.lines.filter (fun line => !isDirective line) =
      (table.lines.filterMap (definition? settings)).map fun components =>
        constant settings.constantPrefix components ++ [','] := by
    rw [made]
    exact filter_lines_readings noLineFeed (beq_eq_false_iff_ne.mpr noDirective)
      (fun _ => Text.lineFeed_not_mem_of_mem_lines) settings.initialDistance
  refine ⟨constants, fun source read => ?_, fun strict => ?_⟩
  · rw [generate_of_scan read (scan_ok_iff.mpr ⟨clean, made⟩), countIdentifiers,
      List.countP_eq_length_filter, constants, List.length_map]
  · exact map_definition?_filter (clean.resolve_left fun lenient => by
      rw [strict] at lenient
      cases lenient)

/-- A directive that ends in a carriage return stays a directive, and a letter outside ASCII
whose upper case is two letters of ASCII stays one constant. -/
theorem positions_are_those_of_the_table_sharp_s :
    let table : Text := "REG_DEF(a, b, )\n#if A\r\r\nREG_DEF(straße, .x, )\n"
    let header : Text := "ID_AB,\n#if A\r\nID_STRASSE_X,\n"
    (scan {} .abort "regfile.c" table).outcome.result = .ok header ∧
      header.lines.filter (fun line => !isDirective line) =
        ["ID_AB,".toList, "ID_STRASSE_X,".toList] ∧
      (table.lines.filter fun line => IsShaped {} line).map (definition? {}) =
        [some "ab".toList, some "straße.x".toList] := by
  intro table header
  have succeeded : (scan {} .abort "regfile.c" table).outcome.result = .ok header :=
    Transcript.outcome_result_eq_ok_iff.mpr ⟨by decide +kernel, by decide +kernel⟩
  have definitions :
      table.lines.filterMap (definition? {}) = ["ab".toList, "straße.x".toList] := by
    decide +kernel
  obtain ⟨constants, -, shaped⟩ :=
    positions_are_those_of_the_table (by decide) (by decide) succeeded
  rw [definitions] at constants shaped
  refine ⟨succeeded, constants.trans ?_, shaped rfl⟩
  decide +kernel

end Prebuild.RegisterHeader
