/-
This file says what becomes of one source file that is scanned for shell commands. If
nothing fails, the scan writes whole lines: those that register the file's commands, in
order, and nothing else, between the two guard lines if the file is that of a network
driver. A line that registers a command is read back as one line. If the names in the
settings are made of word characters, so are the guards, and no line that registers a
command looks like one.
-/

import Mathlib.Data.List.Basic
import Prebuild.Proofs.Conditional
import Prebuild.Proofs.MacroGrammar
import Prebuild.Proofs.Reading
import Prebuild.Proofs.Text.Lines
import Prebuild.ShellHeader

namespace Prebuild.ShellHeader

variable {settings : ShellSettings} {policy : Policy} {path : Path} {content text : Text}

/-- The transcript of the lines of a source file, without the guards. -/
def body (settings : ShellSettings) (policy : Policy) (path : Path) (content : Text) :
    Transcript :=
  Transcript.ofReadings policy settings.macroName path 1 (readings settings content)

/-- A text between the guards, if the path is that of a network driver. -/
def guard (settings : ShellSettings) (path : Path) (text : Text) : Text :=
  if isNetworkFile settings path then openingGuard settings ++ text ++ closingGuard settings
  else text

/-- A scan that does not fail has read all lines, and has guarded what it has written. -/
theorem scan_of_failure_eq_none (unfailed : (body settings policy path content).failure = none) :
    scan settings policy path content =
      ⟨guard settings path (body settings policy path content).text,
        (body settings policy path content).notes ++
          [.commands path (countWritten (readings settings content))], none⟩ := by
  unfold body at unfailed
  unfold scan guard body
  dsimp only
  rw [unfailed]
  cases isNetworkFile settings path with
  | true => rfl
  | false => simp

theorem scan_of_failure_eq_some {failure : Failure}
    (failed : (body settings policy path content).failure = some failure) :
    scan settings policy path content =
      ⟨(if isNetworkFile settings path then openingGuard settings else []) ++
          (body settings policy path content).text,
        (body settings policy path content).notes, some failure⟩ := by
  unfold body at failed
  unfold scan body
  dsimp only
  rw [failed]

/-- Where there are no guards, a scan writes what its lines come to and adds at most a note, which
is no warning. -/
theorem exists_scan_eq_body (policy : Policy) (content : Text)
    (plain : isNetworkFile settings path = false) :
    ∃ closing : List Note, (∀ note ∈ closing, note.isWarning = false) ∧
      scan settings policy path content =
        ⟨(body settings policy path content).text,
          (body settings policy path content).notes ++ closing,
          (body settings policy path content).failure⟩ := by
  cases failed : (body settings policy path content).failure with
  | none =>
    refine ⟨[.commands path (countWritten (readings settings content))],
      List.forall_mem_singleton.mpr rfl, ?_⟩
    rw [scan_of_failure_eq_none failed, guard, plain]
    rfl
  | some failure =>
    refine ⟨[], nofun, ?_⟩
    rw [scan_of_failure_eq_some failed, plain, List.append_nil]
    rfl

theorem failure_body_of_outcome_ok
    (success : (scan settings policy path content).outcome.result = .ok text) :
    (body settings policy path content).failure = none := by
  have unfailed := (Transcript.outcome_result_eq_ok_iff.mp success).1
  cases failed : (body settings policy path content).failure with
  | none => rfl
  | some failure =>
    rw [scan_of_failure_eq_some failed] at unfailed
    cases unfailed

/-! ### The lines that are written -/

/-- The line that registers the command of a line, if that calls the macro with one. -/
def commandLine? (settings : ShellSettings) (line : Text) : Option Text :=
  match MacroCall.classify settings.macroName MacroCall.bareIdentifier line with
  | .matched command => some (settings.macroName ++ '(' :: command ++ [')'])
  | _ => none

/-- The lines that register the commands of a source file. -/
def commandLines (settings : ShellSettings) (content : Text) : List Text :=
  content.lines.filterMap (commandLine? settings)

/-- The lines that come from a source file. -/
def fileLines (settings : ShellSettings) (path : Path) (content : Text) : List Text :=
  Conditional.block settings.networkGuard (isNetworkFile settings path)
    (commandLines settings content)

theorem contribution_readLine (line : Text) :
    (readLine settings line).contribution = Text.ofLines (commandLine? settings line).toList := by
  rw [readLine, commandLine?]
  cases MacroCall.classify settings.macroName MacroCall.bareIdentifier line with
  | matched command => exact (List.append_nil _).symm
  | notACall => rfl
  | malformed => rfl

/-- What the lines of a source file contribute are the lines that register its commands. -/
theorem flatMap_contribution_readings :
    ((readings settings content).flatMap fun pair => pair.2.contribution) =
      Text.ofLines (commandLines settings content) := by
  rw [readings, List.flatMap_map, commandLines, List.filterMap_eq_flatMap_toList, Text.ofLines,
    List.flatMap_assoc]
  exact List.flatMap_congr fun line _ => contribution_readLine line

theorem guard_ofLines (lines : List Text) :
    guard settings path (Text.ofLines lines) = Text.ofLines
      (Conditional.block settings.networkGuard (isNetworkFile settings path) lines) := by
  rw [guard, Conditional.block]
  cases isNetworkFile settings path with
  | true =>
    rw [if_pos rfl, if_pos rfl, Text.ofLines_cons, Text.ofLines_append, Text.ofLines_singleton,
      List.append_assoc]
    rfl
  | false => rfl

/-- The text that is written for a source file consists of its lines. -/
theorem text_of_outcome_ok
    (success : (scan settings policy path content).outcome.result = .ok text) :
    text = Text.ofLines (fileLines settings path content) := by
  have unfailed := failure_body_of_outcome_ok success
  rw [scan_of_failure_eq_none unfailed] at success
  obtain rfl := (Transcript.outcome_result_eq_ok_iff.mp success).2
  have written : (body settings policy path content).text = _ :=
    (Transcript.text_of_failure_eq_none unfailed).trans flatMap_contribution_readings
  dsimp only
  rw [written, guard_ofLines]
  rfl

/-! ### The lines are read back -/

/-- The names in the settings that reach the header are made of word characters. -/
structure HasWordNames (settings : ShellSettings) : Prop where
  macroName : Text.ConsistsOf Text.isWord settings.macroName
  networkGuard : Text.ConsistsOf Text.isWord settings.networkGuard

theorem not_mem_of_consistsOf {word : Text} {character : Char}
    (isWord : Text.ConsistsOf Text.isWord word) (other : Text.isWord character = false) :
    character ∉ word := by
  intro member
  rw [isWord character member] at other
  cases other

/-- A line that registers a command consists of the macro's name and of the command in parentheses,
and the line that it comes from calls the macro with that command. No line calls a name that
begins with layout. -/
theorem exists_of_commandLine? {line registered : Text}
    (found : commandLine? settings line = some registered) :
    ∃ command, registered = settings.macroName ++ '(' :: command ++ [')'] ∧
      ¬MacroCall.BeginsWithLayout settings.macroName ∧
      MacroCall.CallsWithIdentifier settings.macroName line command := by
  rw [commandLine?] at found
  split at found
  · rename_i command matched
    have plain : ¬MacroCall.BeginsWithLayout settings.macroName := by
      intro begins
      rw [MacroCall.classify_eq_notACall_iff.mpr
        (MacroCall.openCall?_of_beginsWithLayout begins line)] at matched
      cases matched
    exact ⟨command, (Option.some.inj found).symm, plain,
      (MacroCall.classify_bareIdentifier_eq_matched_iff plain).mp matched⟩
  · cases found

theorem exists_of_mem_commandLines {line : Text} (member : line ∈ commandLines settings content) :
    ∃ called, '\n' ∉ called ∧ commandLine? settings called = some line := by
  obtain ⟨called, inContent, found⟩ := List.mem_filterMap.mp member
  exact ⟨called, Text.lineFeed_not_mem_of_mem_lines inContent, found⟩

/-- A line that registers a command is one line, whatever the macro's name holds: the name is
spelled out in a line of the source file. -/
theorem isLine_of_mem_commandLines {line : Text} (member : line ∈ commandLines settings content) :
    Text.IsLine line := by
  obtain ⟨called, noLineFeed, found⟩ := exists_of_mem_commandLines member
  obtain ⟨command, rfl, -, layout, tail, -, rfl, -⟩ := exists_of_commandLine? found
  constructor
  · intro inside
    refine noLineFeed (List.mem_append_right _ ?_)
    simp only [List.mem_append, List.mem_cons, List.not_mem_nil, or_false] at inside ⊢
    tauto
  · rw [List.getLast?_concat]
    decide

/-- A name between two texts that hold no end of a line is one line. -/
theorem isLine_of_word_between {start word rest : Text}
    (isWord : Text.ConsistsOf Text.isWord word) (noFeed : '\n' ∉ start ++ rest)
    (noReturn : '\r' ∉ start ++ rest) : Text.IsLine (start ++ word ++ rest) := by
  have apart (character : Char) (other : Text.isWord character = false)
      (outside : character ∉ start ++ rest) : character ∉ start ++ word ++ rest := by
    have inWord := not_mem_of_consistsOf isWord other
    simp_all
  exact Text.isLine_of_not_mem (apart _ rfl noFeed) (apart _ rfl noReturn)

/-- Every line that is written for a source file is one line. -/
theorem isLine_of_mem_fileLines (words : HasWordNames settings) {line : Text}
    (member : line ∈ fileLines settings path content) : Text.IsLine line := by
  have opening : Text.IsLine ("#ifdef ".toList ++ settings.networkGuard ++ []) :=
    isLine_of_word_between words.networkGuard (by decide) (by decide)
  rw [List.append_nil] at opening
  have closing : Text.IsLine (Conditional.closing settings.networkGuard) :=
    isLine_of_word_between words.networkGuard (by decide) (by decide)
  rw [fileLines, Conditional.block] at member
  split at member
  · rcases List.mem_cons.mp member with rfl | inside
    · exact opening
    · rcases List.mem_append.mp inside with registers | last
      · exact isLine_of_mem_commandLines registers
      · exact List.mem_singleton.mp last ▸ closing
  · exact isLine_of_mem_commandLines member

/-- No line that registers a command looks like a guard, since it does not begin with a number
sign. -/
theorem isGuard_of_mem_commandLines (words : HasWordNames settings) {line : Text}
    (member : line ∈ commandLines settings content) :
    Conditional.isGuard settings.networkGuard line = false := by
  obtain ⟨called, -, found⟩ := exists_of_mem_commandLines member
  obtain ⟨command, rfl, -⟩ := exists_of_commandLine? found
  have begins (rest : Text) :
      settings.macroName ++ '(' :: command ++ [')'] ≠ '#' :: rest := by
    intro same
    cases name : settings.macroName with
    | nil =>
      rw [name] at same
      cases (List.cons.inj same).1
    | cons first others =>
      rw [name] at same
      have isWord := words.macroName first (name ▸ List.mem_cons_self)
      rw [(List.cons.inj same).1] at isWord
      cases isWord
  exact Bool.or_eq_false_iff.mpr
    ⟨beq_eq_false_iff_ne.mpr (begins _), beq_eq_false_iff_ne.mpr (begins _)⟩

end Prebuild.ShellHeader
