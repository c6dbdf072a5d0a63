/-
This file proves that what a scan for shell commands has written is read back unchanged: scanned
in its turn, it gives the same text again, without a warning.

A scan writes one line for each call it finds, and that line calls the macro with the same
command. Nothing has to be asked of the macro's name for this. A name that is called at all is
spelled out inside a line, so it holds no line feed, and it is found behind layout, so it does not
begin with any; those are the two ways in which a name could be lost. What a scan has written by
the time it fails consists of such lines as well.
-/

import Prebuild.Proofs.FirstWarning

namespace Prebuild.ShellHeader

variable {settings : ShellSettings} {policy other : Policy} {path again : Path} {content : Text}

/-! ### Lines that register commands -/

/-- A line that registers a command calls the macro with that command. -/
theorem commandLine?_eq_self {line registered : Text}
    (found : commandLine? settings line = some registered) :
    commandLine? settings registered = some registered := by
  obtain ⟨command, rfl, plain, layout, tail, -, -, nonempty, isWord⟩ :=
    exists_of_commandLine? found
  have calls : MacroCall.CallsWithIdentifier settings.macroName
      (settings.macroName ++ '(' :: command ++ [')']) command :=
    ⟨[], [], nofun, by simp, nonempty, isWord⟩
  rw [commandLine?, (MacroCall.classify_bareIdentifier_eq_matched_iff plain).mpr calls]

theorem readLine_of_commandLine? {line registered : Text}
    (found : commandLine? settings line = some registered) :
    readLine settings line = .written (Text.endLine registered) := by
  rw [commandLine?] at found
  rw [readLine]
  split at found
  · rename_i command matched
    obtain rfl := Option.some.inj found
    rw [matched]
    rfl
  · cases found

/-- Lines of which each registers a command, as it stands, and is one line when it is written. -/
structure Registers (settings : ShellSettings) (lines : List Text) : Prop where
  isLine : ∀ line ∈ lines, Text.IsLine line
  registered : ∀ line ∈ lines, commandLine? settings line = some line

theorem registers_commandLines : Registers settings (commandLines settings content) where
  isLine _ := isLine_of_mem_commandLines
  registered line member := by
    obtain ⟨called, -, found⟩ := exists_of_mem_commandLines member
    exact commandLine?_eq_self found

theorem Registers.sublist {lines others : List Text} (registers : Registers settings lines)
    (within : others.Sublist lines) : Registers settings others :=
  ⟨fun line member => registers.isLine line (within.subset member),
    fun line member => registers.registered line (within.subset member)⟩

/-! ### Scanning what has been written -/

/-- The lines of a text that registers commands read as they were written. -/
theorem Registers.readings_eq {lines : List Text} (registers : Registers settings lines) :
    readings settings (Text.ofLines lines) =
      lines.map fun line => (line, .written (Text.endLine line)) := by
  rw [readings, Text.lines_ofLines registers.isLine]
  exact List.map_congr_left fun line member =>
    congrArg (line, ·) (readLine_of_commandLine? (registers.registered line member))

/-- A text that registers commands is read back as it is, under either policy. -/
theorem Registers.scan_eq {lines : List Text} (registers : Registers settings lines)
    (plain : isNetworkFile settings path = false) :
    scan settings policy path (Text.ofLines lines) =
      ⟨Text.ofLines lines, [.commands path lines.length], none⟩ := by
  have whole : body settings policy path (Text.ofLines lines) = ⟨Text.ofLines lines, [], none⟩ := by
    rw [body, registers.readings_eq, Transcript.ofReadings_of_wellFormed (by simp),
      List.flatMap_map]
    rfl
  have count : countWritten (readings settings (Text.ofLines lines)) = lines.length := by
    rw [registers.readings_eq, countWritten, List.countP_map]
    exact List.countP_eq_length.mpr fun line _ => rfl
  rw [scan_of_failure_eq_none (by rw [whole]), whole, count, guard, plain]
  rfl

/-- Whatever a scan has written without guards registers commands, also if the scan fails. -/
theorem exists_registers_of_scan (plain : isNetworkFile settings path = false) :
    ∃ lines, Registers settings lines ∧
      (scan settings policy path content).text = Text.ofLines lines := by
  obtain ⟨closing, -, scanned⟩ := exists_scan_eq_body policy content plain
  obtain ⟨count, written⟩ : ∃ count, (body settings policy path content).text = _ :=
    Transcript.exists_text_eq_take
  refine ⟨(content.lines.take count).filterMap (commandLine? settings), ?_, ?_⟩
  · exact registers_commandLines.sublist ((List.take_sublist count content.lines).filterMap _)
  · rw [scanned, written, flatMap_contribution_take]

/-- The scan for shell commands reads back what it writes. Let a source file be scanned whose
path is not that of a network driver, under any settings and either policy. What has been written,
even if the scan fails, is read back when it is scanned as a source file itself, under either
policy and at any path that is not that of a network driver: that scan does not fail, writes the
same text, and notes nothing but the number of commands, which is the number of lines. -/
theorem scan_reads_back (settings : ShellSettings) (policy other : Policy) (content : Text)
    {path again : Path} (plain : isNetworkFile settings path = false)
    (plainAgain : isNetworkFile settings again = false) :
    let written := (scan settings policy path content).text
    scan settings other again written =
      ⟨written, [.commands again written.lines.length], none⟩ := by
  obtain ⟨lines, registers, written⟩ : ∃ lines, Registers settings lines ∧
      (scan settings policy path content).text = Text.ofLines lines :=
    exists_registers_of_scan plain
  dsimp only
  rw [written, Text.lines_ofLines registers.isLine]
  exact registers.scan_eq plainAgain

/-- A name with a carriage return, a parenthesis and a space in it is read back, and so is what a
strict scan has written before it fails. -/
theorem scan_reads_back_odd_name :
    let settings : ShellSettings := { macroName := "A\r(B " }
    let content : Text := "\tA\r(B (x) y\r\nA(z)\nA\r(B (x_2)\nA\r(B (z z)\nA\r(B (w)\n"
    let written : Text := "A\r(B (x)\nA\r(B (x_2)\n"
    isNetworkFile settings "hal/hal.c" = false ∧ isNetworkFile settings "shdefs.h" = false ∧
      (scan settings .abort "hal/hal.c" content).text = written ∧
      scan settings .abort "shdefs.h" written = ⟨written, [.commands "shdefs.h" 2], none⟩ := by
  intro settings content written
  have plain : isNetworkFile settings "hal/hal.c" = false := by decide +kernel
  have plainAgain : isNetworkFile settings "shdefs.h" = false := by decide +kernel
  have first : (scan settings .abort "hal/hal.c" content).text = written := by decide +kernel
  have readBack := scan_reads_back settings .abort .abort content plain plainAgain
  dsimp only at readBack
  rw [first] at readBack
  exact ⟨plain, plainAgain, first, readBack⟩

end Prebuild.ShellHeader
