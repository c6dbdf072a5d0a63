/-
This file proves that the guards in the header of shell commands are right under the
preprocessor. With the network there, what is left of the header are the registrations of
all files that were scanned, in order; without it, those of the files that belong to no
network driver. The guards come in pairs, one for each scanned file of a network driver,
and each pair is closed before the next is opened.

The header is a text, so it is cut into lines again before it is looked at. That gives the
lines back that were written, file by file, since no name in it holds an end of a line.
-/

import Prebuild.Proofs.Outcome
import Prebuild.Proofs.ShellFile

namespace Prebuild.ShellHeader

variable {settings : ShellSettings} {policy : Policy} {source : Source}

/-- The files that are scanned, with their contents: those listed in each directory, in order,
from one directory after the other. -/
def AreScanned (settings : ShellSettings) (source : Source) (files : List (Path × Text)) : Prop :=
  ∃ listings : List (List Path),
    (settings.roots.map fun root => (source.list root settings.sourceExtension).result) =
        listings.map Except.ok ∧
      files.map Prod.fst = listings.flatten ∧
      ∀ file ∈ files, source.read file.1 = .ok file.2

/-- The lines that come from scanned files. -/
def scannedLines (settings : ShellSettings) (files : List (Path × Text)) : List Text :=
  files.flatMap fun file => fileLines settings file.1 file.2

theorem scannedLines_append (first second : List (Path × Text)) :
    scannedLines settings (first ++ second) =
      scannedLines settings first ++ scannedLines settings second :=
  List.flatMap_append

theorem ofFile_ok_cases {path : Path} {text : Text}
    (success : (ofFile settings policy source path).result = .ok text) :
    ∃ content, source.read path = .ok content ∧
      text = Text.ofLines (fileLines settings path content) := by
  obtain ⟨content, read, scanned⟩ := Outcome.bind_ok_cases success
  exact ⟨content, read, text_of_outcome_ok scanned⟩

theorem exists_scanned_of_files {paths : List Path} {text : Text}
    (success : (Outcome.collect (ofFile settings policy source) paths).result = .ok text) :
    ∃ files : List (Path × Text), files.map Prod.fst = paths ∧
      (∀ file ∈ files, source.read file.1 = .ok file.2) ∧
      text = Text.ofLines (scannedLines settings files) := by
  obtain ⟨files, same, reads, rfl⟩ :=
    Outcome.collect_ok_cases (fun path _ text scanned => ofFile_ok_cases scanned) success
  exact ⟨files, same, reads, List.flatMap_assoc.symm⟩

theorem exists_scanned_of_directories {roots : List Path} {text : Text}
    (success : (Outcome.collect (ofDirectory settings policy source) roots).result = .ok text) :
    ∃ (listings : List (List Path)) (files : List (Path × Text)),
      (roots.map fun root => (source.list root settings.sourceExtension).result) =
          listings.map Except.ok ∧
        files.map Prod.fst = listings.flatten ∧
        (∀ file ∈ files, source.read file.1 = .ok file.2) ∧
        text = Text.ofLines (scannedLines settings files) := by
  induction roots generalizing text with
  | nil => exact ⟨[], [], rfl, rfl, nofun, (Except.ok.inj success).symm⟩
  | cons root rest inductionHypothesis =>
    obtain ⟨part, others, scanned, further, rfl⟩ := Outcome.collect_cons_ok_cases success
    obtain ⟨paths, found, collected⟩ := Outcome.bind_ok_cases scanned
    obtain ⟨first, rfl, firstReads, rfl⟩ := exists_scanned_of_files collected
    obtain ⟨listings, files, listed, same, reads, rfl⟩ := inductionHypothesis further
    refine ⟨first.map Prod.fst :: listings, first ++ files, ?_, ?_, ?_, ?_⟩
    · rw [List.map_cons, List.map_cons, found, listed]
    · rw [List.map_append, same, List.flatten_cons]
    · exact fun file member => (List.mem_append.mp member).elim (firstReads file) (reads file)
    · rw [scannedLines_append, Text.ofLines_append]

/-- A header that is made consists of the lines of the files that are scanned. -/
theorem exists_scanned_of_generate {artifacts : List Artifact}
    (success : (generate settings policy source).result = .ok artifacts) :
    ∃ files, AreScanned settings source files ∧
      artifacts = [⟨settings.output, Text.ofLines (scannedLines settings files)⟩] := by
  obtain ⟨text, collected, made⟩ := Outcome.bind_ok_cases success
  obtain rfl := Except.ok.inj made
  obtain ⟨listings, files, listed, same, reads, rfl⟩ := exists_scanned_of_directories collected
  exact ⟨files, ⟨listings, listed, same, reads⟩, rfl⟩

/-- Cut into lines, the header is again the lines of the files that are scanned. -/
theorem lines_scannedLines (words : HasWordNames settings) (files : List (Path × Text)) :
    (Text.ofLines (scannedLines settings files)).lines = scannedLines settings files := by
  refine Text.lines_ofLines fun line member => ?_
  obtain ⟨file, -, inFile⟩ := List.mem_flatMap.mp member
  exact isLine_of_mem_fileLines words inFile

/-- The guards are right under the preprocessor. Let the names of the macro and of the guard be
made of word characters, and let a header be made. Cut into lines, and seen as conditional
compilation on the guard, it leaves with the guard defined one line for each line of a scanned
file that calls the macro with a command, in order; and without it those of the files that belong
to no network driver. Its guard lines are one pair after the other, one for each scanned file of a
network driver, around the lines of that file. -/
theorem header_under_preprocessor (words : HasWordNames settings) {artifacts : List Artifact}
    (success : (generate settings policy source).result = .ok artifacts) :
    ∃ files text, AreScanned settings source files ∧ artifacts = [⟨settings.output, text⟩] ∧
      Conditional.preprocess settings.networkGuard true 0 text.lines =
        some (files.flatMap fun file => commandLines settings file.2) ∧
      Conditional.preprocess settings.networkGuard false 0 text.lines =
        some ((files.filter fun file => !isNetworkFile settings file.1).flatMap fun file =>
          commandLines settings file.2) ∧
      text.lines.filter (Conditional.isGuard settings.networkGuard) =
        ((files.filter fun file => isNetworkFile settings file.1).flatMap fun _ =>
          [Conditional.opening settings.networkGuard,
            Conditional.closing settings.networkGuard]) ∧
      text.lines = files.flatMap fun file =>
        if isNetworkFile settings file.1 then
          Conditional.opening settings.networkGuard ::
            (commandLines settings file.2 ++ [Conditional.closing settings.networkGuard])
        else commandLines settings file.2 := by
  obtain ⟨files, scanned, rfl⟩ := exists_scanned_of_generate success
  have unguarded (file : Path × Text) (line : Text) (member : line ∈ commandLines settings file.2) :
      Conditional.isGuard settings.networkGuard line = false :=
    isGuard_of_mem_commandLines words member
  refine ⟨files, _, scanned, rfl, ?_, ?_, ?_, ?_⟩
  · rw [lines_scannedLines words]
    refine (Conditional.preprocess_flatMap_block unguarded files).trans ?_
    simp
  · rw [lines_scannedLines words]
    exact Conditional.preprocess_flatMap_block unguarded files
  · rw [lines_scannedLines words]
    exact Conditional.filter_isGuard_flatMap_block unguarded files
  · rw [lines_scannedLines words]
    rfl

/-- A source tree with a network driver, a driver of another kind, and a network driver that
registers nothing. -/
def threeDrivers : Source where
  list directory _ :=
    ⟨[], .ok (if directory = "hal" then ["hal/epcan.c", "hal/led.c", "hal/lepcan.c"] else [])⟩
  read path := .ok <|
    if path = "hal/epcan.c" then "SH_DEF(ping)\nSH_DEF(a, b)\n"
    else if path = "hal/led.c" then "SH_DEF(blink)\n"
    else []

theorem header_under_preprocessor_three_drivers :
    let settings : ShellSettings := { networkGuard := "NET" }
    let text : Text :=
      "#ifdef NET\nSH_DEF(ping)\n#endif /* NET */\nSH_DEF(blink)\n#ifdef NET\n#endif /* NET */\n"
    HasWordNames settings ∧
      (generate settings .warn threeDrivers).result = .ok [⟨"shdefs.h", text⟩] ∧
      ∃ files, AreScanned settings threeDrivers files ∧
        Conditional.preprocess "NET" true 0 text.lines =
          some (files.flatMap fun file => commandLines settings file.2) ∧
        Conditional.preprocess "NET" false 0 text.lines =
          some ((files.filter fun file => !isNetworkFile settings file.1).flatMap fun file =>
            commandLines settings file.2) := by
  intro settings text
  have words : HasWordNames settings := ⟨by decide +kernel, by decide +kernel⟩
  have success : (generate settings .warn threeDrivers).result = .ok [⟨"shdefs.h", text⟩] := by
    decide +kernel
  refine ⟨words, success, ?_⟩
  obtain ⟨files, header, scanned, same, present, absent, -⟩ :=
    header_under_preprocessor words success
  obtain rfl : text = header := congrArg Artifact.contents (List.cons.inj same).1
  exact ⟨files, scanned, present, absent⟩

end Prebuild.ShellHeader
