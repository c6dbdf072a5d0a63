/-
This file gives the program as a whole: from the words of its command line and the
wanted level of notes to what it prints, the file system aside. All wording that is
not that of a note or of a failure is here.
-/

import Prebuild.CommandLine
import Prebuild.Run

namespace Prebuild.Console

open CommandLine (Command Request Topic)

/-! ### Help -/

/-- The name of the program. -/
def programName : Text := "xtask"

/-- The answer to a question for the version. -/
def versionText : Text := programName ++ " 0.1.0"

/-- What the run of a generator is good for. -/
def purpose : Generator → Text
  | .boardFragments => "Build-variable fragments from hal/hw/*.h"
  | .shellCommands => "Shell command registrations into shdefs.h"
  | .applications => "Application registrations into app/apdefs.h"
  | .registerIdentifiers => "Register identifiers into regdefs.h"

/-- What the run of all generators is good for. -/
def purposeOfAll : Text := "Run every generator in order (the default)"

/-- What the word for help is good for. -/
def purposeOfHelp : Text := "Print this message or the help of the given subcommand(s)"

/-- A line of a table: a term, blanks up to the width, and what the term means. -/
def entry (width : Nat) (term meaning : Text) : Text :=
  "  " ++ term ++ List.replicate (width - term.length) ' ' ++ "  " ++ meaning

/-- The commands with what they are good for. -/
def commandTable : List Text :=
  [entry 14 "all" purposeOfAll] ++
  (Generator.all.map fun generator => entry 14 generator.name (purpose generator)) ++
  [entry 14 "help" purposeOfHelp]

/-- The options that stand on both sides of a command. -/
def optionTable : List Text :=
  [ entry 21 "    --root <ROOT>" "Firmware source directory [default: .]",
    entry 21 "    --config <CONFIG>" "TOML file overriding the default source layout",
    entry 21 "    --check" "Check that generated files are up to date without writing them",
    entry 21 "    --strict"
      "Fail on every malformed macro invocation, not only register definitions",
    entry 21 "-h, --help" "Print help" ]

/-- Help on a command: what it is good for, how it is called, and its options. -/
def commandHelp (name purpose : Text) : List Text :=
  purpose :: [] :: ("Usage: " ++ programName ++ ' ' :: name ++ " [OPTIONS]") :: [] ::
    "Options:" :: optionTable

/-- What is said about the program before its commands. -/
def programHead : List Text :=
  [ "Generate build fragments and headers for the firmware", [],
    "Usage: " ++ programName ++ " [OPTIONS] [COMMAND]", [], "Commands:" ]

/-- The lines that answer a question for help. -/
def helpLines : Topic → List Text
  | .program =>
    programHead ++ commandTable ++ [] :: "Options:" :: optionTable ++
      [entry 21 "-V, --version" "Print version"]
  | .everything => commandHelp "all" purposeOfAll
  | .generator generator => commandHelp generator.name (purpose generator)
  | .help =>
    [ purposeOfHelp, [], "Usage: " ++ programName ++ " help [COMMAND]...", [], "Arguments:",
      "  [COMMAND]...  Print help for the subcommand(s)" ]

/-- The lines that answer a command line which asks for nothing that can be done. -/
def refusalLines : List Text :=
  [ "error: the arguments make no command", [],
    "Usage: " ++ programName ++ " [OPTIONS] [COMMAND]", [],
    "For more information, try '--help'." ]

/-! ### Notes -/

/-- The lightest level of notes that are shown, if any are. -/
abbrev Threshold := Option Level

/-- The names of the thresholds. -/
def thresholds : List (Text × Threshold) :=
  [ ("OFF", none), ("ERROR", some .error), ("WARN", some .warn), ("INFO", some .info),
    ("DEBUG", some .debug), ("TRACE", some .trace) ]

/-- The threshold that is wanted, by its name in letters of either case. Any other wish has
no effect. -/
def thresholdFor (wish : Option Text) : Threshold :=
  match wish with
  | none => some .info
  | some name =>
    match thresholds.find? fun pair => pair.1 == name.map Char.toUpper with
    | some pair => pair.2
    | none => some .info

/-- Whether something of a level is shown. -/
def shows (threshold : Threshold) (level : Level) : Bool :=
  match threshold with
  | none => false
  | some lightest => decide (level.rank ≤ lightest.rank)

/-- Something of a level, with where it comes from, as a line. -/
def noteLine (level : Level) (origin message : Text) : Text :=
  level.name ++ List.replicate (5 - level.name.length) ' ' ++ " [" ++ origin ++ "] " ++ message

/-! ### Runs -/

/-- The lines for an event, of which there is at most one. -/
def eventLines (threshold : Threshold) (root : Path) : Event → List Text
  | .started generator =>
    if shows threshold .info then
      [noteLine .info "xtask::generate" ("Running " ++ generator.name ++ " in " ++ root.shown)]
    else []
  | .noted note =>
    if shows threshold note.level then [noteLine note.level note.origin note.message] else []
  | .settled _ _ .generated => []
  | .settled _ artifact .written =>
    ["  ✓ Generated " ++ artifact.path.shown ++ " (" ++
      Text.ofNat (Text.byteSize artifact.contents) ++ " bytes)"]
  | .settled _ artifact .upToDate => ["  ✓ " ++ artifact.path.shown ++ " is up to date"]
  | .settled _ artifact .outOfDate => ["  ✗ " ++ artifact.path.shown ++ " is out of date"]

/-- The lines at the end of a run that was not halted. -/
def summaryLines (check : Bool) (report : Report) : List Text :=
  [ [], "=== Generation Summary ===",
    (if check then "Up to date: " else "Generated: ") ++ Text.ofNat report.countGood ++ " files" ]

/-- The message about artifacts that are out of date, if there are any. -/
def staleMessage? (report : Report) : Option Text :=
  match report.stale with
  | [] => none
  | first :: others =>
    some (Text.ofNat (others.length + 1) ++ " generated file(s) out of date, first: " ++
      first.path.shown)

/-- The messages about a halt, from the outside in. -/
def haltMessages : Halt → List Text
  | .generating generator failure => (generator.name ++ " failed") :: failure.chain
  | .settling _ failure => failure.chain

/-! ### The program -/

/-- What the program leaves behind: a status, the lines of its output, and the lines of its
complaint. -/
structure Answer where
  status : Nat
  output : List Text
  complaint : List Text
deriving DecidableEq

/-- The status of a run that failed. -/
def failed : Nat := 255

/-- The status of a command line that was refused. -/
def refused : Nat := 2

/-- The complaint that consists of some messages. -/
def complaintOf (messages : List Text) : List Text := [Text.joinWith ": " messages]

/-- The answer for a run. -/
def answerFor (threshold : Threshold) (command : Command) (report : Report) : Answer :=
  let told := report.events.flatMap (eventLines threshold command.root)
  match report.halt with
  | some halt => ⟨failed, told, complaintOf (haltMessages halt)⟩
  | none =>
    let output := told ++ summaryLines command.check report
    match staleMessage? report with
    | some message => ⟨failed, output, [message]⟩
    | none => ⟨0, output, []⟩

/-- The generators of a command. -/
def generatorsOf (command : Command) : List Generator :=
  match command.only with
  | some generator => [generator]
  | none => Generator.all

/-- The settings of a command, once the configuration file has been read. -/
def settingsOf (command : Command) (settings : Settings) : Settings :=
  if command.strict then { settings with malformed := .abort } else settings

variable {Effect : Type → Type} [Monad Effect]

/-- Carries out a command. -/
def carryOut (workspace : Workspace Effect) (threshold : Threshold) (command : Command) :
    Effect Answer := do
  let configured ← match command.configuration with
    | some path => Configuration.load workspace path
    | none => pure (.ok {})
  match configured with
  | .error failure => return ⟨failed, [], complaintOf failure.chain⟩
  | .ok settings =>
    let mode := if command.check then Mode.check else Mode.write
    let report ← Run.sequence workspace command.root (settingsOf command settings) mode
      (generatorsOf command)
    return answerFor threshold command report

/-- The program: the words of the command line, and the name of the wanted threshold. -/
def run (workspace : Workspace Effect) (words : List Text) (wish : Option Text) :
    Effect Answer :=
  match CommandLine.read words with
  | .help topic => return ⟨0, helpLines topic, []⟩
  | .version => return ⟨0, [versionText], []⟩
  | .refused => return ⟨refused, [], refusalLines⟩
  | .run command => carryOut workspace (thresholdFor wish) command

end Prebuild.Console
