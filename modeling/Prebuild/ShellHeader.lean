/-
This file gathers the registrations of shell commands from the source files into
one header.

Each line of a source file that calls the registration macro with one identifier
becomes one line of the header. What comes from a network driver stands between an
opening and a closing guard, so that the commands exist only where the network
does; the guards are there even if the driver registers nothing.
-/

import Prebuild.MacroCall
import Prebuild.Source
import Prebuild.Transcript

namespace Prebuild.ShellHeader

/-- The line of the header that registers a command. -/
def registration (settings : ShellSettings) (command : Text) : Text :=
  Text.endLine (settings.macroName ++ '(' :: command ++ [')'])

/-- What a line of a source file contributes. -/
def readLine (settings : ShellSettings) (line : Text) : Reading :=
  match MacroCall.classify settings.macroName MacroCall.bareIdentifier line with
  | .matched command => .written (registration settings command)
  | .notACall => .nothing
  | .malformed => .malformed

/-- What the lines of a source file contribute. -/
def readings (settings : ShellSettings) (content : Text) : List (Text × Reading) :=
  content.lines.map fun line => (line, readLine settings line)

/-- Whether a path is that of a network driver. One whose file name is no text is not. -/
def isNetworkFile (settings : ShellSettings) (path : Path) : Bool :=
  match path.nameText? with
  | some name => settings.networkSuffix.isSuffixOf name
  | none => false

/-- The line before the commands of a network driver. -/
def openingGuard (settings : ShellSettings) : Text :=
  Text.endLine ("#ifdef " ++ settings.networkGuard)

/-- The line after the commands of a network driver. -/
def closingGuard (settings : ShellSettings) : Text :=
  Text.endLine ("#endif /* " ++ settings.networkGuard ++ " */")

/-- What becomes of a source file. A failure leaves what has been written before it, with
the guard open; the closing guard and the note come only after the last line. -/
def scan (settings : ShellSettings) (policy : Policy) (path : Path) (content : Text) :
    Transcript :=
  let lines := readings settings content
  let body := Transcript.ofReadings policy settings.macroName path 1 lines
  let guarded := isNetworkFile settings path
  let opening := if guarded then openingGuard settings else []
  match body.failure with
  | some failure => ⟨opening ++ body.text, body.notes, some failure⟩
  | none =>
    let closing := if guarded then closingGuard settings else []
    ⟨opening ++ body.text ++ closing, body.notes ++ [.commands path (countWritten lines)], none⟩

/-- What one source file adds to the header. -/
def ofFile (settings : ShellSettings) (policy : Policy) (source : Source) (path : Path) :
    Outcome Text := do
  let content ← Outcome.ofExcept (source.read path)
  (scan settings policy path content).outcome

/-- What the source files of one directory add to the header. -/
def ofDirectory (settings : ShellSettings) (policy : Policy) (source : Source)
    (directory : Path) : Outcome Text := do
  let files ← source.list directory settings.sourceExtension
  Outcome.collect (ofFile settings policy source) files

/-- The header, from the directories in order. -/
def generate (settings : ShellSettings) (policy : Policy) (source : Source) :
    Outcome (List Artifact) := do
  let text ← Outcome.collect (ofDirectory settings policy source) settings.roots
  return [⟨settings.output, text⟩]

end Prebuild.ShellHeader
