/-
This file turns the capability headers of the boards into build-variable
fragments, one for each header.

Each line of a header is compared with the flag rules in order, and the first rule
whose marker is anywhere in the line contributes its assignments. Nothing else of
the header reaches the fragment, and a rule that applies to several lines
contributes each time.
-/

import Prebuild.Source
import Prebuild.Settings

namespace Prebuild.BoardFragment

/-- The rule that applies to a line of a header. -/
def ruleFor? (flags : List FlagRule) (line : Text) : Option FlagRule :=
  flags.find? fun rule => line.includes rule.marker

/-- The build-variable lines for one line of a header. -/
def lineText (flags : List FlagRule) (line : Text) : Text :=
  match ruleFor? flags line with
  | some rule => Text.ofLines rule.assignments
  | none => []

/-- The fragment for a header. -/
def text (flags : List FlagRule) (header : Text) : Text := header.lines.flatMap (lineText flags)

/-- Where the fragment of a board belongs. -/
def pathOf (settings : HardwareSettings) (board : Text) : Path :=
  settings.outputDirectory.join (.ofText (board ++ '.' :: settings.outputExtension))

/-- The fragment for the header at a path. The board is named by the header's file name
without its extension; a path without a file name is no header, nor is one whose file name is
no text. -/
def ofHeader (settings : HardwareSettings) (source : Source) (header : Path) :
    Outcome (List Artifact) :=
  match header.fileStem?.bind Bytes.text? with
  | none => pure []
  | some board => do
    let content ← Outcome.ofExcept (source.read header)
    let fragment := text settings.flags content
    Outcome.note (.variables header fragment.lines.length)
    return [⟨pathOf settings board, fragment⟩]

/-- The fragments for all headers, in the order in which they are listed. -/
def generate (settings : HardwareSettings) (source : Source) : Outcome (List Artifact) := do
  let headers ← source.list settings.inputDirectory settings.inputExtension
  Outcome.collect (ofHeader settings source) headers

end Prebuild.BoardFragment
