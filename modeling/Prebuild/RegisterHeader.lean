/-
This file lists the identifiers of the registers, in the order in which the
register table defines them, for the enumeration that numbers them.

Definitions often stand between directives of the preprocessor that switch them on
and off, so directives are taken over from the table where they belong to
definitions. What decides is the distance to the last definition before, counted in
lines: a directive is kept while the distance is less than the width of a window.
Nothing looks ahead, so a directive shortly before a definition is kept only if
another definition is shortly before that directive. Before the first definition
the distance starts from a value of its own.
-/

import Prebuild.MacroCall
import Prebuild.Source
import Prebuild.Text.UpperCase
import Prebuild.Transcript

namespace Prebuild.RegisterHeader

/-- The constant for a register, from the two components of its definition, written one
after the other. -/
def constant (constantPrefix components : Text) : Text :=
  constantPrefix ++ Text.upperCase (components.map fun character =>
    if character = '.' then '_' else character)

/-- The line of the header for a register. -/
def identifierLine (settings : RegisterSettings) (components : Text) : Text :=
  Text.endLine (constant settings.constantPrefix components ++ [','])

/-- Whether a line is a directive of the preprocessor. -/
def isDirective (line : Text) : Bool := line.head? == some '#'

/-- The distance one line further on. It is a number of 32 bits, and stays at the greatest
of these once it is there. -/
def advance (distance : UInt32) : UInt32 :=
  if distance = 4294967295 then distance else distance + 1

/-- What a line of the table contributes at a distance from the last definition, and the
distance for the next line. -/
def readLine (settings : RegisterSettings) (distance : UInt32) (line : Text) :
    Reading × UInt32 :=
  if isDirective line then
    if distance < settings.directiveWindow then (.written (Text.endLine line), advance distance)
    else (.nothing, advance distance)
  else
    match MacroCall.classify settings.macroName MacroCall.registerComponents line with
    | .matched components => (.written (identifierLine settings components), advance 0)
    | .notACall => (.nothing, advance distance)
    | .malformed => (.malformed, advance distance)

/-- What the lines of the table contribute, from a distance on. -/
def readings (settings : RegisterSettings) : UInt32 → List Text → List (Text × Reading)
  | _, [] => []
  | distance, line :: rest =>
    let (reading, next) := readLine settings distance line
    (line, reading) :: readings settings next rest

/-- What becomes of a register table. -/
def scan (settings : RegisterSettings) (policy : Policy) (path : Path) (table : Text) :
    Transcript :=
  Transcript.ofReadings policy settings.macroName path 1
    (readings settings settings.initialDistance table.lines)

/-- The number of identifiers in a header: its lines that are no directives. -/
def countIdentifiers (header : Text) : Nat :=
  header.lines.countP fun line => !isDirective line

/-- The header for the register table. -/
def generate (settings : RegisterSettings) (policy : Policy) (source : Source) :
    Outcome (List Artifact) := do
  let table ← Outcome.ofExcept (source.read settings.input)
  let header ← (scan settings policy settings.input table).outcome
  Outcome.note (.identifiers settings.input (countIdentifiers header))
  return [⟨settings.output, header⟩]

end Prebuild.RegisterHeader
