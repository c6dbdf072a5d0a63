/-
This file says what becomes of a source file once each of its lines has been
read for what it contributes.

A line contributes a text, or nothing, or it calls a macro with arguments that do
not fit. Only in the last case does the policy matter: the line is noted and
passed over, or everything stops there. So the two policies agree up to the first
such line, and what has been written before it stays written.
-/

import Prebuild.Journal
import Prebuild.Settings
import Prebuild.Text.Blank

namespace Prebuild

/-- What a line contributes to a generated file. -/
inductive Reading where
  | written (text : Text)
  | nothing
  | malformed
deriving DecidableEq

/-- What has become of a source file: the text written for it, the notes taken, and the
failure if there was one. -/
structure Transcript where
  text : Text
  notes : List Note
  failure : Option Failure
deriving DecidableEq

namespace Transcript

/-- The transcript of lines that have been read, the first of which has the given number. -/
def ofReadings (policy : Policy) (macroName : Text) (path : Path) :
    Nat → List (Text × Reading) → Transcript
  | _, [] => ⟨[], [], none⟩
  | number, (line, reading) :: rest =>
    match reading with
    | .written text =>
      let others := ofReadings policy macroName path (number + 1) rest
      { others with text := text ++ others.text }
    | .nothing => ofReadings policy macroName path (number + 1) rest
    | .malformed =>
      match policy with
      | .warn =>
        let others := ofReadings policy macroName path (number + 1) rest
        let note := Note.skipped path number macroName (Text.trim line)
        { others with notes := note :: others.notes }
      | .abort => ⟨[], [], some (.malformed path number macroName (Text.trim line))⟩

/-- The transcript as the outcome of work: its text counts only if nothing failed. -/
def outcome (transcript : Transcript) : Outcome Text :=
  match transcript.failure with
  | none => ⟨transcript.notes, .ok transcript.text⟩
  | some failure => ⟨transcript.notes, .error failure⟩

end Transcript

/-- The number of lines that contribute a text. A counter of 32 bits with a sign holds it as long as
there are fewer than 2147483648 of them. -/
def countWritten (readings : List (Text × Reading)) : Nat :=
  readings.countP fun pair => match pair.2 with
    | .written _ => true
    | _ => false

end Prebuild
