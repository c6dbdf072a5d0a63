/-
This file registers the applications: every source file in their directory is one
application, named by the file name without its extension, in upper case. The
files themselves are not read.
-/

import Prebuild.Settings
import Prebuild.Source
import Prebuild.Text.UpperCase

namespace Prebuild.ApplicationHeader

/-- The name of the application that a source file holds: what stands before the extension
in its file name. There is none if the file name is no text. -/
def stem? (settings : ApplicationSettings) (file : Path) : Option Text :=
  file.nameText?.bind (Text.beforeEnd? ('.' :: settings.sourceExtension))

/-- The line of the header that registers an application. -/
def registration (settings : ApplicationSettings) (stem : Text) : Text :=
  Text.endLine (settings.macroName ++ '(' :: Text.upperCase stem ++ [')'])

/-- What one source file adds to the header. -/
def ofFile (settings : ApplicationSettings) (file : Path) : Text :=
  match stem? settings file with
  | some stem => registration settings stem
  | none => []

/-- The header, with the applications in the order in which their files are listed. -/
def generate (settings : ApplicationSettings) (source : Source) : Outcome (List Artifact) := do
  let files ← source.list settings.inputDirectory settings.sourceExtension
  return [⟨settings.output, files.flatMap (ofFile settings)⟩]

end Prebuild.ApplicationHeader
