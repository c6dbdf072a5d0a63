/-
This file says what a generator may ask of the source tree, and what it answers
with. A generator lists directories and reads files, and gives artifacts: files
that it would write, named relative to the root of the tree. It never writes
itself.
-/

import Prebuild.Journal

namespace Prebuild

/-- A generated file, named relative to the root of the source tree. -/
structure Artifact where
  path : Path
  contents : Text
deriving DecidableEq

/-- A source tree as a generator sees it. -/
structure Source where
  /-- The files directly inside a directory whose names have the extension. -/
  list : (directory : Path) → (extension : Text) → Outcome (List Path)
  /-- The text of a file. -/
  read : (path : Path) → Except Failure Text

end Prebuild
