/-
This file says what a run needs from the outside: to read a configuration, to get
at the source tree below a root, and to write artifacts there or compare them with
what is there. A run is the same whether these four are done on a disk that is
only thought of or on a real one; here they are done on a disk.
-/

import Prebuild.Configuration
import Prebuild.Disk.Source
import Prebuild.Generator

namespace Prebuild

/-- What a run needs from the outside. -/
structure Workspace (Effect : Type → Type) where
  /-- The text of a file outside the source tree. -/
  readText : (path : Path) → Effect (Except Failure Text)
  /-- The source tree below a root, as far as a generator looks at it. -/
  source : (root : Path) → Settings → Generator → Effect Source
  /-- Writes an artifact below a root. -/
  write : (root : Path) → Artifact → Effect (Except Failure Unit)
  /-- Whether an artifact is there below a root as it should be. -/
  isCurrent : (root : Path) → Artifact → Effect (Except Failure Bool)

/-- A disk as the outside of a run. Only writing changes it. -/
def Disk.workspace : Workspace (StateM Disk) where
  readText path := fun disk => (disk.readInput path, disk)
  source root _ _ := fun disk => (disk.source root, disk)
  write root artifact := fun disk => disk.write root artifact
  isCurrent root artifact := fun disk => (disk.isCurrent root artifact, disk)

/-- A source tree by itself as the outside of a run that writes and compares nothing. -/
def Source.workspace (source : Source) : Workspace Id where
  readText path := source.read path
  source _ _ _ := source
  write _ _ := .ok ()
  isCurrent _ _ := .ok false

/-- The settings in a configuration file. -/
def Configuration.load {Effect : Type → Type} [Monad Effect] (workspace : Workspace Effect)
    (path : Path) : Effect (Except Failure Settings) := do
  match ← workspace.readText path with
  | .error failure => return .error failure
  | .ok text => return (parse text).mapError (Failure.configuration path)

end Prebuild
