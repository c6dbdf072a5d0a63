/-
This file gives source trees that have been looked at beforehand: tables of the
directories that were listed and the files that were read. A generator that asks
only for what is in the tables finds what it would have found in the tree.
-/

import Prebuild.Source

namespace Prebuild

/-- What has been found in a source tree. -/
structure Snapshot where
  /-- The directories that were listed, each with the extension asked for. -/
  listings : List ((Path × Text) × Outcome (List Path))
  /-- The files that were read. -/
  texts : List (Path × Except Failure Text)

/-- A snapshot as a source tree. What has not been looked at is missing. -/
def Snapshot.source (snapshot : Snapshot) : Source where
  list directory extension :=
    match snapshot.listings.lookup (directory, extension) with
    | some outcome => outcome
    | none => Outcome.fail (.missingInput directory)
  read path :=
    match snapshot.texts.lookup path with
    | some text => text
    | none => .error (.missingInput path)

end Prebuild
