/-
This file makes a source tree of a directory on a disk.

A listing visits the entries of a directory in the order of their names. Links are
followed, so a link to a file counts as a file, under the name of the link. A link
that leads nowhere makes the listing fail, whatever its name, and so does one that
leads back to the directory itself.
-/

import Prebuild.Disk.Files
import Prebuild.Source

namespace Prebuild.Disk

/-- Whether the entry with a name, in the directory that a path leads to, is a file. -/
def visit (disk : Disk) (directory : Path) (location : Location) (entries : Listing)
    (name : Name) : Except Failure Bool :=
  let entry := directory.join ⟨name⟩
  match Listing.get? entries name with
  | some (.file _) => .ok true
  | some (.link _) =>
    match disk.find entry with
    | .ok (_, .file _) => .ok true
    | .ok (found, _) =>
      if found = location then .error (.io entry (.loop entry directory)) else .ok false
    | .error .notFound => .error (.missingInput entry)
    | .error fault => .error (.io entry (.visiting entry fault))
  | _ => .ok false

/-- The names among the given ones of files with an extension. -/
def selectFiles (disk : Disk) (directory : Path) (location : Location) (entries : Listing)
    (extension : Text) : List Name → Except Failure (List Name)
  | [] => .ok []
  | name :: rest => do
    let isFile ← disk.visit directory location entries name
    let others ← disk.selectFiles directory location entries extension rest
    return if isFile && Path.nameHasExtension extension name then name :: others else others

/-- The files with an extension that are directly inside a directory below the root. -/
def listFiles (disk : Disk) (root directory : Path) (extension : Text) : Outcome (List Path) :=
  let full := root.join directory
  match disk.find full with
  | .ok (location, .directory entries) => do
    let names ← Outcome.ofExcept
      (disk.selectFiles full location entries extension (Listing.names entries))
    Outcome.note (.listed directory names.length extension)
    return names.map fun name => directory.join ⟨name⟩
  | _ => Outcome.fail (.missingInput directory)

/-- The source tree with the given root. -/
def source (disk : Disk) (root : Path) : Source where
  list := disk.listFiles root
  read path := (disk.readText (root.join path)).mapError (Failure.ofFault path)

end Prebuild.Disk
