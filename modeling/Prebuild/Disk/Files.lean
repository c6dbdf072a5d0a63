/-
This file reads and writes the files of a disk. Reading changes nothing. Writing
replaces the whole file, or makes it where there was none; making a directory with
its parents may leave some of these behind when it fails.
-/

import Prebuild.Disk.Walk
import Prebuild.Source

namespace Prebuild.Disk

/-! ### Reading -/

/-- The bytes of the file that a path leads to. -/
def readBytes (disk : Disk) (path : Path) : Except Fault ByteArray :=
  match disk.find path with
  | .ok (_, .file bytes) => .ok bytes
  | .ok _ => .error .isADirectory
  | .error fault => .error fault

/-- The text of the file that a path leads to. -/
def readText (disk : Disk) (path : Path) : Except Fault Text :=
  match disk.readBytes path with
  | .ok bytes =>
    match Text.ofBytes? bytes with
    | some text => .ok text
    | none => .error .notUtf8
  | .error fault => .error fault

/-- The text of an input. -/
def readInput (disk : Disk) (path : Path) : Except Failure Text :=
  (disk.readText path).mapError (Failure.ofFault path)

/-! ### Writing -/

/-- Writes a file. A link at the end of the path is followed, so what it stands for is
written. -/
def writeBytes (disk : Disk) (path : Path) (bytes : ByteArray) : Except Fault Disk :=
  match disk.arrive .write path with
  | .error fault => .error fault
  | .ok ⟨.vacant directory name, _⟩ => .ok (disk.set (directory ++ [name]) (.file bytes))
  | .ok ⟨.taken location (.file _), _⟩ => .ok (disk.set location (.file bytes))
  | .ok ⟨.taken .., _⟩ => .error .isADirectory

/-- Makes a directory in one that is there. -/
def makeDirectory (disk : Disk) (path : Path) : Except Fault Disk :=
  match disk.arrive .entry path with
  | .error fault => .error fault
  | .ok ⟨.taken .., _⟩ => .error .exists
  | .ok ⟨.vacant directory name, _⟩ => .ok (disk.set (directory ++ [name]) (.directory []))

/-- Makes the first of the given directories, which lies in the second, which lies in the
third, and so on, together with those of the others that are not there. -/
def makeDirectories (disk : Disk) : List Path → Except Fault Unit × Disk
  | [] => (.error .notFound, disk)
  | path :: above =>
    if path.bytes.isEmpty then (.ok (), disk)
    else
      match disk.makeDirectory path with
      | .ok made => (.ok (), made)
      | .error .notFound =>
        match disk.makeDirectories above with
        | (.error fault, made) => (.error fault, made)
        | (.ok (), made) =>
          match made.makeDirectory path with
          | .ok complete => (.ok (), complete)
          | .error fault =>
            if made.isDirectory path then (.ok (), made) else (.error fault, made)
      | .error fault => if disk.isDirectory path then (.ok (), disk) else (.error fault, disk)

/-- Makes the directory that a path lies in, with its parents. -/
def makeParent (disk : Disk) (path : Path) : Except Failure Unit × Disk :=
  match path.parent? with
  | none => (.ok (), disk)
  | some parent =>
    match disk.makeDirectories parent.ancestors with
    | (.ok (), made) => (.ok (), made)
    | (.error fault, made) => (.error (.io parent (.fault fault)), made)

/-! ### Preparing a disk -/

/-- Puts a node where a path leads, after making the directory that it lies in. A directory
may be there already; a link is not followed. -/
def place (disk : Disk) (path : Path) (node : Node) : Except Failure Disk :=
  match disk.makeParent path with
  | (.error failure, _) => .error failure
  | (.ok (), made) =>
    match node with
    | .file bytes => (made.writeBytes path bytes).mapError (Failure.ofFault path)
    | .directory _ =>
      match made.makeDirectories path.ancestors with
      | (.ok (), complete) => .ok complete
      | (.error fault, _) => .error (Failure.ofFault path fault)
    | .link _ =>
      match made.arrive .entry path with
      | .ok ⟨.vacant directory name, _⟩ => .ok (made.set (directory ++ [name]) node)
      | .ok ⟨.taken .., _⟩ => .error (Failure.ofFault path .exists)
      | .error fault => .error (Failure.ofFault path fault)

/-- Removes what a path leads to, a link itself and not what it stands for. -/
def remove (disk : Disk) (path : Path) : Except Failure Disk :=
  match disk.arrive .entry path with
  | .ok ⟨.taken location _, _⟩ => .ok { disk with top := disk.top.remove location }
  | .ok ⟨.vacant .., _⟩ => .error (.missingInput path)
  | .error fault => .error (Failure.ofFault path fault)

/-! ### Artifacts -/

/-- Writes an artifact below the root, after making the directory that it lies in. Since it
is an output, that something was not found does not make it a missing input. -/
def write (disk : Disk) (root : Path) (artifact : Artifact) : Except Failure Unit × Disk :=
  let path := root.join artifact.path
  match disk.makeParent path with
  | (.error failure, made) => (.error failure, made)
  | (.ok (), made) =>
    match made.writeBytes path (Text.toBytes artifact.contents) with
    | .ok written => (.ok (), written)
    | .error fault => (.error (.io artifact.path (.fault fault)), made)

/-- Whether the file of an artifact is there below the root and has exactly its contents. -/
def isCurrent (disk : Disk) (root : Path) (artifact : Artifact) : Except Failure Bool :=
  match disk.readBytes (root.join artifact.path) with
  | .ok bytes => .ok (bytes == Text.toBytes artifact.contents)
  | .error .notFound => .ok false
  | .error fault => .error (.io artifact.path (.fault fault))

end Prebuild.Disk
