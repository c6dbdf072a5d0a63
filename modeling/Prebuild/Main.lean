/-
This file is the program as it is started: it does on real files what a run needs
from the outside, and hands the words of the command line to the console. It
decides nothing about what is generated.

The runtime takes paths and gives names as texts only. A name that is no text comes
with replacement characters in it, under which the file system does not find it; such
an entry of a directory is passed over, as the generators have no use for it.
-/

import Prebuild.Console
import Prebuild.Snapshot

namespace Prebuild.Main

/-! ### Faults -/

/-- The number and the words with which the operating system reports an error. -/
def report : IO.Error → Nat × String
  | .alreadyExists _ number words | .noFileOrDirectory _ number words
  | .invalidArgument _ number words | .permissionDenied _ number words
  | .resourceExhausted _ number words | .inappropriateType _ number words
  | .noSuchThing _ number words | .interrupted _ number words
  | .otherError number words | .resourceBusy number words | .resourceVanished number words
  | .unsupportedOperation number words | .hardwareFault number words
  | .unsatisfiedConstraints number words | .illegalOperation number words
  | .protocolError number words | .timeExpired number words => (number.toNat, words)
  | .unexpectedEof => (0, "unexpected end of file")
  | .userError words => (0, words)

/-- The size of an error's number, which some operations report below zero, in 32 bits. -/
def magnitude (number : Nat) : Nat := if number < 2147483648 then number else 4294967296 - number

/-- The fault that an error is. -/
def faultOf (error : IO.Error) : Fault :=
  let (number, words) := report error
  match (magnitude number, words) with
  | (2, _) => .notFound
  | (17, _) => .exists
  | (20, _) => .notADirectory
  | (21, _) => .isADirectory
  | (36, _) => .nameTooLong
  | (40, _) => .tooManyLinks
  | (size, words) => .other size words

/-- A path as the runtime takes it. -/
def place (path : Path) := System.mkFilePath [String.ofList path.shown]

/-- Does something with the file that a path names. -/
def attempt {Result : Type} (path : Path) (action : IO Result) : IO (Except Fault Result) := do
  if path.bytes.contains 0 then return .error .nulInPath
  match ← action.toBaseIO with
  | .ok result => return .ok result
  | .error error => return .error (faultOf error)

/-! ### Reading -/

/-- The bytes of a file. -/
def readBytes (path : Path) : IO (Except Fault ByteArray) :=
  attempt path (IO.FS.readBinFile (place path))

/-- The text of a file. -/
def readText (path : Path) : IO (Except Fault Text) := do
  match ← readBytes path with
  | .error fault => return .error fault
  | .ok bytes =>
    match Text.ofBytes? bytes with
    | some text => return .ok text
    | none => return .error .notUtf8

/-- Whether a path leads to a directory. -/
def isDirectory (path : Path) : IO Bool := do
  match ← attempt path (place path).metadata with
  | .ok found => return match found.type with
    | .dir => true
    | _ => false
  | .error _ => return false

/-- Whether the entry with a name of a directory is a file. -/
def visit (directory : Path) (name : Name) : IO (Except Failure Bool) := do
  let entry := directory.join ⟨name⟩
  match ← attempt entry (place entry).metadata with
  | .error .notFound => return .error (.missingInput entry)
  | .error fault => return .error (.io entry (.visiting entry fault))
  | .ok found =>
    match found.type with
    | .file => return .ok true
    | .dir =>
      let target ← IO.FS.realPath (place entry)
      let visited ← IO.FS.realPath (place directory)
      if target == visited then return .error (.io entry (.loop entry directory))
      return .ok false
    | _ => return .ok false

/-- The names of the given entries of a directory that can be found, in ascending order. -/
def namesIn (directory : Path) (entries : Array IO.FS.DirEntry) : IO (List Name) :=
  entries.foldlM (fun names entry => do
    let name : Name := entry.fileName
    let file := directory.join ⟨name⟩
    match ← attempt file (place file).symlinkMetadata with
    | .ok _ => return Listing.insertName name names
    | .error _ => return names) []

/-- The names among the given ones of files with an extension. -/
def selectFiles (directory : Path) (extension : Text) :
    List Name → IO (Except Failure (List Name))
  | [] => return .ok []
  | name :: rest => do
    match ← visit directory name with
    | .error failure => return .error failure
    | .ok isFile =>
      match ← selectFiles directory extension rest with
      | .error failure => return .error failure
      | .ok others =>
        return .ok (if isFile && Path.nameHasExtension extension name then name :: others
          else others)

/-- The files with an extension that are directly inside a directory below the root. -/
def listFiles (root directory : Path) (extension : Text) : IO (Outcome (List Path)) := do
  let full := root.join directory
  unless ← isDirectory full do return Outcome.fail (.missingInput directory)
  match ← attempt full (place full).readDir with
  | .error fault => return Outcome.fail (.io full (.visiting full fault))
  | .ok entries =>
    match ← selectFiles full extension (← namesIn full entries) with
    | .error failure => return Outcome.fail failure
    | .ok selected =>
      return ⟨[.listed directory selected.length extension],
        .ok (selected.map fun name => directory.join ⟨name⟩)⟩

/-- The part of the source tree below a root that a generator looks at. -/
def lookAt (root : Path) (settings : Settings) (generator : Generator) : IO Snapshot := do
  let listings ← (generator.listings settings).mapM fun (directory, extension) => do
    return ((directory, extension), ← listFiles root directory extension)
  let listed := listings.flatMap fun entry =>
    match entry.2.result with
    | .ok files => files
    | .error _ => []
  let texts ← (generator.inputs settings listed).mapM fun path => do
    return (path, (← readText (root.join path)).mapError (Failure.ofFault path))
  return ⟨listings, texts⟩

/-! ### Writing -/

/-- Makes the first of the given directories, which lies in the second, which lies in the
third, and so on, together with those of the others that are not there. -/
def makeDirectories : List Path → IO (Except Fault Unit)
  | [] => return .error .notFound
  | path :: above => do
    if path.bytes.isEmpty then return .ok ()
    let make := attempt path (IO.FS.createDir (place path))
    match ← make with
    | .ok () => return .ok ()
    | .error .notFound =>
      match ← makeDirectories above with
      | .error fault => return .error fault
      | .ok () =>
        match ← make with
        | .ok () => return .ok ()
        | .error fault => if ← isDirectory path then return .ok () else return .error fault
    | .error fault => if ← isDirectory path then return .ok () else return .error fault

/-- Writes an artifact below the root, after making the directory that it lies in. -/
def write (root : Path) (artifact : Artifact) : IO (Except Failure Unit) := do
  let path := root.join artifact.path
  if let some parent := path.parent? then
    if let .error fault ← makeDirectories parent.ancestors then
      return .error (.io parent (.fault fault))
  match ← attempt path (IO.FS.writeBinFile (place path) (Text.toBytes artifact.contents)) with
  | .ok () => return .ok ()
  | .error fault => return .error (.io artifact.path (.fault fault))

/-- Whether the file of an artifact is there below the root and has exactly its contents. -/
def isCurrent (root : Path) (artifact : Artifact) : IO (Except Failure Bool) := do
  match ← readBytes (root.join artifact.path) with
  | .ok bytes => return .ok (bytes == Text.toBytes artifact.contents)
  | .error .notFound => return .ok false
  | .error fault => return .error (.io artifact.path (.fault fault))

/-! ### The program -/

/-- The real files as the outside of a run. -/
def workspace : Workspace IO where
  readText path := return (← readText path).mapError (Failure.ofFault path)
  source root settings generator := return (← lookAt root settings generator).source
  write := write
  isCurrent := isCurrent

/-- Prints lines. -/
def printLines (stream : IO.FS.Stream) (lines : List Text) : IO Unit := do
  stream.putStr (String.ofList (Text.ofLines lines))
  stream.flush

end Prebuild.Main

open Prebuild in
/-- Runs the program on the words of the command line. -/
def main (words : List String) : IO UInt32 := do
  let wish ← IO.getEnv "RUST_LOG"
  let answer ← Console.run Main.workspace (words.map String.toList) (wish.map String.toList)
  Main.printLines (← IO.getStdout) answer.output
  Main.printLines (← IO.getStderr) answer.complaint
  return UInt32.ofNat answer.status
