/-
This file gives paths: bytes that name files, with the operations on them that
look at no file. A path is kept exactly as it was put together, because messages
show it so: joining neither removes a full stop nor merges slashes.

The parts of a path are what lies between slashes. Empty parts and single full
stops name nothing further, so they are skipped when the last part is asked for;
a single full stop at the very beginning of a relative path is the exception, it
is a part of its own.
-/

import Prebuild.Bytes

namespace Prebuild

/-- A path, as it is written. -/
structure Path where
  bytes : Bytes
deriving DecidableEq, Inhabited

instance : Coe String Path := ⟨fun text => ⟨Text.bytes text.toList⟩⟩

namespace Path

/-- The byte between the parts of a path. -/
def slash : UInt8 := 0x2F

/-- The byte before an extension. -/
def dot : UInt8 := 0x2E

/-- The path that is written as the text. -/
def ofText (text : Text) : Path := ⟨text.bytes⟩

/-- How a message shows the path. -/
def shown (path : Path) : Text := path.bytes.shown

/-! ### Joining -/

/-- Whether a path starts at the top of the file system. -/
def isAbsolute (path : Path) : Bool := path.bytes.head? == some slash

/-- Whether a path is written with a slash at its end. -/
def endsInSlash (path : Path) : Bool := path.bytes.getLast? == some slash

/-- The path of something that is named relative to a base. An absolute path stays what it
is; otherwise one slash comes between the two unless the base is empty or has one already. -/
def join (base path : Path) : Path :=
  if path.isAbsolute then path
  else if base.bytes.isEmpty || base.endsInSlash then ⟨base.bytes ++ path.bytes⟩
  else ⟨base.bytes ++ slash :: path.bytes⟩

/-! ### The last part -/

/-- Whether a part names nothing further. -/
def isIdle (part : Bytes) : Bool := part.isEmpty || part == [dot]

/-- The given parts without those at the end that name nothing further. -/
def dropIdleEnd (parts : List Bytes) : List Bytes := (parts.reverse.dropWhile isIdle).reverse

/-- The name of what the path leads to: its last part, slashes and full stops at the end
aside. There is none for an empty path, for one that ends in two full stops, and for one
made of slashes and full stops alone. -/
def fileName? (path : Path) : Option Name :=
  match (dropIdleEnd (Text.splitAt slash path.bytes)).getLast? with
  | some name => if name == [dot, dot] then none else some name
  | none => none

/-- The name as a text, if it is one. -/
def nameText? (path : Path) : Option Text := path.fileName?.bind Bytes.text?

/-- A name without its extension, which starts at the last full stop. A full stop at the
beginning starts no extension. -/
def stemOf (name : Name) : Name := Text.beforeLast dot name

/-- The name of what the path leads to, without its extension. -/
def fileStem? (path : Path) : Option Name := path.fileName?.map stemOf

/-- Whether a name ends in a full stop and the extension. A name that is no text does not. -/
def nameHasExtension (extension : Text) (name : Name) : Bool :=
  match name.text? with
  | some text =>
    match Text.beforeEnd? extension text with
    | some stem => stem.getLast? == some '.'
    | none => false
  | none => false

/-! ### The directory of a path -/

/-- The leading parts of a relative path as a path: what names nothing further is dropped
at the end, but not a full stop at the very beginning. -/
def ofLeadingParts (parts : List Bytes) : Path :=
  match dropIdleEnd parts with
  | [] => if parts.head? == some [dot] then "." else ""
  | leading => ⟨Text.joinWith [slash] leading⟩

/-- The path without its last part, if it has one. -/
def parent? (path : Path) : Option Path :=
  if path.isAbsolute then
    match dropIdleEnd (Text.splitAt slash path.bytes).tail with
    | [] => none
    | parts => some ⟨slash :: Text.joinWith [slash] (dropIdleEnd parts.dropLast)⟩
  else
    match dropIdleEnd (Text.splitAt slash path.bytes) with
    | [] => if path.bytes.head? == some dot then some "" else none
    | parts => some (ofLeadingParts parts.dropLast)

/-- The given path, its parent, the parent of that, and so on, at most a number of them. -/
def ancestorsUpTo : Nat → Path → List Path
  | 0, _ => []
  | count + 1, path =>
    path :: match path.parent? with
      | some parent => ancestorsUpTo count parent
      | none => []

/-- The path, its parent, the parent of that, and so on. Each is shorter than the one before,
so there are no more of them than the path has bytes, and the empty one. -/
def ancestors (path : Path) : List Path := ancestorsUpTo (path.bytes.length + 1) path

/-! ### The steps of a path -/

/-- What one part of a path asks for: to stay, to go to the directory above, or to go to
what has a name. -/
inductive Step where
  | stay
  | up
  | name (name : Name)
deriving DecidableEq

/-- The step that a part asks for. -/
def Step.ofPart (part : Bytes) : Step :=
  if part == [dot] then .stay else if part == [dot, dot] then .up else .name part

/-- The steps of a path in order. Empty parts are none. -/
def steps (path : Path) : List Step :=
  ((Text.splitAt slash path.bytes).filter fun part => !part.isEmpty).map Step.ofPart

/-! ### Laws -/

/-- An absolute path, joined to anything, is itself. -/
theorem join_absolute (base path : Path) (absolute : path.isAbsolute = true) :
    base.join path = path := if_pos absolute

end Path

end Prebuild
