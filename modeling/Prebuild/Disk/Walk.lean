/-
This file follows paths through a disk.

A walk takes the steps of a path one by one. Every step starts at a directory,
steps to a name follow a symbolic link at once, and the link's own steps then come
before those that are left. At most forty links are followed, which is what makes
a walk end. A path that leads to a name which its directory does not have ends in a
vacancy if the name is the last step: something could be created there.
-/

import Prebuild.Disk.Node
import Prebuild.Failure

namespace Prebuild

/-- Where a walk ends. -/
inductive Spot where
  /-- At something that is there. -/
  | taken (location : Location) (node : Node)
  /-- At a name that a directory does not have. -/
  | vacant (directory : Location) (name : Name)

/-- The end of a walk, and whether the name that led there was written with a slash after
it, which asks for a directory. -/
structure Arrival where
  spot : Spot
  slashed : Bool

/-- What a walk is for. -/
inductive Purpose where
  /-- To find what is there. A link at the end is followed. -/
  | find
  /-- To find an entry of a directory. A link at the end is the entry. -/
  | entry
  /-- To write a file. A link at the end is followed, and a name at the end with a slash
  after it is refused, as it asks for a directory. -/
  | write
deriving DecidableEq

/-- A symbolic link on a walk: the directory that it is in, what it stands for, and the
steps that are left. -/
structure Crossing where
  directory : Location
  target : Path
  rest : List Path.Step
  slashed : Bool

namespace Disk

/-- The greatest number of bytes of a name. -/
def longestName : Nat := 255

/-- The greatest number of bytes of a path. -/
def longestPath : Nat := 4095

/-- The greatest number of links on one walk. -/
def mostLinks : Nat := 40

/-- Walks the given steps from a location, up to the first link that has to be followed. -/
def walkSteps (disk : Disk) (purpose : Purpose) (slashed : Bool)
    (cross : Crossing → Except Fault Arrival) : List Path.Step → Location → Except Fault Arrival
  | [], location =>
    match disk.get? location with
    | some node => .ok ⟨.taken location node, slashed⟩
    | none => .error .notFound
  | step :: rest, location =>
    match disk.get? location with
    | none => .error .notFound
    | some (.directory entries) =>
      match step with
      | .stay => walkSteps disk purpose slashed cross rest location
      | .up => walkSteps disk purpose slashed cross rest location.dropLast
      | .name name =>
        if rest.isEmpty && slashed && purpose = .write then .error .isADirectory
        else if longestName < name.length then .error .nameTooLong
        else
          match Listing.get? entries name with
          | none => if rest.isEmpty then .ok ⟨.vacant location name, slashed⟩ else .error .notFound
          | some (.link target) =>
            if rest.isEmpty && purpose = .entry then
              .ok ⟨.taken (location ++ [name]) (.link target), slashed⟩
            else cross ⟨location, target, rest, slashed⟩
          | some _ => walkSteps disk purpose slashed cross rest (location ++ [name])
    | some _ => .error .notADirectory

/-- The location that the steps of a path start from. -/
def startOf (path : Path) (base : Location) : Location := if path.isAbsolute then [] else base

/-- Walks the given steps from a location, with at most the given number of links. -/
def walk (disk : Disk) (purpose : Purpose) :
    Nat → Bool → List Path.Step → Location → Except Fault Arrival
  | 0, slashed => walkSteps disk purpose slashed fun _ => .error .tooManyLinks
  | links + 1, slashed => walkSteps disk purpose slashed fun crossing =>
    walk disk purpose links
      (crossing.slashed || (crossing.rest.isEmpty && crossing.target.endsInSlash))
      (crossing.target.steps ++ crossing.rest) (startOf crossing.target crossing.directory)

/-- Walks a path. A path that no file can have is refused before the first step. -/
def arrive (disk : Disk) (purpose : Purpose) (path : Path) : Except Fault Arrival :=
  if path.bytes.contains 0 then .error .nulInPath
  else if path.bytes.isEmpty then .error .notFound
  else if longestPath < path.bytes.length then .error .nameTooLong
  else walk disk purpose mostLinks path.endsInSlash path.steps (startOf path disk.here)

/-- What a path leads to, with its location, links at the end of the path included. -/
def find (disk : Disk) (path : Path) : Except Fault (Location × Node) :=
  match disk.arrive .find path with
  | .ok ⟨.taken location node, slashed⟩ =>
    if slashed && !node.isDirectory then .error .notADirectory else .ok (location, node)
  | .ok ⟨.vacant .., _⟩ => .error .notFound
  | .error fault => .error fault

/-- Whether a path leads to a directory. -/
def isDirectory (disk : Disk) (path : Path) : Bool :=
  match disk.find path with
  | .ok (_, node) => node.isDirectory
  | .error _ => false

end Disk

end Prebuild
