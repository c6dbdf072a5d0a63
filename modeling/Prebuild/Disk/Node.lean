/-
This file gives the file systems that the generators are run on in thought: trees
of directories, files and symbolic links. A disk is such a tree together with the
directory that relative paths start from.

A place in the tree is the list of names on the way to it from the top. Names of a
directory are meant to differ; where two are the same, the first one counts and
the others are out of reach.
-/

import Prebuild.Path

namespace Prebuild

/-- What a place holds. -/
inductive Node where
  | file (bytes : ByteArray)
  | directory (entries : List (Name × Node))
  /-- A symbolic link, with the path that it stands for. -/
  | link (target : Path)
deriving Inhabited

/-- The entries of a directory. -/
abbrev Listing := List (Name × Node)

/-- The names on the way from the top to a place. -/
abbrev Location := List Name

namespace Listing

/-- What has a name in a directory. -/
def get? (entries : Listing) (name : Name) : Option Node :=
  (entries.find? fun entry => entry.1 == name).map Prod.snd

/-- A directory with a node under a name, in the place of what has the name if something
has. -/
def set : Listing → Name → Node → Listing
  | [], name, node => [(name, node)]
  | entry :: entries, name, node =>
    if entry.1 == name then (name, node) :: entries else entry :: set entries name node

/-- A directory without what has a name. -/
def remove (entries : Listing) (name : Name) : Listing :=
  entries.filter fun entry => entry.1 != name

/-- Adds a name to ascending names, unless it is among them. -/
def insertName (name : Name) : List Name → List Name
  | [] => [name]
  | first :: rest =>
    if name < first then name :: first :: rest
    else if name = first then first :: rest
    else first :: insertName name rest

/-- The names in a directory, each once, in ascending order. They are compared byte by byte. -/
def names (entries : Listing) : List Name :=
  entries.foldr (fun entry => insertName entry.1) []

end Listing

namespace Node

/-- Whether a node is a directory. -/
def isDirectory : Node → Bool
  | directory _ => true
  | _ => false

/-- What is at a location below a node. -/
def get? : Node → Location → Option Node
  | node, [] => some node
  | directory entries, name :: location =>
    match Listing.get? entries name with
    | some child => child.get? location
    | none => none
  | _, _ :: _ => none

/-- Puts something at a location below a node. All but the last of the names must lead
through directories; otherwise nothing changes. -/
def set : Node → Location → Node → Node
  | _, [], new => new
  | directory entries, [name], new => directory (Listing.set entries name new)
  | directory entries, name :: location, new =>
    match Listing.get? entries name with
    | some child => directory (Listing.set entries name (child.set location new))
    | none => directory entries
  | node, _ :: _, _ => node

/-- Removes what is at a location below a node. -/
def remove : Node → Location → Node
  | directory entries, [name] => directory (Listing.remove entries name)
  | directory entries, name :: location =>
    match Listing.get? entries name with
    | some child => directory (Listing.set entries name (child.remove location))
    | none => directory entries
  | node, _ => node

mutual

/-- Everything below a node, each with its location, which starts with the given one. -/
def descendants (location : Location) : Node → List (Location × Node)
  | directory entries => entryDescendants location entries
  | _ => []

/-- The entries of a directory and everything below them. -/
def entryDescendants (location : Location) : List (Name × Node) → List (Location × Node)
  | [] => []
  | (name, node) :: entries =>
    (location ++ [name], node) :: descendants (location ++ [name]) node ++
      entryDescendants location entries

end

end Node

/-- A file system with the directory that relative paths start from. -/
structure Disk where
  /-- The directory that absolute paths start from. -/
  top : Node
  /-- The location of the directory that relative paths start from. -/
  here : Location
deriving Inhabited

namespace Disk

/-- What is at a location. -/
def get? (disk : Disk) (location : Location) : Option Node := disk.top.get? location

/-- The disk with something put at a location. -/
def set (disk : Disk) (location : Location) (node : Node) : Disk :=
  { disk with top := disk.top.set location node }

end Disk

end Prebuild
