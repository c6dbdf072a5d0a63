/-
This file brings the four generators together under one type, in the order in
which they run. They share nothing: each reads its own inputs from the source tree
and gives its own artifacts.
-/

import Prebuild.BoardFragment
import Prebuild.ShellHeader
import Prebuild.ApplicationHeader
import Prebuild.RegisterHeader

namespace Prebuild

/-- A generator. -/
inductive Generator where
  | boardFragments
  | shellCommands
  | applications
  | registerIdentifiers
deriving DecidableEq, Inhabited

namespace Generator

/-- All generators, in the order in which they run. -/
def all : List Generator := [boardFragments, shellCommands, applications, registerIdentifiers]

/-- The name of a generator, on the command line and in messages. -/
def name : Generator → Text
  | boardFragments => "hw-config"
  | shellCommands => "shell-registry"
  | applications => "app-registry"
  | registerIdentifiers => "register-ids"

/-- The generator that has a name. -/
def named? (name : Text) : Option Generator := all.find? fun generator => generator.name == name

/-- The directories that a generator lists, each with the extension that it asks for. -/
def listings (settings : Settings) : Generator → List (Path × Text)
  | boardFragments => [(settings.hardware.inputDirectory, settings.hardware.inputExtension)]
  | shellCommands => settings.shell.roots.map fun root => (root, settings.shell.sourceExtension)
  | applications =>
    [(settings.applications.inputDirectory, settings.applications.sourceExtension)]
  | registerIdentifiers => []

/-- The files that a generator reads, once it knows the files that it has listed. -/
def inputs (settings : Settings) (listed : List Path) : Generator → List Path
  | boardFragments | shellCommands => listed
  | applications => []
  | registerIdentifiers => [settings.registers.input]

/-- The artifacts of a generator. -/
def generate (settings : Settings) (source : Source) : Generator → Outcome (List Artifact)
  | boardFragments => BoardFragment.generate settings.hardware source
  | shellCommands => ShellHeader.generate settings.shell settings.malformed source
  | applications => ApplicationHeader.generate settings.applications source
  | registerIdentifiers =>
    RegisterHeader.generate settings.registers settings.registerPolicy source

end Generator

end Prebuild
