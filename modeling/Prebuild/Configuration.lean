/-
This file reads configurations: TOML documents that override parts of the
default settings. A document has one table for each generator and a policy for
all of them; every key may be left out, and then the default stands.
-/

import Prebuild.Configuration.Decoder
import Prebuild.Toml.Document

namespace Prebuild.Configuration

/-- The fields of the section on hardware. -/
def hardwareFields : List (Field HardwareSettings) :=
  [ .of "input_dir" path fun part settings => { settings with inputDirectory := part },
    .of "input_ext" text fun part settings => { settings with inputExtension := part },
    .of "output_dir" path fun part settings => { settings with outputDirectory := part },
    .of "output_ext" text fun part settings => { settings with outputExtension := part },
    .of "flags" (listOf flagRule) fun part settings => { settings with flags := part } ]

/-- The fields of the section on shell commands. -/
def shellFields : List (Field ShellSettings) :=
  [ .of "roots" (listOf path) fun part settings => { settings with roots := part },
    .of "source_ext" text fun part settings => { settings with sourceExtension := part },
    .of "macro_name" text fun part settings => { settings with macroName := part },
    .of "network_file_suffix" text fun part settings => { settings with networkSuffix := part },
    .of "network_guard" text fun part settings => { settings with networkGuard := part },
    .of "output" path fun part settings => { settings with output := part } ]

/-- The fields of the section on applications. -/
def applicationFields : List (Field ApplicationSettings) :=
  [ .of "input_dir" path fun part settings => { settings with inputDirectory := part },
    .of "source_ext" text fun part settings => { settings with sourceExtension := part },
    .of "macro_name" text fun part settings => { settings with macroName := part },
    .of "output" path fun part settings => { settings with output := part } ]

/-- The fields of the section on registers. -/
def registerFields : List (Field RegisterSettings) :=
  [ .of "input" path fun part settings => { settings with input := part },
    .of "macro_name" text fun part settings => { settings with macroName := part },
    .of "prefix" text fun part settings => { settings with constantPrefix := part },
    .of "directive_window" count fun part settings => { settings with directiveWindow := part },
    .of "initial_distance" count fun part settings => { settings with initialDistance := part },
    .of "output" path fun part settings => { settings with output := part },
    .of "malformed" policy fun part settings => { settings with malformed := part } ]

/-- The fields of a whole configuration. -/
def settingsFields : List (Field Settings) :=
  [ .of "hardware" (record "struct HardwareConfig" hardwareFields {})
      fun part settings => { settings with hardware := part },
    .of "shell" (record "struct ShellConfig" shellFields {})
      fun part settings => { settings with shell := part },
    .of "apps" (record "struct AppConfig" applicationFields {})
      fun part settings => { settings with applications := part },
    .of "registers" (record "struct RegisterConfig" registerFields {})
      fun part settings => { settings with registers := part },
    .of "malformed" policy fun part settings => { settings with malformed := part } ]

/-- The settings that the entries of a document describe. -/
def decode (entries : Toml.Entries) : Except Mismatch Settings :=
  entries.foldlM (takeEntry settingsFields) {}

/-- The settings that a text describes. -/
def parse (text : Text) : Except Problem Settings :=
  match Toml.parse text with
  | none => .error .notToml
  | some entries => (decode entries).mapError .mismatch

end Prebuild.Configuration
