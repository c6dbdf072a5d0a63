/-
This file gives the settings of the generators: where each finds its input in the
source tree, what it looks for, and where its result belongs. The default values
describe the firmware tree as it is laid out.
-/

import Prebuild.Path

namespace Prebuild

/-- What to do with a call of a registration macro whose arguments do not fit. -/
inductive Policy where
  /-- Note the line and go on without it. -/
  | warn
  /-- Stop. -/
  | abort
deriving DecidableEq

/-- The stricter of two policies. -/
def Policy.stricter : Policy → Policy → Policy
  | .warn, other => other
  | .abort, _ => .abort

/-- A policy is at most as strict as another. -/
def Policy.AtMost (first second : Policy) : Prop := first.stricter second = second

/-- A marker of a hardware capability, with the build-variable lines it stands for. -/
structure FlagRule where
  /-- Looked for anywhere in each line of a header. -/
  marker : Text
  /-- Written in this order. -/
  assignments : List Text
deriving DecidableEq

/-- Where capability headers are and what they stand for. -/
structure HardwareSettings where
  /-- The directory with one header for each board. -/
  inputDirectory : Path := "hal/hw"
  inputExtension : Text := "h"
  /-- The directory that receives one fragment for each board. -/
  outputDirectory : Path := "hal/mk"
  outputExtension : Text := "d"
  /-- The rules in order: of those whose marker is in a line, the first counts. -/
  flags : List FlagRule :=
    [ ⟨"HW_MCU_STM32F405", ["HWMCU = STM32F405"]⟩,
      ⟨"HW_MCU_STM32F722", ["HWMCU = STM32F722"]⟩,
      ⟨"HW_HAVE_DRV_ON_PCB", ["OBJ_HAL_DRV = INCLUDE"]⟩,
      ⟨"HW_HAVE_USB_CDC_ACM", ["OBJ_HAL_USB = INCLUDE", "OBJ_LIB_CHERRY = INCLUDE"]⟩,
      ⟨"HW_HAVE_NETWORK_EPCAN", ["OBJ_HAL_CAN = INCLUDE", "OBJ_EPCAN = INCLUDE"]⟩ ]
deriving DecidableEq

/-- Where shell commands are registered and into which header they go. -/
structure ShellSettings where
  /-- The directories to scan, in this order and without what lies deeper. -/
  roots : List Path := [".", "app", "hal"]
  sourceExtension : Text := "c"
  macroName : Text := "SH_DEF"
  /-- The ending of the names of network drivers, whose commands are guarded. -/
  networkSuffix : Text := "epcan.c"
  networkGuard : Text := "HW_HAVE_NETWORK_EPCAN"
  output : Path := "shdefs.h"
deriving DecidableEq

/-- Where applications are and into which header they go. -/
structure ApplicationSettings where
  inputDirectory : Path := "app"
  sourceExtension : Text := "c"
  macroName : Text := "APP_DEF"
  output : Path := "app/apdefs.h"
deriving DecidableEq

/-- Where registers are defined and how their identifiers are written. -/
structure RegisterSettings where
  /-- The file with the table of registers. -/
  input : Path := "regfile.c"
  macroName : Text := "REG_DEF"
  /-- Written before each identifier. -/
  constantPrefix : Text := "ID_"
  /-- A directive is kept while fewer lines than this have passed since a definition. -/
  directiveWindow : UInt32 := 4
  /-- The lines taken to have passed before the table begins. -/
  initialDistance : UInt32 := 10
  output : Path := "regdefs.h"
  /-- The policy for register definitions: identifiers are numbered by position, so leaving
  one out would shift those after it. -/
  malformed : Policy := .abort
deriving DecidableEq

/-- All settings, with one section for each generator. -/
structure Settings where
  hardware : HardwareSettings := {}
  shell : ShellSettings := {}
  applications : ApplicationSettings := {}
  registers : RegisterSettings := {}
  /-- The policy for all macros; a section may be stricter. -/
  malformed : Policy := .warn
deriving DecidableEq

/-- The policy for register definitions under these settings: the stricter of the two. -/
def Settings.registerPolicy (settings : Settings) : Policy :=
  settings.malformed.stricter settings.registers.malformed

end Prebuild
