/-
This file gives the sections of a configuration as schemas, and proves that reading a section
does not depend on the order of its keys.

The sections differ only in their keys and in what the values under them stand for. A schema says
this, and where the parts lie in the settings; the list of fields that a section is read by comes
from it. A section may also be given as an array, by position, and then order decides which item
is for which field. But an item can itself be reordered inside, so arrays are followed here too.
-/

import Prebuild.Configuration
import Prebuild.Proofs.Configuration.Values

namespace Prebuild.Configuration

open Toml (Value Entries Origin)

/-! ### The schemas of the sections -/

/-- The section on hardware. -/
def hardwareSchema : Schema HardwareSettings where
  slots := [
    ⟨Path, "input_dir", .path, HardwareSettings.inputDirectory,
      fun part settings => { settings with inputDirectory := part }, fun _ _ => rfl⟩,
    ⟨Text, "input_ext", .text, HardwareSettings.inputExtension,
      fun part settings => { settings with inputExtension := part }, fun _ _ => rfl⟩,
    ⟨Path, "output_dir", .path, HardwareSettings.outputDirectory,
      fun part settings => { settings with outputDirectory := part }, fun _ _ => rfl⟩,
    ⟨Text, "output_ext", .text, HardwareSettings.outputExtension,
      fun part settings => { settings with outputExtension := part }, fun _ _ => rfl⟩,
    ⟨List FlagRule, "flags", Kind.flagRule.listOf, HardwareSettings.flags,
      fun part settings => { settings with flags := part }, fun _ _ => rfl⟩ ]
  distinct := by decide
  independent := by simp [Slot.Independent]
  complete := by
    rintro ⟨⟩ ⟨⟩ same
    simpa using same

/-- The section on shell commands. -/
def shellSchema : Schema ShellSettings where
  slots := [
    ⟨List Path, "roots", Kind.path.listOf, ShellSettings.roots,
      fun part settings => { settings with roots := part }, fun _ _ => rfl⟩,
    ⟨Text, "source_ext", .text, ShellSettings.sourceExtension,
      fun part settings => { settings with sourceExtension := part }, fun _ _ => rfl⟩,
    ⟨Text, "macro_name", .text, ShellSettings.macroName,
      fun part settings => { settings with macroName := part }, fun _ _ => rfl⟩,
    ⟨Text, "network_file_suffix", .text, ShellSettings.networkSuffix,
      fun part settings => { settings with networkSuffix := part }, fun _ _ => rfl⟩,
    ⟨Text, "network_guard", .text, ShellSettings.networkGuard,
      fun part settings => { settings with networkGuard := part }, fun _ _ => rfl⟩,
    ⟨Path, "output", .path, ShellSettings.output,
      fun part settings => { settings with output := part }, fun _ _ => rfl⟩ ]
  distinct := by decide
  independent := by simp [Slot.Independent]
  complete := by
    rintro ⟨⟩ ⟨⟩ same
    simpa using same

/-- The section on applications. -/
def applicationSchema : Schema ApplicationSettings where
  slots := [
    ⟨Path, "input_dir", .path, ApplicationSettings.inputDirectory,
      fun part settings => { settings with inputDirectory := part }, fun _ _ => rfl⟩,
    ⟨Text, "source_ext", .text, ApplicationSettings.sourceExtension,
      fun part settings => { settings with sourceExtension := part }, fun _ _ => rfl⟩,
    ⟨Text, "macro_name", .text, ApplicationSettings.macroName,
      fun part settings => { settings with macroName := part }, fun _ _ => rfl⟩,
    ⟨Path, "output", .path, ApplicationSettings.output,
      fun part settings => { settings with output := part }, fun _ _ => rfl⟩ ]
  distinct := by decide
  independent := by simp [Slot.Independent]
  complete := by
    rintro ⟨⟩ ⟨⟩ same
    simpa using same

/-- The section on registers. -/
def registerSchema : Schema RegisterSettings where
  slots := [
    ⟨Path, "input", .path, RegisterSettings.input,
      fun part settings => { settings with input := part }, fun _ _ => rfl⟩,
    ⟨Text, "macro_name", .text, RegisterSettings.macroName,
      fun part settings => { settings with macroName := part }, fun _ _ => rfl⟩,
    ⟨Text, "prefix", .text, RegisterSettings.constantPrefix,
      fun part settings => { settings with constantPrefix := part }, fun _ _ => rfl⟩,
    ⟨UInt32, "directive_window", .count, RegisterSettings.directiveWindow,
      fun part settings => { settings with directiveWindow := part }, fun _ _ => rfl⟩,
    ⟨UInt32, "initial_distance", .count, RegisterSettings.initialDistance,
      fun part settings => { settings with initialDistance := part }, fun _ _ => rfl⟩,
    ⟨Path, "output", .path, RegisterSettings.output,
      fun part settings => { settings with output := part }, fun _ _ => rfl⟩,
    ⟨Policy, "malformed", .policy, RegisterSettings.malformed,
      fun part settings => { settings with malformed := part }, fun _ _ => rfl⟩ ]
  distinct := by decide
  independent := by simp [Slot.Independent]
  complete := by
    rintro ⟨⟩ ⟨⟩ same
    simpa using same

theorem hardwareSchema_fields : hardwareSchema.fields = hardwareFields := rfl

theorem shellSchema_fields : shellSchema.fields = shellFields := rfl

theorem applicationSchema_fields : applicationSchema.fields = applicationFields := rfl

theorem registerSchema_fields : registerSchema.fields = registerFields := rfl

/-! ### Sections as parts -/

section

variable {Record : Type} {schema : Schema Record} {expected : Text} {start result : Record}

/-- A section that is a table is taken to the record that its entries describe. -/
theorem record_table_eq_ok_iff {origin : Origin} {entries : Entries}
    (keys : entries.HaveDistinctKeys) :
    record expected schema.fields start (.table origin entries) = .ok result ↔
      schema.Describes start entries result :=
  schema.foldlM_takeEntry_eq_ok_iff keys

theorem Kind.decoder_of_reordered {Part : Type} (kind : Kind Part) {value other : Value}
    {part : Part} (reordered : value.Reordered other) (keys : value.HasDistinctKeys)
    (keys' : other.HasDistinctKeys) (decoded : kind.decoder value = .ok part) :
    kind.decoder other = .ok part :=
  (kind.decodes other part keys').mpr (kind.reordered value other part reordered keys keys'
    ((kind.decodes value part keys).mp decoded))

/-- Items taken by position may be reordered inside. The induction is on the slots, each of which
takes one item. -/
theorem takeItems_of_reordered {slots : List (Slot Record)} {items others : List Value}
    (reordered : List.Forall₂ Value.Reordered items others)
    (keys : ∀ item ∈ items, item.HasDistinctKeys) (keys' : ∀ item ∈ others, item.HasDistinctKeys)
    (taken : takeItems (slots.map Slot.field) items start = .ok result) :
    takeItems (slots.map Slot.field) others start = .ok result := by
  induction slots generalizing items others start with
  | nil => exact taken
  | cons slot rest inductionHypothesis =>
    cases reordered with
    | nil => exact taken
    | @cons item other _ _ here further =>
      obtain ⟨keysHere, keysFurther⟩ := List.forall_mem_cons.mp keys
      obtain ⟨keysHere', keysFurther'⟩ := List.forall_mem_cons.mp keys'
      obtain ⟨changed, assigned, takenFurther⟩ := bind_eq_ok_iff.mp taken
      obtain ⟨part, decoded, same⟩ := map_eq_ok_iff.mp assigned
      have decoded' := slot.kind.decoder_of_reordered here keysHere keysHere' decoded
      exact bind_eq_ok_iff.mpr ⟨changed, map_eq_ok_iff.mpr ⟨part, decoded', same⟩,
        inductionHypothesis further keysFurther keysFurther' takenFurther⟩

theorem record_of_reordered {value other : Value} (reordered : value.Reordered other)
    (keys : value.HasDistinctKeys) (keys' : other.HasDistinctKeys)
    (taken : record expected schema.fields start value = .ok result) :
    record expected schema.fields start other = .ok result := by
  have alike := reordered
  cases reordered with
  | same => exact taken
  | array =>
    exact takeItems_of_reordered alike.forall₂ (Toml.hasDistinctKeys_array_iff.mp keys)
      (Toml.hasDistinctKeys_array_iff.mp keys') taken
  | table =>
    rw [Toml.hasDistinctKeys_table_iff] at keys keys'
    have describes := (record_table_eq_ok_iff keys).mp taken
    exact (record_table_eq_ok_iff keys').mpr (describes.of_reordered alike keys keys')

end

/-- Sections, read over the defaults of a record. What a section stands for is what is read from
it: as an array, that is a matter of positions. -/
def Kind.record {Record : Type} (expected : Text) (schema : Schema Record) (start : Record) :
    Kind Record where
  decoder := Configuration.record expected schema.fields start
  Means value part := Configuration.record expected schema.fields start value = .ok part
  decodes _ _ _ := Iff.rfl
  reordered _ _ _ reordered keys keys' taken := record_of_reordered reordered keys keys' taken

/-- A whole configuration. -/
def settingsSchema : Schema Settings where
  slots := [
    ⟨HardwareSettings, "hardware", .record "struct HardwareConfig" hardwareSchema {},
      Settings.hardware, fun part settings => { settings with hardware := part }, fun _ _ => rfl⟩,
    ⟨ShellSettings, "shell", .record "struct ShellConfig" shellSchema {},
      Settings.shell, fun part settings => { settings with shell := part }, fun _ _ => rfl⟩,
    ⟨ApplicationSettings, "apps", .record "struct AppConfig" applicationSchema {},
      Settings.applications, fun part settings => { settings with applications := part },
      fun _ _ => rfl⟩,
    ⟨RegisterSettings, "registers", .record "struct RegisterConfig" registerSchema {},
      Settings.registers, fun part settings => { settings with registers := part },
      fun _ _ => rfl⟩,
    ⟨Policy, "malformed", .policy, Settings.malformed,
      fun part settings => { settings with malformed := part }, fun _ _ => rfl⟩ ]
  distinct := by decide
  independent := by simp [Slot.Independent]
  complete := by
    rintro ⟨⟩ ⟨⟩ same
    simpa using same

theorem settingsSchema_fields : settingsSchema.fields = settingsFields := by
  rw [settingsFields, ← hardwareSchema_fields, ← shellSchema_fields, ← applicationSchema_fields,
    ← registerSchema_fields]
  rfl

/-- The settings that the entries of a document describe, and no others, are decoded. -/
theorem decode_eq_ok_iff {entries : Entries} {settings : Settings}
    (keys : entries.HaveDistinctKeys) :
    decode entries = .ok settings ↔ settingsSchema.Describes {} entries settings := by
  rw [decode, ← settingsSchema_fields]
  exact settingsSchema.foldlM_takeEntry_eq_ok_iff keys

end Prebuild.Configuration
