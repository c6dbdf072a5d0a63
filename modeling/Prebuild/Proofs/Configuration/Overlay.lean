/-
This file proves that a configuration is an overlay on the default settings.

The statement is for documents whose sections are tables, as they are meant to be. Such a document
is accepted exactly with the settings that it lays over the defaults, in whatever order it has its
keys, and one that has a key too many, a count that does not fit, or a flag rule that is not whole
is refused, whatever else it says.
-/

import Mathlib
import Prebuild.Proofs.Configuration.Sections
import Prebuild.Proofs.Disk.Inputs

namespace Prebuild.Configuration

open Toml (Value Entries Origin)

/-! ### Documents laid over the defaults -/

/-- The four sections, with the keys that each may have. -/
def sectionKeys : List (Text × List Text) :=
  [ ("hardware", hardwareSchema.names), ("shell", shellSchema.names),
    ("apps", applicationSchema.names), ("registers", registerSchema.names) ]

/-- The sections that a document has are tables. -/
def SectionsAreTables (document : Entries) : Prop :=
  ∀ name ∈ sectionKeys.map Prod.fst, ∀ value, document.get? name = some value →
    ∃ origin entries, value = .table origin entries

theorem SectionsAreTables.of_forall {document : Entries}
    (tables : ∀ entry ∈ document, entry.1 ∈ sectionKeys.map Prod.fst →
      ∃ origin entries, entry.2 = .table origin entries) : SectionsAreTables document :=
  fun _ inside _ found => tables _ (Entries.mem_of_get? found) inside

/-- A value is a table that describes a record, laid over its default. -/
def Schema.IsTable {Record : Type} (schema : Schema Record) (default : Record) (value : Value)
    (part : Record) : Prop :=
  ∃ origin entries, value = .table origin entries ∧ schema.Describes default entries part

/-- The settings are the default settings with the document laid over them. -/
structure Overlays (document : Entries) (settings : Settings) : Prop where
  known : ∀ entry ∈ document, entry.1 ∈ settingsSchema.names
  hardware : Overlaid document "hardware" (hardwareSchema.IsTable {}) {} settings.hardware
  shell : Overlaid document "shell" (shellSchema.IsTable {}) {} settings.shell
  applications : Overlaid document "apps" (applicationSchema.IsTable {}) {} settings.applications
  registers : Overlaid document "registers" (registerSchema.IsTable {}) {} settings.registers
  malformed : Overlaid document "malformed" IsPolicy .warn settings.malformed

/-- A document that cannot be a configuration. -/
inductive Faulty (document : Entries) : Prop
  /-- It has a key that is neither a section nor the policy. -/
  | strange {entry : Text × Value} (member : entry ∈ document)
    (unknown : entry.1 ∉ settingsSchema.names)
  /-- One of its sections has a key that is not one of the section's. -/
  | strangeInSection {name : Text} {known : List Text} {origin : Origin} {entries : Entries}
    {entry : Text × Value} (isSection : (name, known) ∈ sectionKeys)
    (found : document.get? name = some (.table origin entries)) (member : entry ∈ entries)
    (unknown : entry.1 ∉ known)
  /-- The value for one of the two counts is no whole number that fits into 32 bits. -/
  | outOfRange {key : Text} {origin : Origin} {entries : Entries} {value : Value}
    (isCount : key ∈ (["directive_window", "initial_distance"] : List Text))
    (found : document.get? "registers" = some (.table origin entries))
    (present : entries.get? key = some value)
    (outside : ∀ number, value = .integer number → number < 0 ∨ UInt32.size ≤ number)
  /-- A flag rule that is a table lacks its marker or its assignments. -/
  | partialRule {origin inner innermost : Origin} {entries rule : Entries} {rules : List Value}
    (found : document.get? "hardware" = some (.table origin entries))
    (flags : entries.get? "flags" = some (.array inner rules))
    (member : Value.table innermost rule ∈ rules)
    (lacks : rule.get? "marker" = none ∨ rule.get? "assignments" = none)

/-! ### Sections that are tables -/

section

variable {Record : Type} {schema : Schema Record} {default part : Record} {document : Entries}
  {name : Text}

/-- What a section means as a part of the settings is what it means as a table. -/
theorem overlaid_record_iff {expected : Text} (keys : document.HaveDistinctKeys)
    (table : ∀ value, document.get? name = some value → ∃ origin entries,
      value = .table origin entries) :
    Overlaid document name (Kind.record expected schema default).Means default part ↔
      Overlaid document name (schema.IsTable default) default part := by
  refine overlaid_congr fun value found => ?_
  obtain ⟨origin, entries, rfl⟩ := table value found
  have keysInside := Toml.hasDistinctKeys_table_iff.mp (keys.get? found)
  refine (record_table_eq_ok_iff keysInside).trans ⟨fun describes => ?_, ?_⟩
  · exact ⟨origin, entries, rfl, describes⟩
  · rintro ⟨_, _, same, describes⟩
    obtain ⟨-, rfl⟩ := Value.table.inj same
    exact describes

theorem describes_of_get? {origin : Origin} {entries : Entries}
    (overlaid : Overlaid document name (schema.IsTable default) default part)
    (found : document.get? name = some (.table origin entries)) :
    schema.Describes default entries part := by
  obtain ⟨_, _, same, describes⟩ := (overlaid_iff_of_get? found).mp overlaid
  obtain ⟨-, rfl⟩ := Value.table.inj same
  exact describes

end

variable {document : Entries} {settings : Settings}

theorem decode_eq_ok_iff_overlays (keys : document.HaveDistinctKeys)
    (tables : SectionsAreTables document) :
    decode document = .ok settings ↔ Overlays document settings := by
  rw [decode_eq_ok_iff keys]
  have hardwareTable := tables "hardware" (by decide)
  have shellTable := tables "shell" (by decide)
  have applicationTable := tables "apps" (by decide)
  have registerTable := tables "registers" (by decide)
  constructor
  · intro describes
    obtain ⟨hardware, others⟩ := List.forall_mem_cons.mp describes.parts
    obtain ⟨shell, others⟩ := List.forall_mem_cons.mp others
    obtain ⟨applications, others⟩ := List.forall_mem_cons.mp others
    obtain ⟨registers, others⟩ := List.forall_mem_cons.mp others
    have malformed := List.forall_mem_singleton.mp others
    exact {
      known := describes.known
      hardware := (overlaid_record_iff keys hardwareTable).mp hardware
      shell := (overlaid_record_iff keys shellTable).mp shell
      applications := (overlaid_record_iff keys applicationTable).mp applications
      registers := (overlaid_record_iff keys registerTable).mp registers
      malformed := malformed }
  · intro overlays
    refine ⟨overlays.known, List.forall_mem_cons.mpr ⟨?hardware, List.forall_mem_cons.mpr
      ⟨?shell, List.forall_mem_cons.mpr ⟨?applications, List.forall_mem_cons.mpr
        ⟨?registers, List.forall_mem_singleton.mpr overlays.malformed⟩⟩⟩⟩⟩
    case hardware => exact (overlaid_record_iff keys hardwareTable).mpr overlays.hardware
    case shell => exact (overlaid_record_iff keys shellTable).mpr overlays.shell
    case applications =>
      exact (overlaid_record_iff keys applicationTable).mpr overlays.applications
    case registers => exact (overlaid_record_iff keys registerTable).mpr overlays.registers

/-! ### Faulty documents -/

/-- In a section, no settings allow a key that is not one of the section's. -/
theorem Overlays.mem_of_section (overlays : Overlays document settings) {name : Text}
    {known : List Text} (isSection : (name, known) ∈ sectionKeys) {origin : Origin}
    {entries : Entries} (found : document.get? name = some (.table origin entries)) :
    ∀ entry ∈ entries, entry.1 ∈ known := by
  simp only [sectionKeys, List.mem_cons, Prod.mk.injEq, List.not_mem_nil, or_false] at isSection
  rcases isSection with ⟨rfl, rfl⟩ | ⟨rfl, rfl⟩ | ⟨rfl, rfl⟩ | ⟨rfl, rfl⟩
  · exact (describes_of_get? overlays.hardware found).known
  · exact (describes_of_get? overlays.shell found).known
  · exact (describes_of_get? overlays.applications found).known
  · exact (describes_of_get? overlays.registers found).known

/-- A faulty document is laid over no settings. -/
theorem Faulty.not_overlays (faulty : Faulty document) : ¬ Overlays document settings := by
  intro overlays
  cases faulty with
  | strange member unknown => exact unknown (overlays.known _ member)
  | strangeInSection isSection found member unknown =>
    exact unknown (overlays.mem_of_section isSection found _ member)
  | @outOfRange key origin entries value isCount found present outside =>
    have describes := describes_of_get? overlays.registers found
    have fits : ∃ part, IsCount value part := by
      simp only [List.mem_cons, List.not_mem_nil, or_false] at isCount
      rcases isCount with rfl | rfl
      · have window := describes.means (List.getElem_mem (n := 3) (by decide)) present
        exact ⟨_, window⟩
      · have distance := describes.means (List.getElem_mem (n := 4) (by decide)) present
        exact ⟨_, distance⟩
    obtain ⟨part, whole⟩ := fits
    have bound := part.toNat_lt_size
    have beyond := outside part.toNat whole
    omega
  | @partialRule origin inner innermost entries rule rules found flags member lacks =>
    have describes := describes_of_get? overlays.hardware found
    have areRules : IsListOf IsRule (.array inner rules) settings.hardware.flags :=
      describes.means (List.getElem_mem (n := 4) (by decide)) flags
    obtain ⟨part, isRule⟩ := areRules.exists_of_mem member
    cases isRule with
    | table foundMarker _ foundAssignments _ =>
      rcases lacks with noMarker | noAssignments
      · rw [noMarker] at foundMarker
        cases foundMarker
      · rw [noAssignments] at foundAssignments
        cases foundAssignments

/-! ### Texts -/

theorem parse_eq_ok_iff {text : Text} (parsed : Toml.parse text = some document) :
    parse text = .ok settings ↔ decode document = .ok settings := by
  rw [parse, parsed]
  exact mapError_eq_ok_iff

/-- A configuration is an overlay on the defaults. Settings are read from a document exactly if
they are what it lays over the defaults: each part is what the document says under its key, or
else its default. The order of keys decides nothing, and a faulty document is refused. -/
theorem configuration_overlays_defaults {text : Text} {document : Entries}
    (parsed : Toml.parse text = some document) (tables : SectionsAreTables document) :
    (∀ settings, parse text = .ok settings ↔ Overlays document settings) ∧
      (∀ otherText others origin origin', Toml.parse otherText = some others →
        (Value.table origin document).Reordered (.table origin' others) →
          ∀ settings, parse otherText = .ok settings ↔ parse text = .ok settings) ∧
      (Faulty document → ∃ mismatch, parse text = .error (.mismatch mismatch)) := by
  have keys := Toml.parse_haveDistinctKeys parsed
  have exactly (settings : Settings) : parse text = .ok settings ↔ Overlays document settings :=
    (parse_eq_ok_iff parsed).trans (decode_eq_ok_iff_overlays keys tables)
  refine ⟨exactly, ?order, ?faulty⟩
  case order =>
    intro otherText others origin origin' parsedOthers reordered settings
    have keys' := Toml.parse_haveDistinctKeys parsedOthers
    rw [parse_eq_ok_iff parsedOthers, parse_eq_ok_iff parsed, decode_eq_ok_iff keys',
      decode_eq_ok_iff keys]
    constructor
    · intro describes
      exact describes.of_reordered reordered.symm keys' keys
    · intro describes
      exact describes.of_reordered reordered keys keys'
  case faulty =>
    intro faulty
    cases decoded : decode document with
    | ok settings =>
      exact absurd ((decode_eq_ok_iff_overlays keys tables).mp decoded) faulty.not_overlays
    | error mismatch =>
      refine ⟨mismatch, ?_⟩
      rw [parse, parsed]
      exact congrArg (Except.mapError _) decoded

/-- A text that sets the policy, the directories to scan, and the rules for flags. -/
def partialText : Text :=
  "malformed = \"abort\"\n[shell]\nroots = [\"src\"]\n" ++
    "[[hardware.flags]]\nmarker = \"SPI\"\nassignments = []\n"

/-- The document that the partial text is. -/
def partialDocument : Entries :=
  [ ("malformed", .string "abort"),
    ("shell", .table .headed [("roots", .array .literal [.string "src"])]),
    ("hardware", .table .implied [("flags", .array .headed [
      .table .headed [("marker", .string "SPI"), ("assignments", .array .literal [])]])]) ]

/-- What the partial document lays over the defaults. -/
def partialSettings : Settings :=
  { malformed := .abort, shell := { roots := ["src"] }, hardware := { flags := [⟨"SPI", []⟩] } }

/-- A document that gives the section on registers a key that it does not have. -/
def windowDocument : Entries := [("registers", .table .headed [("window", .integer 3)])]

/-- A partial configuration leaves the defaults where it says nothing, and its sections may come
in either order; a key that the section on registers does not have is refused. -/
theorem configuration_overlays_defaults_partial :
    Overlays partialDocument partialSettings ∧
      parse ("malformed = \"abort\"\n[[hardware.flags]]\nmarker = \"SPI\"\nassignments = []\n" ++
        "[shell]\nroots = [\"src\"]\n") = .ok partialSettings ∧
      ∃ mismatch, parse "[registers]\nwindow = 3\n" = .error (.mismatch mismatch) := by
  have parsed : Toml.parse partialText = some partialDocument := by cbv
  have accepted : parse partialText = .ok partialSettings := by
    rw [parse, parsed]
    rfl
  have tables : SectionsAreTables partialDocument := .of_forall <| List.forall_mem_cons.mpr
    ⟨fun inside => absurd inside (by decide), List.forall_mem_cons.mpr
      ⟨fun _ => ⟨_, _, rfl⟩, List.forall_mem_singleton.mpr fun _ => ⟨_, _, rfl⟩⟩⟩
  obtain ⟨exactly, order, -⟩ := configuration_overlays_defaults parsed tables
  refine ⟨(exactly _).mp accepted, ?order, ?refused⟩
  case order =>
    refine (order _ _ .literal .literal (by cbv) (.of_perm (by decide) ?_) _).mpr accepted
    exact .cons _ (.swap _ _ _)
  case refused =>
    have parsed : Toml.parse "[registers]\nwindow = 3\n" = some windowDocument := by cbv
    have tables : SectionsAreTables windowDocument := .of_forall <|
      List.forall_mem_singleton.mpr fun _ => ⟨_, _, rfl⟩
    have isSection : ("registers".toList, registerSchema.names) ∈ sectionKeys := by decide
    have faulty : Faulty windowDocument :=
      .strangeInSection isSection rfl List.mem_cons_self (by decide)
    exact (configuration_overlays_defaults parsed tables).2.2 faulty

end Prebuild.Configuration
