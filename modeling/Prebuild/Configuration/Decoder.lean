/-
This file turns values of a TOML document into the parts that settings are made
of: texts, paths, numbers, policies, flag rules, and sections.

A section is described by its fields in order. Read from a table, it takes the
entries as the document orders them, and refuses a key that is none of the
fields; read from an array, it takes the items as values of the fields in their
own order. Either way it starts from the defaults, so a field that the document
does not mention keeps its default.
-/

import Prebuild.Configuration.Mismatch
import Prebuild.Settings

namespace Prebuild.Configuration

open Toml (Value Entries)

/-- A decoder gives what a value stands for, or why it cannot. -/
abbrev Decoder (Result : Type) := Value → Except Mismatch Result

/-- What a message says was found in the place of something else. -/
def Found.ofValue : Value → Found
  | .string text => .string text
  | .integer number => .integer number
  | .float number => .float number
  | .boolean truth => .boolean truth
  | .moment _ => .map
  | .array _ _ => .sequence
  | .table _ _ => .map

/-- The mismatch for a value of the wrong kind. -/
def wrongKind {Result : Type} (value : Value) (expected : Text) : Except Mismatch Result :=
  .error (.wrongKind (Found.ofValue value) expected)

/-! ### Single values -/

/-- A text is a string. -/
def text : Decoder Text
  | .string text => .ok text
  | value => wrongKind value "a string"

/-- A path is a string. -/
def path : Decoder Path
  | .string text => .ok (.ofText text)
  | value => wrongKind value "path string"

/-- A count is a whole number that fits into 32 bits. -/
def count : Decoder UInt32
  | .integer number =>
    if 0 ≤ number ∧ number < 4294967296 then .ok (UInt32.ofNat number.toNat)
    else .error (.outOfRange number "u32")
  | value => wrongKind value "u32"

/-- A list is an array, decoded item by item. -/
def listOf {Result : Type} (item : Decoder Result) : Decoder (List Result)
  | .array _ items => items.mapM item
  | value => wrongKind value "a sequence"

/-! ### Policies -/

/-- The names of the policies. -/
def policyNames : List Text := ["warn", "abort"]

/-- The policy that has the given name. -/
def policyNamed (name : Text) : Except Mismatch Policy :=
  if name = "warn".toList then .ok .warn
  else if name = "abort".toList then .ok .abort
  else .error (.unknownChoice name policyNames)

/-- The value in a table that names a choice says nothing, so it must be empty. -/
def emptyChoice : Value → Except Mismatch Unit
  | .array .headed items => if items.isEmpty then .ok () else .error (.choiceNotEmpty "array")
  | .array _ items => if items.isEmpty then .ok () else .error (.choiceNotEmpty "table")
  | .table _ entries => if entries.isEmpty then .ok () else .error (.choiceNotEmpty "table")
  | value => .error (.choiceValue value.kind)

/-- A policy is its name, or a table whose only key is the name. -/
def policy : Decoder Policy
  | .string name => policyNamed name
  | .table _ [] => .error .noChoice
  | .table _ [(name, value)] => do
    let named ← policyNamed name
    emptyChoice value
    return named
  | .table _ _ => .error .severalChoices
  | _ => .error .notAChoice

/-! ### Flag rules -/

/-- How a message names what a flag rule should have been. -/
def flagRuleName : Text := "struct FlagRule"

/-- The two parts of a rule, as far as a table has given them. -/
structure PartialRule where
  marker : Option Text := none
  assignments : Option (List Text) := none

/-- Takes one entry of a rule's table; a key that is no part of a rule is passed over. -/
def PartialRule.take (rule : PartialRule) (entry : Text × Value) : Except Mismatch PartialRule :=
  if entry.1 = "marker".toList then do
    return { rule with marker := some (← text entry.2) }
  else if entry.1 = "assignments".toList then do
    return { rule with assignments := some (← listOf text entry.2) }
  else .ok rule

/-- A rule once its table has been read: both parts must be there. -/
def PartialRule.complete (rule : PartialRule) : Except Mismatch FlagRule :=
  match rule.marker, rule.assignments with
  | some marker, some assignments => .ok ⟨marker, assignments⟩
  | none, _ => .error (.missingField "marker")
  | some _, none => .error (.missingField "assignments")

/-- A flag rule is a table with a marker and assignments, or an array of these two. -/
def flagRule : Decoder FlagRule
  | .table _ entries => do
    let rule ← entries.foldlM PartialRule.take {}
    rule.complete
  | .moment _ => ({} : PartialRule).complete
  | .array _ [] => .error (.tooShort 0 (flagRuleName ++ " with 2 elements"))
  | .array _ [marker] => do
    let _ ← text marker
    .error (.tooShort 1 (flagRuleName ++ " with 2 elements"))
  | .array _ (marker :: assignments :: _) => do
    let marker ← text marker
    return ⟨marker, ← listOf text assignments⟩
  | value => wrongKind value flagRuleName

/-! ### Sections -/

/-- A field of a section: its key, and how a value for it changes the section. -/
structure Field (Record : Type) where
  name : Text
  assign : Value → Record → Except Mismatch Record

/-- A field that is decoded by itself and then put in its place. -/
def Field.of {Record Part : Type} (name : Text) (decoder : Decoder Part)
    (put : Part → Record → Record) : Field Record :=
  ⟨name, fun value record => (decoder value).map fun part => put part record⟩

/-- Takes one entry of a section's table. -/
def takeEntry {Record : Type} (fields : List (Field Record)) (record : Record)
    (entry : Text × Value) : Except Mismatch Record :=
  match fields.find? fun field => field.name == entry.1 with
  | some field => field.assign entry.2 record
  | none => .error (.unknownField entry.1 (fields.map Field.name))

/-- Takes the items of a section's array, each for the field in its place. Fields without
an item keep their value, items without a field are passed over. -/
def takeItems {Record : Type} (fields : List (Field Record)) (items : List Value)
    (record : Record) : Except Mismatch Record :=
  (fields.zip items).foldlM (fun record pair => pair.1.assign pair.2 record) record

/-- The key under which a date or a time passes for a table. -/
def momentKey : Text := "$__toml_private_datetime"

/-- A section with the given fields, read over the given record. -/
def record {Record : Type} (expected : Text) (fields : List (Field Record)) (start : Record) :
    Decoder Record
  | .table _ entries => entries.foldlM (takeEntry fields) start
  | .array _ items => takeItems fields items start
  | .moment _ => .error (.unknownField momentKey (fields.map Field.name))
  | value => wrongKind value expected

end Prebuild.Configuration
