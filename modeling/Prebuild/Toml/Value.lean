/-
This file gives the values of a TOML document. A table is a list of entries in
the order in which the document first names their keys, since the first entry
that does not fit is the one a message is about.

A table or an array remembers how the document made it, because that decides what
a later part of the document may add to it.
-/

import Prebuild.Decimal.Binary64

namespace Prebuild.Toml

/-- How a document made a table or an array. -/
inductive Origin where
  /-- Written as a value, between brackets or braces. Nothing may be added to it. -/
  | literal
  /-- Opened by a header of its own. -/
  | headed
  /-- Opened only as what holds something with a header. -/
  | implied
  /-- Opened by a dotted key. -/
  | dotted
deriving DecidableEq, Inhabited

/-- A value of a document. A date or a time is kept as it is written. -/
inductive Value where
  | string (text : Text)
  | integer (number : Int)
  | float (number : Binary64)
  | boolean (truth : Bool)
  | moment (written : Text)
  | array (origin : Origin) (items : List Value)
  | table (origin : Origin) (entries : List (Text × Value))
deriving Inhabited

/-- The entries of a table, in order. -/
abbrev Entries := List (Text × Value)

/-- The word for the kind of a value. -/
def Value.kind : Value → Text
  | .string _ => "string"
  | .integer _ => "integer"
  | .float _ => "float"
  | .boolean _ => "boolean"
  | .moment _ => "datetime"
  | .array .headed _ => "array of tables"
  | .array _ _ => "array"
  | .table .literal _ => "inline table"
  | .table _ _ => "table"

/-- The value of a key, if the entries have the key. -/
def Entries.get? (entries : Entries) (key : Text) : Option Value :=
  (entries.find? fun entry => entry.1 == key).map Prod.snd

/-- The entries with another value for a key that they have. -/
def Entries.set (entries : Entries) (key : Text) (value : Value) : Entries :=
  entries.map fun entry => if entry.1 == key then (key, value) else entry

/-- The entries without a key. -/
def Entries.remove (entries : Entries) (key : Text) : Entries :=
  entries.filter fun entry => entry.1 != key

/-- The entries with a key that they do not have yet, at the end. -/
def Entries.add (entries : Entries) (key : Text) (value : Value) : Entries :=
  entries ++ [(key, value)]

end Prebuild.Toml
