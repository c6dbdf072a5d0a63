/-
This file says in which ways the values of a configuration file can fail to be
settings, and what the message for each of them is. A mismatch is a cause; how it
is worded is decided here and nowhere else.
-/

import Prebuild.Toml.Value
import Prebuild.Decimal.Shortest
import Prebuild.Text.Quoted

namespace Prebuild.Configuration

/-- A value that was found where another kind of value was expected. Only what a message
shows of it is kept. -/
inductive Found where
  | string (text : Text)
  | integer (number : Int)
  | float (number : Binary64)
  | boolean (truth : Bool)
  | sequence
  | map
deriving DecidableEq

/-- A way in which a value is not what the settings need in its place. -/
inductive Mismatch where
  /-- A key that the section does not have, with those that it has. -/
  | unknownField (name : Text) (known : List Text)
  /-- A rule without one of its two keys. -/
  | missingField (name : Text)
  /-- A value of the wrong kind. -/
  | wrongKind (found : Found) (expected : Text)
  /-- A number out of range. -/
  | outOfRange (number : Int) (expected : Text)
  /-- A rule written as an array that ends too early. -/
  | tooShort (length : Nat) (expected : Text)
  /-- A name that is not one of the choices. -/
  | unknownChoice (name : Text) (known : List Text)
  /-- A choice that is neither a string nor a table. -/
  | notAChoice
  /-- A choice written as a table without a key. -/
  | noChoice
  /-- A choice written as a table with several keys. -/
  | severalChoices
  /-- A choice written as a table, whose value is neither a table nor an array. -/
  | choiceValue (kind : Text)
  /-- A choice written as a table, whose value is not empty. -/
  | choiceNotEmpty (kind : Text)
deriving DecidableEq

/-- A word between the marks that a message puts around names and numbers. -/
def marked (word : Text) : Text := "\x60" ++ word ++ "\x60"

/-- The decimal form of a whole number. -/
def integerText (number : Int) : Text :=
  if number < 0 then '-' :: Text.ofNat number.natAbs else Text.ofNat number.natAbs

/-- How a message names a value that was found. -/
def Found.text : Found → Text
  | .string text => "string " ++ Text.quoted text
  | .integer number => "integer " ++ marked (integerText number)
  | .float number => "floating point " ++ marked number.text
  | .boolean truth => "boolean " ++ marked (if truth then "true" else "false")
  | .sequence => "sequence"
  | .map => "map"

/-- How a message lists names of which one was expected. -/
def oneOf : List Text → Text
  | [first, second] => marked first ++ " or " ++ marked second
  | names => "one of " ++ Text.joinWith ", " (names.map marked)

/-- The message for a mismatch. -/
def Mismatch.message : Mismatch → Text
  | .unknownField name known => "unknown field " ++ marked name ++ ", expected " ++ oneOf known
  | .missingField name => "missing field " ++ marked name
  | .wrongKind found expected => "invalid type: " ++ found.text ++ ", expected " ++ expected
  | .outOfRange number expected =>
    "invalid value: integer " ++ marked (integerText number) ++ ", expected " ++ expected
  | .tooShort length expected =>
    "invalid length " ++ Text.ofNat length ++ ", expected " ++ expected
  | .unknownChoice name known =>
    "unknown variant " ++ marked name ++ ", expected " ++ oneOf known
  | .notAChoice => "wanted string or table"
  | .noChoice => "wanted exactly 1 element, found 0 elements"
  | .severalChoices => "wanted exactly 1 element, more than 1 element"
  | .choiceValue kind => "expected table, found " ++ kind
  | .choiceNotEmpty kind => "expected empty " ++ kind

/-- Why a text is not a configuration. -/
inductive Problem where
  /-- The text is not a TOML document. -/
  | notToml
  /-- The document does not describe settings. -/
  | mismatch (mismatch : Mismatch)
deriving DecidableEq

end Prebuild.Configuration
