/-
This file gives the readers that the grammar of TOML is put together from. A
reader takes a beginning off a text and gives a value for it, or fails. It never
looks at what came before, so readers follow one another by handing on the rest.
-/

import Prebuild.Text

namespace Prebuild.Toml

/-- A reader gives a value and the rest of the text, or fails. -/
abbrev Reader := StateT Text Option

namespace Reader

/-- Reads one character of a class. -/
def next (holds : Char → Bool) : Reader Char := fun text =>
  match text with
  | character :: rest => if holds character then some (character, rest) else none
  | [] => none

/-- Reads the given characters. -/
def exactly (expected : Text) : Reader Unit := fun text =>
  (Text.afterStart? expected text).map fun rest => ((), rest)

/-- Reads all characters of a class that come next, possibly none. -/
def span (holds : Char → Bool) : Reader Text := fun text =>
  some (text.takeWhile holds, text.dropWhile holds)

/-- Reads all characters of a class that come next, at least one. -/
def span1 (holds : Char → Bool) : Reader Text := do
  let first ← next holds
  return first :: (← span holds)

/-- Reads a given number of characters of a class. -/
def exactCount (holds : Char → Bool) : Nat → Reader Text
  | 0 => pure []
  | count + 1 => do
    let first ← next holds
    return first :: (← exactCount holds count)

/-- Reads nothing, and fails at the end of the text. -/
def look : Reader Char := fun text => text.head?.map fun first => (first, text)

/-- Reads nothing, and fails unless the given characters come next. -/
def lookFor (expected : Text) : Reader Unit := fun text =>
  if expected.isPrefixOf text then some ((), text) else none

/-- Reads nothing, and fails unless the text has ended. -/
def atEnd : Reader Unit := fun text => if text.isEmpty then some ((), text) else none

/-- Reads with the reader, or reads nothing where it fails. -/
def maybe {Result : Type} (reader : Reader Result) : Reader (Option Result) := fun text =>
  match reader text with
  | some (result, rest) => some (some result, rest)
  | none => some (none, text)

/-- Reads with the reader again and again until it fails, at most the given number of times. -/
def upTo {Result : Type} (reader : Reader Result) : Nat → Reader (List Result)
  | 0 => pure []
  | count + 1 => fun text =>
    match reader text with
    | some (result, rest) =>
      (upTo reader count rest).map fun others => (result :: others.1, others.2)
    | none => some ([], text)

/-- Reads with the reader again and again until it fails. A reader that takes at least one
character each time can succeed no more often than the text has characters. -/
def many {Result : Type} (reader : Reader Result) : Reader (List Result) := fun text =>
  upTo reader text.length text

/-- Reads with the reader one or more times, with a separator in between. -/
def separated1 {Result : Type} (separator : Reader Unit) (reader : Reader Result) :
    Reader (List Result) := do
  let first ← reader
  let others ← many (separator *> reader)
  return first :: others

/-- Reads with the reader any number of times, with a separator in between. -/
def separated {Result : Type} (separator : Reader Unit) (reader : Reader Result) :
    Reader (List Result) :=
  separated1 separator reader <|> pure []

end Reader

end Prebuild.Toml
