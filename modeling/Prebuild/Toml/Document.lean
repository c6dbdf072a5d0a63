/-
This file reads a TOML document and builds the table that it describes.

A document is a sequence of lines: a key with a value, a header that opens a
table, or one that adds a table to an array. Keys and headers may be dotted, and
then they lead through tables that are opened on the way. What may be opened twice
follows from how it was opened: a table that came about on the way to another may
get a header of its own once, and moves to the end of its parent then; a table
opened by dotted keys takes further dotted keys but no header; a table with a
header takes keys only under that header; and what is written as a value is
complete.
-/

import Prebuild.Toml.Scalar

namespace Prebuild.Toml

open Reader

/-! ### Building tables -/

/-- Applies a change to the last table of an array of tables. -/
def changeLast (change : Entries → Option Entries) : List Value → Option (List Value)
  | [] => none
  | [.table origin entries] => (change entries).map fun changed => [.table origin changed]
  | [_] => none
  | first :: second :: rest =>
    (changeLast change (second :: rest)).map fun changed => first :: changed

/-- Adds a key with a value, through the tables that the parts before the last part of a
dotted key lead to. These are opened if they are new; otherwise the last of them must have
been opened by a dotted key, and no other by a header. -/
def insertKey (last : Text) (value : Value) : List Text → Entries → Option Entries
  | [], entries => if (entries.get? last).isSome then none else some (entries.add last value)
  | part :: path, entries =>
    match entries.get? part with
    | none =>
      (insertKey last value path []).map fun inner => entries.add part (.table .dotted inner)
    | some (.table .dotted inner) =>
      (insertKey last value path inner).map fun changed =>
        entries.set part (.table .dotted changed)
    | some (.table .implied inner) =>
      if path.isEmpty then none
      else (insertKey last value path inner).map fun changed =>
        entries.set part (.table .implied changed)
    | some (.array .headed items) =>
      if path.isEmpty then none
      else (changeLast (insertKey last value path) items).map fun changed =>
        entries.set part (.array .headed changed)
    | some _ => none

/-- Adds the given keys with their values one after the other. -/
def insertKeys (pairs : List (List Text × Value)) (entries : Entries) : Option Entries :=
  pairs.foldlM (fun entries pair =>
    match pair.1.getLast? with
    | some last => insertKey last pair.2 pair.1.dropLast entries
    | none => none) entries

/-- Applies a change to the table that the parts of a header lead to. Tables that are new
are opened on the way, and an array of tables leads to its last table. -/
def changeAt (change : Entries → Option Entries) : List Text → Entries → Option Entries
  | [], entries => change entries
  | part :: path, entries =>
    match entries.get? part with
    | none => (changeAt change path []).map fun inner => entries.add part (.table .implied inner)
    | some (.table .literal _) => none
    | some (.table origin inner) =>
      (changeAt change path inner).map fun changed => entries.set part (.table origin changed)
    | some (.array .headed items) =>
      (changeLast (changeAt change path) items).map fun changed =>
        entries.set part (.array .headed changed)
    | some _ => none

/-- A header with the keys under it. -/
structure Section where
  path : List Text
  /-- Whether the header adds a table to an array. -/
  adds : Bool
  pairs : List (List Text × Value)

/-- Opens the table of a section's header in its parent and fills it. -/
def Section.openIn (part : Section) (name : Text) (parent : Entries) : Option Entries :=
  match part.adds, parent.get? name with
  | false, none => do
    return parent.add name (.table .headed (← insertKeys part.pairs []))
  | false, some (.table .implied inner) => do
    return (parent.remove name).add name (.table .headed (← insertKeys part.pairs inner))
  | true, none => do
    return parent.add name (.array .headed [.table .headed (← insertKeys part.pairs [])])
  | true, some (.array .headed items) => do
    let added := Value.table .headed (← insertKeys part.pairs [])
    return parent.set name (.array .headed (items ++ [added]))
  | _, _ => none

/-- Adds a section to a document. -/
def Section.insert (document : Entries) (part : Section) : Option Entries :=
  match part.path.getLast? with
  | some name => changeAt (part.openIn name) part.path.dropLast document
  | none => none

/-! ### Reading values -/

/-- Reads a value. The number says how many arrays and tables, written as values, may still
lie in one another. -/
def value : Nat → Reader Value
  | 0 => scalar
  | depth + 1 =>
    let array : Reader Value := do
      exactly ['[']
      let comma := exactly [',']
      let items ← separated comma (spacesAndLines *> value depth <* spacesAndLines)
      if !items.isEmpty then discard (maybe comma)
      spacesAndLines
      exactly [']']
      return .array .literal items
    let table : Reader Value := do
      exactly ['\x7b']
      let pair : Reader (List Text × Value) := do
        let path ← key
        exactly ['=']
        spaces
        let value ← value depth
        spaces
        return (path, value)
      let pairs ← separated (exactly [',']) pair
      spaces
      exactly ['\x7d']
      match insertKeys pairs [] with
      | some entries => return .table .literal entries
      | none => failure
    array <|> table <|> scalar

/-! ### Reading documents -/

/-- Reads a line with a key and a value. -/
def pairLine : Reader (List Text × Value) := do
  let path ← key
  exactly ['=']
  spaces
  let value ← value deepest
  lineTrailing
  return (path, value)

/-- Reads what may stand before a line that counts: blanks, line ends and whole comments. -/
def blankLines : Reader Unit :=
  discard (many (discard (span1 isSpace) <|> newline <|> (comment *> (newline <|> atEnd))))

/-- Reads the lines with keys up to the next header. -/
def pairLines : Reader (List (List Text × Value)) :=
  blankLines *> many (pairLine <* blankLines)

/-- Reads a header with the lines under it. -/
def sectionLines : Reader Section := do
  let brackets ← (exactly ['[', '['] *> pure true) <|> (exactly ['['] *> pure false)
  let path ← key
  exactly (if brackets then [']', ']'] else [']'])
  lineTrailing
  return { path := path, adds := brackets, pairs := ← pairLines }

/-- The entries of the table that a document describes, unless it is not a document. A byte
order mark may precede it. -/
def parse (text : Text) : Option Entries := do
  let content := (Text.afterStart? ['\uFEFF'] text).getD text
  let ((pairs, sections), _) ← ((do
    let pairs ← pairLines
    let sections ← many sectionLines
    atEnd
    return (pairs, sections)) : Reader _) content
  sections.foldlM Section.insert (← insertKeys pairs [])

end Prebuild.Toml
