/-
This file recognises the calls of registration macros in source lines.

A line calls the macro if it consists of layout characters, the name, an opening
parenthesis, at least one character, and a closing parenthesis somewhere after
that. What follows the opening parenthesis is then read by an argument parser;
if that fails, the call is malformed. The two argument parsers here stop at the
first character that cannot belong to a component, and never go back, which loses
nothing since no component may hold the character that ends it.
-/

import Prebuild.Text.Word

namespace Prebuild

/-- What a line is, seen as a possible call of one macro. -/
inductive MacroCall where
  /-- A call whose argument has been read. -/
  | matched (argument : Text)
  /-- Not a call of the macro. -/
  | notACall
  /-- A call of the macro with arguments that do not fit. -/
  | malformed
deriving DecidableEq

namespace MacroCall

/-- The characters that may stand before a macro's name and between its arguments: space,
tab, carriage return and line feed. -/
def isLayout (character : Char) : Bool :=
  character == ' ' || character == '\t' || character == '\r' || character == '\n'

/-- An argument parser gives the argument's value and what follows it, or nothing. -/
abbrev ArgumentParser := Text → Option (Text × Text)

/-- What follows the opening parenthesis, for a line that calls the macro. -/
def openCall? (name line : Text) : Option Text :=
  match Text.afterStart? (name ++ ['(']) (line.dropWhile isLayout) with
  | some (first :: rest) => if rest.contains ')' then some (first :: rest) else none
  | _ => none

/-- Reads a line as a call of the named macro. -/
def classify (name : Text) (arguments : ArgumentParser) (line : Text) : MacroCall :=
  match openCall? name line with
  | none => .notACall
  | some text =>
    match arguments text with
    | some (argument, _) => .matched argument
    | none => .malformed

/-! ### Argument parsers -/

/-- One identifier, directly followed by the closing parenthesis. -/
def bareIdentifier : ArgumentParser := fun text =>
  match text.takeWhile Text.isWord, text.dropWhile Text.isWord with
  | first :: identifier, ')' :: rest => some (first :: identifier, rest)
  | _, _ => none

/-- The two components at the beginning of a register definition, each ended by a comma;
their value is the one written after the other. Layout may precede the second component,
which may be empty, but nothing may precede the first, which may not. -/
def registerComponents : ArgumentParser := fun text =>
  match text.takeWhile Text.isDotted, text.dropWhile Text.isDotted with
  | first :: component, ',' :: afterFirst =>
    let second := afterFirst.dropWhile isLayout
    match second.dropWhile Text.isDotted with
    | ',' :: rest => some (first :: component ++ second.takeWhile Text.isDotted, rest)
    | _ => none
  | _, _ => none

end MacroCall

end Prebuild
