/-
This file reads the command line.

Words are read from left to right, and the first that cannot be part of a command
decides that the command is refused, unless one before it asked for help or for the
version. The options may stand on either side of the generator's name, once on each
side; what stands after the name counts. The value of an option may be the next
word, and then it is looked at only when something else follows or the words end.
-/

import Prebuild.Generator

namespace Prebuild.CommandLine

/-- What help can be asked about. -/
inductive Topic where
  | program
  /-- The run of all generators. -/
  | everything
  | generator (generator : Generator)
  /-- The word that asks for help. -/
  | help
deriving DecidableEq

/-- A command that is carried out. -/
structure Command where
  /-- The one generator to run, if not all. -/
  only : Option Generator
  root : Path
  /-- The configuration file, if there is one. -/
  configuration : Option Path
  check : Bool
  strict : Bool
deriving DecidableEq

/-- What a command line asks for. -/
inductive Request where
  | help (topic : Topic)
  | version
  | run (command : Command)
  /-- Nothing that can be done. -/
  | refused
deriving DecidableEq

/-! ### Options -/

/-- An option with a value. -/
inductive ValueOption where
  | root
  | configuration
deriving DecidableEq

/-- The options given on one side of the generator's name. -/
structure Given where
  root : Option Text := none
  configuration : Option Text := none
  check : Bool := false
  strict : Bool := false
deriving DecidableEq

/-- The options of one side with the value of one more, unless it has a value already or the
value is empty. -/
def Given.set? (given : Given) (option : ValueOption) (value : Text) : Option Given :=
  if value.isEmpty then none
  else
    match option with
    | .root => if given.root.isSome then none else some { given with root := some value }
    | .configuration =>
      if given.configuration.isSome then none
      else some { given with configuration := some value }

/-- An option whose value has not been looked at yet, or has not even come. -/
structure Pending where
  option : ValueOption
  value : Option Text

/-- The state in the middle of one side. -/
structure Progress where
  given : Given := {}
  pending : Option Pending := none

/-- Looks at the value of the option that was left pending. -/
def Progress.settle? (progress : Progress) : Option Given :=
  match progress.pending with
  | none => some progress.given
  | some ⟨_, none⟩ => none
  | some ⟨option, some value⟩ => progress.given.set? option value

/-! ### Words -/

/-- What a word of the command line is. -/
inductive Word where
  /-- Two hyphens alone: only names follow. -/
  | endOfOptions
  /-- An option written out, with the value after an equals sign if there is one. -/
  | long (name : Text) (value : Option Text)
  /-- A letter after one hyphen. -/
  | short (letter : Char)
  | plain (word : Text)

/-- What follows the first equals sign of a text, if it has one. -/
def valueOf? : Text → Option Text
  | [] => none
  | character :: rest => if character = '=' then some rest else valueOf? rest

/-- Recognises a word. -/
def Word.of : Text → Word
  | ['-', '-'] => .endOfOptions
  | '-' :: '-' :: rest => .long (rest.takeWhile (· != '=')) (valueOf? rest)
  | '-' :: letter :: _ => .short letter
  | word => .plain word

/-- Where a side of the command line ends. -/
inductive Ending where
  /-- With the last word. -/
  | words (progress : Progress)
  /-- With the name of what to run. -/
  | name (progress : Progress) (only : Option Generator) (rest : List Text)
  | request (request : Request)

/-- The request, once the option left pending turns out to be all right. -/
def Progress.asking (progress : Progress) (request : Request) : Ending :=
  if progress.settle?.isSome then .request request else .request .refused

/-- What to run, by name. -/
def named? (word : Text) : Option (Option Generator) :=
  if word = "all".toList then some none else (Generator.named? word).map some

/-- The request made by the word for help and the words after it. -/
def helpOn : List Text → Request
  | [] => .help .program
  | [word] =>
    if word = "help".toList then .help .help
    else
      match named? word with
      | some none => .help .everything
      | some (some generator) => .help (.generator generator)
      | none => .refused
  | _ => .refused

/-- Takes an option written out. The topic is what help on this side is about. -/
def takeLong (topic : Topic) (progress : Progress) (name : Text) (value : Option Text) :
    Progress ⊕ Request :=
  let withValue (option : ValueOption) : Progress ⊕ Request :=
    match progress.settle?, value with
    | some given, none => .inl { given := given, pending := some ⟨option, none⟩ }
    | some given, some text =>
      match given.set? option text with
      | some complete => .inl { given := complete }
      | none => .inr .refused
    | none, _ => .inr .refused
  let asking (request : Request) : Progress ⊕ Request :=
    if value.isNone && progress.settle?.isSome then .inr request else .inr .refused
  if name = "root".toList then withValue .root
  else if name = "config".toList then withValue .configuration
  else if name = "check".toList then
    match progress.settle?, value with
    | some given, none =>
      if given.check then .inr .refused else .inl { given := { given with check := true } }
    | _, _ => .inr .refused
  else if name = "strict".toList then
    match progress.settle?, value with
    | some given, none =>
      if given.strict then .inr .refused else .inl { given := { given with strict := true } }
    | _, _ => .inr .refused
  else if name = "help".toList then asking (.help topic)
  else if name = "version".toList && topic = .program then asking .version
  else .inr .refused

/-- Takes a letter after one hyphen. -/
def takeShort (topic : Topic) (progress : Progress) (letter : Char) : Request :=
  if progress.settle?.isNone then .refused
  else if letter = 'h' then .help topic
  else if letter = 'V' && topic = .program then .version
  else .refused

/-- Reads one side of the command line. The topic tells which: before the name of what to
run it is the program. -/
def readSide (topic : Topic) : List Text → Progress → Ending
  | [], progress => .words progress
  | text :: rest, progress =>
    match progress.pending, Word.of text with
    | some ⟨option, none⟩, .plain value =>
      readSide topic rest { progress with pending := some ⟨option, some value⟩ }
    | some ⟨_, none⟩, _ => .request .refused
    | _, .endOfOptions => if rest.isEmpty then .words progress else .request .refused
    | _, .long name value =>
      match takeLong topic progress name value with
      | .inl next => readSide topic rest next
      | .inr request => .request request
    | _, .short letter => .request (takeShort topic progress letter)
    | _, .plain word =>
      if topic = .program then
        if word = "help".toList then .request (helpOn rest)
        else
          match named? word with
          | some only => .name progress only rest
          | none => .request .refused
      else .request .refused

/-! ### The whole line -/

/-- The command for the options of both sides. -/
def command (only : Option Generator) (before after : Given) : Command where
  only := only
  root := .ofText ((after.root.or before.root).getD ".")
  configuration := (after.configuration.or before.configuration).map Path.ofText
  check := before.check || after.check
  strict := before.strict || after.strict

/-- What the words of a command line ask for. -/
def read (words : List Text) : Request :=
  match readSide .program words {} with
  | .request request => request
  | .words progress =>
    match progress.settle? with
    | some given => .run (command none given {})
    | none => .refused
  | .name progress only rest =>
    let topic := match only with
      | some generator => Topic.generator generator
      | none => .everything
    match readSide topic rest {} with
    | .request request => request
    | .words after | .name after _ _ =>
      match progress.settle?, after.settle? with
      | some before, some after => .run (command only before after)
      | _, _ => .refused

end Prebuild.CommandLine
