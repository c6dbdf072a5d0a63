/-
This file reads the values of TOML that hold no other values: strings in their
four forms, numbers, truth values, dates and times. It also reads keys, since a
key may be a quoted string.
-/

import Prebuild.Toml.Value
import Prebuild.Toml.Reader

namespace Prebuild.Toml

open Reader

/-! ### Blanks and line ends -/

/-- The characters that may stand between tokens of one line. -/
def isSpace (character : Char) : Bool := character == ' ' || character == '\t'

/-- Whether a character may stand in a comment: a tab, or anything but a control. -/
def isCommentCharacter (character : Char) : Bool :=
  character == '\t' || (decide (32 ≤ character.toNat) && character.toNat != 127)

/-- Reads spaces and tabs. -/
def spaces : Reader Unit := discard (span isSpace)

/-- Reads a line end, which may have a carriage return before the line feed. -/
def newline : Reader Unit := exactly ['\n'] <|> exactly ['\r', '\n']

/-- Reads a comment up to the end of its line. -/
def comment : Reader Unit := exactly ['#'] *> discard (span isCommentCharacter)

/-- Reads what may follow the last token of a line, and the line end or the end of the text. -/
def lineTrailing : Reader Unit := do
  spaces
  let _ ← maybe comment
  newline <|> atEnd

/-- Reads spaces, line ends and whole comments. -/
def spacesAndLines : Reader Unit :=
  discard (many (discard (span1 isSpace) <|> newline <|> (comment *> newline)))

/-! ### Strings -/

/-- Whether a character stands for itself between single quotes. -/
def isLiteralCharacter (character : Char) : Bool :=
  isCommentCharacter character && character != '\''

/-- Whether a character stands for itself between double quotes. -/
def isBasicCharacter (character : Char) : Bool :=
  isCommentCharacter character && character != '"' && character != '\\'

/-- The value of a digit in base sixteen. -/
def hexadecimalDigit (character : Char) : Nat :=
  if character.isDigit then character.toNat - 48
  else if character.isUpper then character.toNat - 55
  else character.toNat - 87

/-- Whether a character is a digit in base sixteen. -/
def isHexadecimal (character : Char) : Bool :=
  character.isDigit || (decide ('a' ≤ character) && decide (character ≤ 'f')) ||
    (decide ('A' ≤ character) && decide (character ≤ 'F'))

/-- The number that digits stand for in a base. -/
def ofDigits (base : Nat) (digits : Text) : Nat :=
  digits.foldl (fun number digit => number * base + hexadecimalDigit digit) 0

/-- Reads a code point written with a fixed number of digits. It must be that of a
character, which excludes surrogates. -/
def codePoint (count : Nat) : Reader Char := do
  let point := ofDigits 16 (← exactCount isHexadecimal count)
  if point.isValidChar then return Char.ofNat point else failure

/-- Reads an escape, without the backslash that starts it. -/
def escaped : Reader Char := do
  match ← next fun _ => true with
  | 'b' => return '\x08'
  | 't' => return '\t'
  | 'n' => return '\n'
  | 'f' => return '\x0c'
  | 'r' => return '\r'
  | '"' => return '"'
  | '\\' => return '\\'
  | 'u' => codePoint 4
  | 'U' => codePoint 8
  | _ => failure

/-- Reads a string between double quotes. -/
def basicString : Reader Text := do
  exactly ['"']
  let pieces ← many (span1 isBasicCharacter <|>
    (exactly ['\\'] *> (fun character => [character]) <$> escaped))
  exactly ['"']
  return pieces.flatten

/-- Reads a string between single quotes. -/
def literalString : Reader Text :=
  exactly ['\''] *> span isLiteralCharacter <* exactly ['\'']

/-- Reads one or two quotes that do not end a string between triple quotes, and leaves what
follows them to the given reader. -/
def innerQuotes (quote : Char) (follower : Reader Unit) : Reader Text :=
  let run (quotes : Text) : Reader Text := (fun _ => quotes) <$> (exactly quotes *> follower)
  run [quote, quote] <|> run [quote]

/-- Reads a string between triple quotes, whose content is read piece by piece. A line end
directly after the opening quotes does not count. One or two quotes belong to the content
if more content follows them, or if the three that end the string do. -/
def tripleQuoted (quote : Char) (content : Reader Text) : Reader Text := do
  let triple := [quote, quote, quote]
  let notQuote := discard (look >>= fun first => if first == quote then failure else pure ())
  exactly triple
  let _ ← maybe newline
  let pieces ← many (content <|> ((· ++ ·) <$> innerQuotes quote notQuote <*> content))
  let last ← maybe (innerQuotes quote (lookFor triple))
  exactly triple
  return pieces.flatten ++ last.getD []

/-- Reads a line end inside a string, which counts as one line feed. -/
def newlineInString : Reader Text := (fun _ => ['\n']) <$> newline

/-- Reads a backslash at the end of a line with the blanks and line ends after it: nothing. -/
def lineContinuation : Reader Text := do
  exactly ['\\']
  spaces
  newline
  let _ ← many (discard (span1 isSpace) <|> newline)
  return []

/-- Reads a string between three double quotes. -/
def multilineBasicString : Reader Text :=
  tripleQuoted '"' (span1 isBasicCharacter <|> lineContinuation <|>
    (exactly ['\\'] *> (fun character => [character]) <$> escaped) <|> newlineInString)

/-- Reads a string between three single quotes. -/
def multilineLiteralString : Reader Text :=
  tripleQuoted '\'' (span1 isLiteralCharacter <|> newlineInString)

/-- Reads a string in any of its forms. -/
def string : Reader Text :=
  multilineBasicString <|> basicString <|> multilineLiteralString <|> literalString

/-! ### Numbers -/

/-- Reads digits of a class, one underscore at most between two of them, and leaves the
underscores out. -/
def digits (holds : Char → Bool) : Reader Text := do
  let first ← next holds
  let others ← many (next holds <|> (exactly ['_'] *> next holds))
  return first :: others

/-- Reads a sign, if there is one; whether it is a minus. -/
def sign : Reader Bool :=
  (fun sign => sign == some '-') <$>
    maybe (next fun character => character == '+' || character == '-')

/-- Reads the digits of a decimal number, which start with a zero only if that is all. -/
def decimalDigits : Reader Text := do
  let first ← look
  if first == '0' then exactCount (· == '0') 1 else digits Char.isDigit

/-- Reads a whole number written with a mark for its base. -/
def markedInteger (mark : Text) (base : Nat) (holds : Char → Bool) : Reader Nat :=
  exactly mark *> ofDigits base <$> digits holds

/-- Reads a whole number, which must fit into 64 bits with a sign. -/
def integer : Reader Int := do
  let number ←
    (Int.ofNat <$> markedInteger "0x" 16 isHexadecimal) <|>
    (Int.ofNat <$> markedInteger "0o" 8 fun character => character.isDigit && character < '8') <|>
    (Int.ofNat <$> markedInteger "0b" 2 fun character => character == '0' || character == '1') <|>
    (do
      let negative ← sign
      let size : Int := ofDigits 10 (← decimalDigits)
      return if negative then -size else size)
  if -9223372036854775808 ≤ number ∧ number < 9223372036854775808 then return number else failure

/-- Reads the exponent of a number. -/
def exponent : Reader Int := do
  let _ ← next fun character => character == 'e' || character == 'E'
  let negative ← sign
  let size : Int := ofDigits 10 (← digits Char.isDigit)
  return if negative then -size else size

/-- Reads a number with a point, an exponent or both. One too large to be finite is refused
unless it is negative. -/
def decimalFloat : Reader Binary64 := do
  let negative ← sign
  let whole ← decimalDigits
  let fraction ← maybe (exactly ['.'] *> digits Char.isDigit)
  let power ← if fraction.isSome then maybe exponent else some <$> exponent
  let places := fraction.getD []
  let number :=
    Binary64.ofDecimal negative (ofDigits 10 (whole ++ places)) (power.getD 0 - places.length)
  if number = .infinite false then failure else return number

/-- Reads one of the numbers that have names, with or without a sign. -/
def namedFloat : Reader Binary64 := do
  let negative ← sign
  ((fun _ => .infinite negative) <$> exactly "inf") <|> ((fun _ => .notANumber) <$> exactly "nan")

/-! ### Dates and times -/

/-- Reads a number of two digits within bounds. -/
def twoDigits (least greatest : Nat) : Reader Nat := do
  let number := ofDigits 10 (← exactCount Char.isDigit 2)
  if least ≤ number ∧ number ≤ greatest then return number else failure

/-- The number of days of a month. -/
def daysOfMonth (year month : Nat) : Nat :=
  if month == 2 then
    if year % 4 == 0 && (year % 100 != 0 || year % 400 == 0) then 29 else 28
  else if [4, 6, 9, 11].contains month then 30
  else 31

/-- Reads a day of the calendar. -/
def date : Reader Unit := do
  let year := ofDigits 10 (← exactCount Char.isDigit 4)
  exactly ['-']
  let month ← twoDigits 1 12
  exactly ['-']
  discard (twoDigits 1 (daysOfMonth year month))

/-- Reads a time of day, with a second and possibly a fraction of one. -/
def time : Reader Unit := do
  let _ ← twoDigits 0 23
  exactly [':']
  let _ ← twoDigits 0 59
  exactly [':']
  let _ ← twoDigits 0 60
  discard (maybe (exactly ['.'] *> span1 Char.isDigit))

/-- Reads the distance of a time from universal time. -/
def offset : Reader Unit :=
  discard (next fun character => character == 'Z' || character == 'z') <|> do
    let _ ← next fun character => character == '+' || character == '-'
    let _ ← twoDigits 0 23
    exactly [':']
    discard (twoDigits 0 59)

/-- Reads a date, a time, or a date with a time, and keeps it as it is written. -/
def moment : Reader Text := fun text =>
  let dateAndTime : Reader Unit := do
    date
    discard (maybe (do
      let _ ← next fun character => character == 'T' || character == 't' || character == ' '
      time
      discard (maybe offset)))
  match (dateAndTime <|> time) text with
  | some (_, rest) => some (text.take (text.length - rest.length), rest)
  | none => none

/-! ### All of them -/

/-- Reads a value that holds no other values. -/
def scalar : Reader Value :=
  (Value.string <$> string) <|> (Value.moment <$> moment) <|>
  (Value.float <$> (decimalFloat <|> namedFloat)) <|> (Value.integer <$> integer) <|>
  ((fun _ => Value.boolean true) <$> exactly "true") <|>
  ((fun _ => Value.boolean false) <$> exactly "false")

/-! ### Keys -/

/-- Whether a character may stand in a key without quotes. -/
def isBareKeyCharacter (character : Char) : Bool :=
  character.isAlphanum || character == '_' || character == '-'

/-- Reads one part of a key. -/
def keyPart : Reader Text := basicString <|> literalString <|> span1 isBareKeyCharacter

/-- The greatest number of parts that a key may have, and of arrays and tables written as
values that may lie in one another. -/
def deepest : Nat := 79

/-- Reads a key, the parts of which have full stops between them. -/
def key : Reader (List Text) := do
  let parts ← separated1 (exactly ['.']) (spaces *> keyPart <* spaces)
  if parts.length ≤ deepest then return parts else failure

end Prebuild.Toml
