/-
This file fixes what the library calls a text, a list of characters, and the
few operations on texts that every generator needs: cutting a text into lines,
putting lines together again, and taking a known beginning or ending off.

Texts are lists so that a statement about a generated file is a statement about
lists: what a generator writes for two texts in a row is an append, what it
writes for many lines is a `flatMap`. Strings appear only where a text is
spelled out in the source, through the coercion, and at the outer edge of the
program.
-/

namespace Prebuild

/-- A text is its list of characters. -/
abbrev Text := List Char

instance : Coe String Text := ⟨String.toList⟩

namespace Text

/-! ### Lines -/

/-- The lines of a text. A line feed ends a line and is not part of it, nor is one
carriage return directly before it. A last line without a line feed counts unless it is
empty, and keeps a carriage return at its end. No other character ends a line. -/
def lines : Text → List Text
  | [] => []
  | '\n' :: rest => [] :: lines rest
  | '\r' :: '\n' :: rest => [] :: lines rest
  | character :: rest =>
    match lines rest with
    | [] => [[character]]
    | line :: others => (character :: line) :: others

/-- A line as it is written to a generated file: followed by a line feed. -/
def endLine (line : Text) : Text := line ++ ['\n']

/-- The text made of the given lines, each followed by a line feed. -/
def ofLines (lines : List Text) : Text := lines.flatMap endLine

/-- The given texts in order, with a separator between neighbours. They may be texts or lists of
anything else. -/
def joinWith {Letter : Type} (separator : List Letter) : List (List Letter) → List Letter
  | [] => []
  | [last] => last
  | first :: rest => first ++ separator ++ joinWith separator rest

/-! ### Parts of a text -/

/-- What follows the given beginning, for a text that begins so. -/
def afterStart? : (start text : Text) → Option Text
  | [], text => some text
  | _ :: _, [] => none
  | expected :: start, character :: text =>
    if expected = character then afterStart? start text else none

/-- What precedes the given ending, for a text that ends so. -/
def beforeEnd? (ending text : Text) : Option Text :=
  (afterStart? ending.reverse text.reverse).map List.reverse

/-- Whether the second text occurs in the first, as a run of neighbouring characters. -/
def includes (text part : Text) : Bool :=
  match text with
  | [] => part.isEmpty
  | character :: rest => part.isPrefixOf (character :: rest) || includes rest part

/-- The pieces of a text, or of a list of anything else, between the occurrences of a letter,
empty pieces included. A text without the letter is one piece, so there is always at least
one. -/
def splitAt {Letter : Type} [DecidableEq Letter] (separator : Letter) :
    List Letter → List (List Letter)
  | [] => [[]]
  | letter :: rest =>
    if letter = separator then
      [] :: splitAt separator rest
    else
      match splitAt separator rest with
      | [] => [[letter]]
      | piece :: others => (letter :: piece) :: others

/-- What precedes the last occurrence of a letter in a text, or in a list of anything else. It is
everything if nothing would precede it, or if the letter does not occur. -/
def beforeLast {Letter : Type} [DecidableEq Letter] (separator : Letter) (letters : List Letter) :
    List Letter :=
  match letters.reverse.dropWhile (· != separator) with
  | _ :: start => if start.isEmpty then letters else start.reverse
  | [] => letters

/-- The decimal digits of a number, without a sign and without leading zeros. -/
def ofNat (number : Nat) : Text := Nat.toDigits 10 number

/-! ### Bytes -/

/-- The bytes of the UTF-8 form of a text, in order. -/
def bytes (text : Text) : List UInt8 := text.flatMap String.utf8EncodeChar

/-- The UTF-8 form of a text, as a file holds it. -/
def toBytes (text : Text) : ByteArray := (String.ofList text).toUTF8

/-- The text whose UTF-8 form is the given bytes, if they are such a form. -/
def ofBytes? (bytes : ByteArray) : Option Text := (String.fromUTF8? bytes).map String.toList

/-- The number of bytes of the UTF-8 form. -/
def byteSize (text : Text) : Nat := (toBytes text).size

/-- Reading back the UTF-8 form of a text gives the text. -/
theorem ofBytes?_toBytes (text : Text) : ofBytes? (toBytes text) = some text := by
  have valid : (String.ofList text).toUTF8.IsValidUTF8 := (String.ofList text).isValidUTF8
  have read : String.fromUTF8? (String.ofList text).toUTF8 = some (String.ofList text) := by
    rw [String.fromUTF8?, dif_pos valid]
    rfl
  rw [ofBytes?, toBytes, read, Option.map_some, String.toList_ofList]

end Text

end Prebuild
