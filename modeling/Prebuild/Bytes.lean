/-
This file gives the bytes in which the operating system keeps the names and the
paths of files. They are most often the UTF-8 form of a text, but nothing makes
them so: a name may hold any bytes but the slash and the zero.

Names that are not the form of a text matter in two places. Where the program asks
what a name ends in, it asks for the text of the name first, and a name without one
ends in nothing. Where it quotes a path in a message, it shows what can be shown.
-/

import Prebuild.Text

namespace Prebuild

/-- Bytes in a row. -/
abbrev Bytes := List UInt8

/-- The name of a file or of a directory, as its directory keeps it. -/
abbrev Name := Bytes

instance : Coe String Bytes := ⟨fun text => Text.bytes text.toList⟩

namespace Bytes

/-- The text whose UTF-8 form the bytes are, if they are such a form. -/
def text? (bytes : Bytes) : Option Text := Text.ofBytes? bytes.toByteArray

/-! ### Showing bytes that are no text -/

/-- Whether a byte is one of those after the first in the form of a character. -/
def isContinuation (byte : UInt8) : Bool := 0x80 ≤ byte && byte < 0xC0

/-- Whether some character has a form that starts with the two bytes. After four of the first
bytes not every continuation may come: what it would give is too small for its length, or no
character at all. -/
def startsCharacter (first second : UInt8) : Bool :=
  if first = 0xE0 then 0xA0 ≤ second && isContinuation second
  else if first = 0xED then isContinuation second && second < 0xA0
  else if first = 0xF0 then 0x90 ≤ second && isContinuation second
  else if first = 0xF4 then isContinuation second && second < 0x90
  else 0xC2 ≤ first && first < 0xF4 && isContinuation second

/-- The number of bytes that one replacement character stands for, at the beginning of bytes
that no character's form begins: as many as could have begun one, and at least one. -/
def brokenLength : Bytes → Nat
  | first :: second :: rest =>
    if startsCharacter first second then
      match rest with
      | third :: _ => if 0xF0 ≤ first && isContinuation third then 3 else 2
      | [] => 2
    else 1
  | _ => 1

/-- What the bytes after the given number of them show. -/
def shownAfter : Nat → Bytes → Text
  | _, [] => []
  | count + 1, _ :: rest => shownAfter count rest
  | 0, byte :: rest =>
    match ByteArray.utf8DecodeChar? ((byte :: rest).take 4).toByteArray 0 with
    | some character => character :: shownAfter (character.utf8Size - 1) rest
    | none => '\uFFFD' :: shownAfter (brokenLength (byte :: rest) - 1) rest

/-- How a message shows the bytes: the text that they are the form of, with a replacement
character in place of what is no form of a character. -/
def shown (bytes : Bytes) : Text := shownAfter 0 bytes

end Bytes

end Prebuild
