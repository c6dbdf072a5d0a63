/-
This file gives the blank characters, those with the Unicode property
White_Space, and the trimming of a text: what is left after the blanks at its
two ends are gone. Trimming is used only where a line is quoted to the reader
of a message.
-/

import Prebuild.Text.Range

namespace Prebuild.Text

/-- The ranges of the property White_Space. -/
def blankRanges : List Range :=
  [
    ⟨0x9, 0xD⟩, ⟨0x20, 0x20⟩, ⟨0x85, 0x85⟩, ⟨0xA0, 0xA0⟩, ⟨0x1680, 0x1680⟩, ⟨0x2000, 0x200A⟩,
    ⟨0x2028, 0x2029⟩, ⟨0x202F, 0x202F⟩, ⟨0x205F, 0x205F⟩, ⟨0x3000, 0x3000⟩
  ]

/-- Whether a character is blank. -/
def isBlank (character : Char) : Bool := inRanges blankRanges character

/-- The text without the blanks at its beginning and at its end. -/
def trim (text : Text) : Text :=
  ((text.dropWhile isBlank).reverse.dropWhile isBlank).reverse

end Prebuild.Text
