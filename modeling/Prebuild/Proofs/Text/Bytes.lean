/-
This file relates a text to its UTF-8 form, as far as names and paths need it.

Bytes are the form of one text at most, and reading them or showing them gives that
text. An ASCII character is a byte of its own in the form, and that byte is part of no
other character's form. So what is decided by looking for a slash or a full stop comes
out the same on a text and on its form.
-/

import Mathlib.Tactic.SplitIfs
import Prebuild.Bytes
import Prebuild.Proofs.Text.Parts

namespace Prebuild

namespace Text

theorem bytes_cons (character : Char) (text : Text) :
    bytes (character :: text) = String.utf8EncodeChar character ++ bytes text :=
  List.flatMap_cons

theorem bytes_append (first second : Text) :
    bytes (first ++ second) = bytes first ++ bytes second :=
  List.flatMap_append

theorem bytes_eq_nil_iff {text : Text} : bytes text = [] ↔ text = [] := by
  cases text with
  | nil => exact iff_of_true rfl rfl
  | cons character rest =>
    rw [bytes_cons]
    exact iff_of_false (List.append_ne_nil_of_left_ne_nil String.utf8EncodeChar_ne_nil _)
      (List.cons_ne_nil _ _)

/-! ### Reading a form -/

theorem toByteArray_bytes (text : Text) : (bytes text).toByteArray = toBytes text := by
  rw [toBytes, String.toUTF8]
  rfl

theorem ofBytes?_eq_some_iff {file : ByteArray} {text : Text} :
    ofBytes? file = some text ↔ file = toBytes text := by
  constructor
  · intro read
    obtain ⟨string, valid, rfl⟩ := Option.map_eq_some_iff.mp read
    rw [String.fromUTF8?] at valid
    split at valid
    · obtain rfl := Option.some.inj valid
      rw [toBytes, String.ofList_toList]
      rfl
    · cases valid
  · rintro rfl
    exact ofBytes?_toBytes text

end Text

namespace Bytes

theorem text?_eq_some_iff {bytes : Bytes} {text : Text} :
    bytes.text? = some text ↔ bytes = text.bytes := by
  rw [text?, Text.ofBytes?_eq_some_iff, ← Text.toByteArray_bytes]
  constructor
  · intro same
    simpa using congrArg (fun file => file.data.toList) same
  · rintro rfl
    rfl

/-- Reading the form of a text gives the text. -/
@[simp] theorem text?_bytes (text : Text) : text? text.bytes = some text :=
  text?_eq_some_iff.mpr rfl

/-! ### Showing a form -/

theorem shownAfter_append (run rest : Bytes) :
    shownAfter run.length (run ++ rest) = shownAfter 0 rest := by
  induction run with
  | nil => rfl
  | cons byte run inductionHypothesis => exact inductionHypothesis

theorem utf8DecodeChar?_take (character : Char) (rest : Bytes) :
    ByteArray.utf8DecodeChar? ((String.utf8EncodeChar character ++ rest).take 4).toByteArray 0 =
      some character := by
  have short : (String.utf8EncodeChar character).length ≤ 4 := by
    rw [String.length_utf8EncodeChar]
    exact character.utf8Size_le_four
  rw [List.take_append, List.take_of_length_le short, List.toByteArray_append]
  exact ByteArray.utf8DecodeChar?_utf8EncodeChar_append

/-- The form of a text is shown as the text. -/
theorem shown_bytes (text : Text) : shown text.bytes = text := by
  rw [shown]
  induction text with
  | nil => rfl
  | cons character rest inductionHypothesis =>
    obtain ⟨byte, others, form⟩ := List.exists_cons_of_ne_nil
      (String.utf8EncodeChar_ne_nil (c := character))
    have read := utf8DecodeChar?_take character (Text.bytes rest)
    have length : character.utf8Size - 1 = others.length := by
      rw [← String.length_utf8EncodeChar, form]
      rfl
    rw [form, List.cons_append] at read
    rw [Text.bytes_cons, form, List.cons_append, shownAfter, read]
    simp only [length]
    rw [shownAfter_append, inductionHypothesis]

end Bytes

namespace Text

theorem bytes_inj {first second : Text} : bytes first = bytes second ↔ first = second := by
  constructor
  · intro same
    have read := congrArg Bytes.text? same
    rwa [Bytes.text?_bytes, Bytes.text?_bytes, Option.some_inj] at read
  · rintro rfl
    rfl

/-! ### ASCII characters -/

theorem utf8EncodeChar_of_ascii {character : Char} (ascii : character.toNat < 128) :
    String.utf8EncodeChar character = [UInt8.ofNat character.toNat] := by
  simp [String.utf8EncodeChar, Nat.le_of_lt_succ ascii]

/-- No byte of another character's form is that of an ASCII character. -/
theorem le_of_mem_utf8EncodeChar {character : Char} (other : 128 ≤ character.toNat) {byte : UInt8}
    (member : byte ∈ String.utf8EncodeChar character) : 128 ≤ byte.toNat := by
  have bound : character.val.toNat < 0x110000 := by
    have valid := character.valid
    simp only [UInt32.isValidChar, Nat.isValidChar] at valid
    omega
  have other : 128 ≤ character.val.toNat := other
  unfold String.utf8EncodeChar at member
  generalize character.val.toNat = code at member bound other
  dsimp only at member
  split_ifs at member with one two three
  · omega
  all_goals
    simp only [List.mem_cons, List.not_mem_nil, or_false, ← UInt8.toNat_inj,
      UInt8.toNat_ofNat'] at member
    omega

section

variable {letter : Char} (ascii : letter.toNat < 128)

include ascii

theorem mem_utf8EncodeChar_iff {character : Char} :
    UInt8.ofNat letter.toNat ∈ String.utf8EncodeChar character ↔ letter = character := by
  have code : (UInt8.ofNat letter.toNat).toNat = letter.toNat := by
    rw [UInt8.toNat_ofNat']
    omega
  rcases Nat.lt_or_ge character.toNat 128 with also | other
  · rw [utf8EncodeChar_of_ascii also, List.mem_singleton, ← UInt8.toNat_inj, code,
      UInt8.toNat_ofNat', Nat.mod_eq_of_lt (by omega), ← Char.toNat_inj]
  · constructor
    · intro member
      have large := le_of_mem_utf8EncodeChar other member
      omega
    · rintro rfl
      omega

/-- The byte of an ASCII character is in the form of the texts that hold the character. -/
theorem mem_bytes_iff {text : Text} : UInt8.ofNat letter.toNat ∈ bytes text ↔ letter ∈ text := by
  rw [bytes, List.mem_flatMap]
  simp only [mem_utf8EncodeChar_iff ascii, exists_eq_right']

theorem bytes_append_cons (start rest : Text) :
    bytes (start ++ letter :: rest) = bytes start ++ UInt8.ofNat letter.toNat :: bytes rest := by
  rw [bytes_append, bytes_cons, utf8EncodeChar_of_ascii ascii]
  rfl

/-- What precedes the last ASCII character of a kind is the same in a text and in its form. -/
theorem beforeLast_bytes (text : Text) :
    beforeLast (UInt8.ofNat letter.toNat) (bytes text) = bytes (beforeLast letter text) := by
  by_cases member : letter ∈ text
  · obtain ⟨start, rest, rfl, free⟩ := exists_last_cut member
    rw [bytes_append_cons ascii, beforeLast_append _ fun inside =>
      free ((mem_bytes_iff ascii).mp inside), beforeLast_append start free]
    simp only [bytes_eq_nil_iff]
    split
    · exact (bytes_append_cons ascii [] rest).symm
    · rfl
  · rw [beforeLast_of_not_mem member,
      beforeLast_of_not_mem fun inside => member ((mem_bytes_iff ascii).mp inside)]

end

end Text

end Prebuild
