/-
This file proves that upper-casing brings no mark into a text.

A mark here is any ASCII character but a capital letter: a line feed, a number sign, a comma.
Some characters outside ASCII have capital letters of ASCII in their upper case, as the sharp
s has, but none has a mark. So whatever a text is cut or told apart by afterwards is there
before, whichever script the text is written in.

On a text of ASCII alone upper-casing is plainer: it goes character by character, and forgets
the case of letters and nothing else.
-/

import Prebuild.Text.UpperCase

namespace Prebuild.Text

/-- An ASCII character that is no capital letter. -/
def IsMark (character : Char) : Prop := character.toNat < 128 ∧ character.isUpper = false

instance : DecidablePred IsMark := fun _ => inferInstanceAs (Decidable (_ ∧ _))

/-- What holds of all code points of ASCII holds of all its characters. -/
theorem forall_ascii {holds : Char → Prop} (points : ∀ point < 128, holds (Char.ofNat point)) :
    ∀ character : Char, character.toNat < 128 → holds character := by
  intro character ascii
  have here := points character.toNat ascii
  rwa [Char.ofNat_toNat] at here

theorem toUpper_eq_of_isMark :
    ∀ character : Char, character.toNat < 128 →
      IsMark character.toUpper → character.toUpper = character :=
  forall_ascii (by decide +kernel)

/-- All the code points of a run move beyond ASCII, and to characters; or there is only one,
and it does not move to a mark. -/
def CaseRun.Avoids (run : CaseRun) : Prop :=
  (128 ≤ run.first + run.shift ∧ run.last + run.shift < 0xD800) ∨
  (0xE000 ≤ run.first + run.shift ∧ run.last + run.shift < 0x110000) ∨
  (run.first = run.last ∧ ¬ IsMark (Char.ofNat (run.first + run.shift).toNat))

instance (run : CaseRun) : Decidable run.Avoids := inferInstanceAs (Decidable (_ ∨ _))

theorem caseRuns_avoid : ∀ run ∈ caseRuns, run.Avoids := by decide +kernel

theorem longUpperCases_avoid :
    ∀ entry ∈ longUpperCases, ∀ point ∈ entry.2, ¬ IsMark (Char.ofNat point) := by
  decide +kernel

theorem CaseRun.Avoids.not_isMark {run : CaseRun} {point : Nat} (avoids : run.Avoids)
    (holds : run.holds point = true) : ¬ IsMark (Char.ofNat ((point : Int) + run.shift).toNat) := by
  obtain ⟨⟨first, last⟩, -⟩ : (run.first ≤ point ∧ point ≤ run.last) ∧ _ := by
    simpa [CaseRun.holds] using holds
  -- A run that stays clear of the surrogates moves each code point to the one it says.
  have moved (valid : ((point : Int) + run.shift).toNat.isValidChar)
      (beyond : 128 ≤ ((point : Int) + run.shift).toNat) :
      ¬ IsMark (Char.ofNat ((point : Int) + run.shift).toNat) := by
    rintro ⟨ascii, -⟩
    rw [Char.ofNat, dif_pos valid] at ascii
    exact absurd ascii (Nat.not_lt.mpr beyond)
  rcases avoids with ⟨beyond, below⟩ | ⟨beyond, below⟩ | ⟨alone, unmarked⟩
  · exact moved (.inl (by omega)) (by omega)
  · exact moved (.inr ⟨by omega, by omega⟩) (by omega)
  · obtain rfl : point = run.first := by omega
    exact unmarked

theorem eq_of_mem_upperCaseOf {character mark : Char} (isMark : IsMark mark)
    (member : mark ∈ upperCaseOf character) : mark = character := by
  unfold upperCaseOf at member
  split at member
  · rename_i ascii
    obtain rfl := List.mem_singleton.mp member
    exact toUpper_eq_of_isMark character ascii isMark
  · unfold upperCaseBeyondAscii at member
    split at member
    · rename_i entry found
      obtain ⟨point, inside, rfl⟩ := List.mem_map.mp member
      exact absurd isMark
        (longUpperCases_avoid entry (List.mem_of_find?_eq_some found) point inside)
    · split at member
      · rename_i run found
        have avoids := caseRuns_avoid run (List.mem_of_find?_eq_some found)
        have holds : run.holds character.toNat = true := by
          simpa using List.find?_some found
        rw [List.mem_singleton.mp member] at isMark
        exact absurd isMark (avoids.not_isMark holds)
      · exact List.mem_singleton.mp member

/-- A mark is in the upper case of a text only if it is in the text. -/
theorem mem_of_mem_upperCase {text : Text} {mark : Char} (isMark : IsMark mark)
    (member : mark ∈ upperCase text) : mark ∈ text := by
  obtain ⟨character, inside, result⟩ := List.mem_flatMap.mp member
  rwa [eq_of_mem_upperCaseOf isMark result]

/-! ### Texts of ASCII alone -/

/-- All characters of a text are ASCII. -/
def IsAscii (text : Text) : Prop := ∀ character ∈ text, character.toNat < 128

instance : DecidablePred IsAscii := fun text => List.decidableBAll _ text

/-- Two texts are the same but for the case of their ASCII letters. -/
def SameButCase (first second : Text) : Prop :=
  first.map Char.toLower = second.map Char.toLower

instance (first second : Text) : Decidable (SameButCase first second) :=
  inferInstanceAs (Decidable (_ = _))

theorem upperCase_eq_map {text : Text} (ascii : IsAscii text) :
    upperCase text = text.map Char.toUpper := by
  induction text with
  | nil => rfl
  | cons first rest inductionHypothesis =>
    obtain ⟨here, further⟩ := List.forall_mem_cons.mp ascii
    rw [upperCase, List.flatMap_cons, upperCaseOf_ascii first here, List.map_cons,
      ← inductionHypothesis further]
    rfl

theorem toLower_toUpper :
    ∀ character : Char, character.toNat < 128 → character.toUpper.toLower = character.toLower :=
  forall_ascii (by decide +kernel)

theorem toUpper_toLower :
    ∀ character : Char, character.toNat < 128 → character.toLower.toUpper = character.toUpper :=
  forall_ascii (by decide +kernel)

theorem map_toLower_map_toUpper {text : Text} (ascii : IsAscii text) :
    (text.map Char.toUpper).map Char.toLower = text.map Char.toLower := by
  rw [List.map_map]
  exact List.map_congr_left fun character member => toLower_toUpper character (ascii _ member)

theorem map_toUpper_map_toLower {text : Text} (ascii : IsAscii text) :
    (text.map Char.toLower).map Char.toUpper = text.map Char.toUpper := by
  rw [List.map_map]
  exact List.map_congr_left fun character member => toUpper_toLower character (ascii _ member)

/-- Upper-casing forgets the case of ASCII letters and nothing else. -/
theorem upperCase_eq_upperCase_iff {first second : Text} (ascii : IsAscii first)
    (ascii' : IsAscii second) :
    upperCase first = upperCase second ↔ SameButCase first second := by
  rw [upperCase_eq_map ascii, upperCase_eq_map ascii', SameButCase]
  constructor
  · intro same
    rw [← map_toLower_map_toUpper ascii, same, map_toLower_map_toUpper ascii']
  · intro same
    rw [← map_toUpper_map_toLower ascii, same, map_toUpper_map_toLower ascii']

end Prebuild.Text
