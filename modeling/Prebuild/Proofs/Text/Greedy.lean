/-
This file proves what it means to take characters of a class from a text for as
long as they come. A reader that does so never goes back, so what it takes is a
run of the class that ends where the class ends. Where the character that follows
is outside the class, there is only one place for the cut, and a reader that takes
as much as it can finds every cut that a grammar allows.
-/

import Prebuild.Text.Word

namespace Prebuild.Text

/-- Every character of the text is in the class. -/
def ConsistsOf (inClass : Char → Bool) (text : Text) : Prop :=
  ∀ character ∈ text, inClass character = true

instance (inClass : Char → Bool) (text : Text) : Decidable (ConsistsOf inClass text) :=
  decidable_of_iff (text.all inClass = true) List.all_eq_true

/-- The text is empty or begins with a character outside the class. -/
def BeginsOutside (inClass : Char → Bool) (text : Text) : Prop :=
  ∀ first rest, text = first :: rest → inClass first = false

section

variable {inClass : Char → Bool}

theorem consistsOf_takeWhile (text : Text) : ConsistsOf inClass (text.takeWhile inClass) :=
  fun _ member => List.all_eq_true.mp List.all_takeWhile _ member

theorem beginsOutside_dropWhile (text : Text) :
    BeginsOutside inClass (text.dropWhile inClass) := by
  intro first rest begins
  have head := List.head?_dropWhile_not inClass text
  rw [begins] at head
  exact head

theorem beginsOutside_cons {first : Char} {rest : Text} (outside : inClass first = false) :
    BeginsOutside inClass (first :: rest) := by
  intro character others same
  rw [← (List.cons.inj same).1]
  exact outside

/-- What begins outside the class is left whole. -/
theorem dropWhile_of_beginsOutside {text : Text} (outside : BeginsOutside inClass text) :
    text.dropWhile inClass = text := by
  cases text with
  | nil => rfl
  | cons first rest => exact List.dropWhile_cons_of_neg (by rw [outside first rest rfl]; decide)

/-- A run of the class in front of what begins outside it is dropped, no more and no less. -/
theorem dropWhile_append_of_beginsOutside {run rest : Text} (holds : ConsistsOf inClass run)
    (outside : BeginsOutside inClass rest) : (run ++ rest).dropWhile inClass = rest := by
  rw [List.dropWhile_append_of_pos holds, dropWhile_of_beginsOutside outside]

/-- A run of the class in front of what begins outside it is taken, no more and no less. -/
theorem takeWhile_append_of_beginsOutside {run rest : Text} (holds : ConsistsOf inClass run)
    (outside : BeginsOutside inClass rest) : (run ++ rest).takeWhile inClass = run := by
  have whole : (run ++ rest).takeWhile inClass ++ (run ++ rest).dropWhile inClass = run ++ rest :=
    List.takeWhile_append_dropWhile
  rw [dropWhile_append_of_beginsOutside holds outside] at whole
  exact List.append_cancel_right whole

/-- The greedy cut before a character outside the class is the only cut before it: a text is
a run of the class, that character and a rest in at most one way. -/
theorem greedy_cut_iff {text run rest : Text} {stop : Char} (outside : inClass stop = false) :
    (text.takeWhile inClass = run ∧ text.dropWhile inClass = stop :: rest) ↔
      text = run ++ stop :: rest ∧ ConsistsOf inClass run := by
  constructor
  · rintro ⟨taken, left⟩
    constructor
    · rw [← taken, ← left, List.takeWhile_append_dropWhile]
    · rw [← taken]
      exact consistsOf_takeWhile text
  · rintro ⟨rfl, holds⟩
    exact ⟨takeWhile_append_of_beginsOutside holds (beginsOutside_cons outside),
      dropWhile_append_of_beginsOutside holds (beginsOutside_cons outside)⟩

/-- A run of the class in front of what begins outside it can be told from what follows it in
only one way. -/
theorem run_unique {run rest run' rest' : Text} (holds : ConsistsOf inClass run)
    (outside : BeginsOutside inClass rest) (holds' : ConsistsOf inClass run')
    (outside' : BeginsOutside inClass rest') (same : run ++ rest = run' ++ rest') :
    run = run' ∧ rest = rest' := by
  constructor
  · rw [← takeWhile_append_of_beginsOutside holds outside, same,
      takeWhile_append_of_beginsOutside holds' outside']
  · rw [← dropWhile_append_of_beginsOutside holds outside, same,
      dropWhile_append_of_beginsOutside holds' outside']

/-- A run of the class that a character outside it ends, ends at only one place. -/
theorem stopped_run_unique {run rest run' rest' : Text} {stop : Char}
    (outside : inClass stop = false) (holds : ConsistsOf inClass run)
    (holds' : ConsistsOf inClass run') (same : run ++ stop :: rest = run' ++ stop :: rest') :
    run = run' ∧ rest = rest' := by
  obtain ⟨runs, rests⟩ := run_unique holds (beginsOutside_cons outside) holds'
    (beginsOutside_cons outside) same
  exact ⟨runs, (List.cons.inj rests).2⟩

end

/-! ### A known beginning and a known ending -/

/-- Taking a beginning off a text is undoing an append. -/
theorem afterStart?_eq_some_iff {start text rest : Text} :
    afterStart? start text = some rest ↔ text = start ++ rest := by
  induction start generalizing text with
  | nil => exact ⟨fun equal => Option.some.inj equal, fun equal => congrArg some equal⟩
  | cons expected start inductionHypothesis =>
    cases text with
    | nil =>
      constructor
      · intro impossible
        cases impossible
      · intro impossible
        cases impossible
    | cons character text =>
      rw [afterStart?, List.cons_append]
      by_cases same : expected = character
      · rw [if_pos same, inductionHypothesis, same]
        exact ⟨congrArg _, fun equal => (List.cons.inj equal).2⟩
      · rw [if_neg same]
        constructor
        · intro impossible
          cases impossible
        · intro equal
          exact absurd (List.cons.inj equal).1.symm same

/-- Taking an ending off a text is undoing an append. -/
theorem beforeEnd?_eq_some_iff {ending text start : Text} :
    beforeEnd? ending text = some start ↔ text = start ++ ending := by
  rw [beforeEnd?, Option.map_eq_some_iff]
  simp only [afterStart?_eq_some_iff]
  constructor
  · rintro ⟨reversed, whole, rfl⟩
    rw [← List.reverse_reverse text, whole, List.reverse_append, List.reverse_reverse]
  · rintro rfl
    exact ⟨start.reverse, List.reverse_append, List.reverse_reverse start⟩

end Prebuild.Text
