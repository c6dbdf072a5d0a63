/-
This file says what conditional compilation on one symbol leaves of the lines of a
header. Conditions may be open in one another, and a line is left if no condition is
open or the symbol is defined. Lines whose conditions are not balanced have no meaning:
a condition that is closed without having been opened, or that is still open at the end.

Blocks one after the other, each of which is either bare or stands between one opening
and one closing line, are always balanced, and what is left of them is what is left of
each.
-/

import Prebuild.Text

namespace Prebuild.Conditional

variable {symbol : Text} {isDefined : Bool} {depth : Nat}

/-- The line that opens a condition on a symbol. -/
def opening (symbol : Text) : Text := "#ifdef " ++ symbol

/-- The line that closes a condition on a symbol. -/
def closing (symbol : Text) : Text := "#endif /* " ++ symbol ++ " */"

/-- Whether a line opens or closes a condition on a symbol. -/
def isGuard (symbol line : Text) : Bool := line == opening symbol || line == closing symbol

/-- What is left of lines with a symbol that is defined or is not, where the given number of
conditions is open before the first line. -/
def preprocess (symbol : Text) (isDefined : Bool) (depth : Nat) : List Text → Option (List Text)
  | [] => if depth = 0 then some [] else none
  | line :: rest =>
    if line = opening symbol then preprocess symbol isDefined (depth + 1) rest
    else if line = closing symbol then
      if depth = 0 then none else preprocess symbol isDefined (depth - 1) rest
    else if isDefined || depth == 0 then
      (preprocess symbol isDefined depth rest).map (line :: ·)
    else preprocess symbol isDefined depth rest

theorem closing_ne_opening : closing symbol ≠ opening symbol := by
  intro same
  cases (List.cons.inj (List.cons.inj same).2).1

theorem preprocess_opening (rest : List Text) :
    preprocess symbol isDefined depth (opening symbol :: rest) =
      preprocess symbol isDefined (depth + 1) rest := by
  rw [preprocess, if_pos rfl]

theorem preprocess_closing (rest : List Text) :
    preprocess symbol isDefined (depth + 1) (closing symbol :: rest) =
      preprocess symbol isDefined depth rest := by
  rw [preprocess, if_neg closing_ne_opening, if_pos rfl, if_neg (Nat.succ_ne_zero depth),
    Nat.add_sub_cancel]

/-- Lines that are no guards are left all together or not at all. -/
theorem preprocess_append_of_bare {bare : List Text}
    (unguarded : ∀ line ∈ bare, isGuard symbol line = false) (rest : List Text) :
    preprocess symbol isDefined depth (bare ++ rest) =
      (preprocess symbol isDefined depth rest).map
        ((if isDefined || depth == 0 then bare else []) ++ ·) := by
  induction bare with
  | nil => simp
  | cons line bare inductionHypothesis =>
    obtain ⟨here, further⟩ := List.forall_mem_cons.mp unguarded
    obtain ⟨notOpening, notClosing⟩ : line ≠ opening symbol ∧ line ≠ closing symbol := by
      simpa [isGuard] using here
    rw [List.cons_append, preprocess, if_neg notOpening, if_neg notClosing,
      inductionHypothesis further]
    split
    · rw [Option.map_map]
      rfl
    · rfl

/-! ### Blocks -/

/-- The lines of a block, which stand between guards or do not. -/
def block (symbol : Text) (isGuarded : Bool) (bare : List Text) : List Text :=
  if isGuarded then opening symbol :: (bare ++ [closing symbol]) else bare

theorem preprocess_block_append {isGuarded : Bool} {bare : List Text}
    (unguarded : ∀ line ∈ bare, isGuard symbol line = false) (rest : List Text) :
    preprocess symbol isDefined 0 (block symbol isGuarded bare ++ rest) =
      (preprocess symbol isDefined 0 rest).map
        ((if isDefined || !isGuarded then bare else []) ++ ·) := by
  cases isGuarded with
  | false =>
    rw [block, if_neg Bool.false_ne_true, preprocess_append_of_bare unguarded]
    simp
  | true =>
    rw [block, if_pos rfl, List.cons_append, preprocess_opening, List.append_assoc,
      preprocess_append_of_bare unguarded, List.singleton_append, preprocess_closing]
    simp

theorem filter_isGuard_block {isGuarded : Bool} {bare : List Text}
    (unguarded : ∀ line ∈ bare, isGuard symbol line = false) :
    (block symbol isGuarded bare).filter (isGuard symbol) =
      if isGuarded then [opening symbol, closing symbol] else [] := by
  have none : bare.filter (isGuard symbol) = [] := by simpa using unguarded
  cases isGuarded <;> simp [block, none, isGuard]

section

variable {Item : Type} {isGuarded : Item → Bool} {bare : Item → List Text}

/-- What is left of blocks one after the other: with the symbol defined all lines but the guards,
without it only those of the blocks that are not guarded. -/
theorem preprocess_flatMap_block
    (unguarded : ∀ item, ∀ line ∈ bare item, isGuard symbol line = false) (items : List Item) :
    preprocess symbol isDefined 0
        (items.flatMap fun item => block symbol (isGuarded item) (bare item)) =
      some ((items.filter fun item => isDefined || !isGuarded item).flatMap bare) := by
  induction items with
  | nil => rfl
  | cons item rest inductionHypothesis =>
    rw [List.flatMap_cons, preprocess_block_append (unguarded item), inductionHypothesis,
      List.filter_cons]
    split <;> rfl

/-- The guards of blocks one after the other are one pair for each block that is guarded. -/
theorem filter_isGuard_flatMap_block
    (unguarded : ∀ item, ∀ line ∈ bare item, isGuard symbol line = false) (items : List Item) :
    (items.flatMap fun item => block symbol (isGuarded item) (bare item)).filter
        (isGuard symbol) =
      (items.filter isGuarded).flatMap fun _ => [opening symbol, closing symbol] := by
  induction items with
  | nil => rfl
  | cons item rest inductionHypothesis =>
    rw [List.flatMap_cons, List.filter_append, filter_isGuard_block (unguarded item),
      inductionHypothesis, List.filter_cons]
    split <;> rfl

end

end Prebuild.Conditional
