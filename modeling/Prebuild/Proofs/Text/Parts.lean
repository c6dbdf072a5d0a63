/-
This file proves that cutting a text at every separator and joining the pieces with
the separator undo one another, that the beginning of a list of pieces joins to a
beginning of the text, and which texts have the same beginning before their last
separator. All this holds of lists of anything, so of texts and of the bytes of a path
alike.
-/

import Prebuild.Text

namespace Prebuild.Text

variable {Letter : Type} {separator : Letter}

/-! ### Joining -/

theorem joinWith_cons_of_ne_nil {piece : List Letter} {others : List (List Letter)}
    (nonempty : others ≠ []) :
    joinWith [separator] (piece :: others) =
      piece ++ separator :: joinWith [separator] others := by
  obtain ⟨next, rest, rfl⟩ := List.exists_cons_of_ne_nil nonempty
  show piece ++ [separator] ++ joinWith [separator] (next :: rest) = _
  rw [List.append_assoc]
  rfl

theorem joinWith_cons_cons (letter : Letter) (piece : List Letter) (others : List (List Letter)) :
    joinWith [separator] ((letter :: piece) :: others) =
      letter :: joinWith [separator] (piece :: others) := by
  cases others with
  | nil => rfl
  | cons next rest => rfl

/-- The first pieces, joined, are a beginning of all of them joined. -/
theorem joinWith_prefix_append (first second : List (List Letter)) :
    joinWith [separator] first <+: joinWith [separator] (first ++ second) := by
  induction first with
  | nil => exact List.nil_prefix
  | cons piece others inductionHypothesis =>
    by_cases single : others = []
    · subst single
      by_cases last : second = []
      · have whole : [piece] ++ second = [piece] := by rw [last, List.append_nil]
        exact ⟨[], by rw [whole, List.append_nil]⟩
      · rw [List.singleton_append, joinWith_cons_of_ne_nil last, joinWith]
        exact List.prefix_append _ _
    · rw [List.cons_append, joinWith_cons_of_ne_nil single,
        joinWith_cons_of_ne_nil (List.append_ne_nil_of_left_ne_nil single _)]
      exact (List.prefix_append_right_inj _).mpr
        ((List.cons_prefix_cons).mpr ⟨rfl, inductionHypothesis⟩)

/-! ### The last separator -/

/-- A list with the separator is cut at the last one. -/
theorem exists_last_cut {text : List Letter} (member : separator ∈ text) :
    ∃ start rest, text = start ++ separator :: rest ∧ separator ∉ rest := by
  obtain ⟨rest, start, cut, free⟩ := List.eq_append_cons_of_mem (List.mem_reverse.mpr member)
  refine ⟨start.reverse, rest.reverse, ?_, fun inside => free (List.mem_reverse.mp inside)⟩
  rw [← List.reverse_reverse text, cut, List.reverse_append, List.reverse_cons,
    List.append_assoc]
  rfl

/-! ### Cutting -/

variable [DecidableEq Letter]

theorem splitAt_ne_nil (text : List Letter) : splitAt separator text ≠ [] := by
  cases text with
  | nil => exact List.cons_ne_nil _ _
  | cons letter rest =>
    rw [splitAt]
    split
    · exact List.cons_ne_nil _ _
    · split
      · exact List.cons_ne_nil _ _
      · exact List.cons_ne_nil _ _

theorem splitAt_cons_self (text : List Letter) :
    splitAt separator (separator :: text) = [] :: splitAt separator text := by
  rw [splitAt, if_pos rfl]

theorem splitAt_cons_of_ne {letter : Letter} {text piece : List Letter}
    {others : List (List Letter)} (different : letter ≠ separator)
    (split : splitAt separator text = piece :: others) :
    splitAt separator (letter :: text) = (letter :: piece) :: others := by
  rw [splitAt, if_neg different, split]

/-- No piece holds the separator. -/
theorem not_mem_of_mem_splitAt {text piece : List Letter}
    (member : piece ∈ splitAt separator text) : separator ∉ piece := by
  induction text generalizing piece with
  | nil =>
    obtain rfl := List.mem_singleton.mp member
    exact List.not_mem_nil
  | cons letter rest inductionHypothesis =>
    by_cases same : letter = separator
    · subst same
      rw [splitAt_cons_self] at member
      rcases List.mem_cons.mp member with rfl | inRest
      · exact List.not_mem_nil
      · exact inductionHypothesis inRest
    · obtain ⟨first, others, split⟩ := List.exists_cons_of_ne_nil (splitAt_ne_nil rest)
      rw [splitAt_cons_of_ne same split] at member
      rcases List.mem_cons.mp member with rfl | inOthers
      · have free : separator ∉ first := inductionHypothesis (split ▸ List.mem_cons_self)
        exact fun inside => (List.mem_cons.mp inside).elim (fun here => same here.symm) free
      · exact inductionHypothesis (split ▸ List.mem_cons_of_mem _ inOthers)

/-- The pieces of a text, joined, are the text. -/
theorem joinWith_splitAt (text : List Letter) :
    joinWith [separator] (splitAt separator text) = text := by
  induction text with
  | nil => rfl
  | cons letter rest inductionHypothesis =>
    by_cases same : letter = separator
    · subst same
      rw [splitAt_cons_self, joinWith_cons_of_ne_nil (splitAt_ne_nil rest), inductionHypothesis]
      rfl
    · obtain ⟨first, others, split⟩ := List.exists_cons_of_ne_nil (splitAt_ne_nil rest)
      rw [splitAt_cons_of_ne same split, joinWith_cons_cons, ← split, inductionHypothesis]

/-- Texts with a separator between them have the pieces of the first and then those of the
second. -/
theorem splitAt_append_cons (first second : List Letter) :
    splitAt separator (first ++ separator :: second) =
      splitAt separator first ++ splitAt separator second := by
  induction first with
  | nil => exact splitAt_cons_self second
  | cons letter first inductionHypothesis =>
    by_cases same : letter = separator
    · subst same
      rw [List.cons_append, splitAt_cons_self, inductionHypothesis, splitAt_cons_self]
      rfl
    · obtain ⟨piece, others, split⟩ := List.exists_cons_of_ne_nil (splitAt_ne_nil first)
      rw [split, List.cons_append] at inductionHypothesis
      rw [List.cons_append, splitAt_cons_of_ne same inductionHypothesis,
        splitAt_cons_of_ne same split]
      rfl

/-- A text without the separator continues the first piece of what follows it. -/
theorem splitAt_append_of_not_mem {start text piece : List Letter} {others : List (List Letter)}
    (free : separator ∉ start) (split : splitAt separator text = piece :: others) :
    splitAt separator (start ++ text) = (start ++ piece) :: others := by
  induction start with
  | nil => exact split
  | cons letter start inductionHypothesis =>
    have different : letter ≠ separator := fun same => free (same ▸ List.mem_cons_self)
    exact splitAt_cons_of_ne different
      (inductionHypothesis fun inside => free (List.mem_cons_of_mem _ inside))

/-- A text without the separator is one piece. -/
theorem splitAt_of_not_mem {piece : List Letter} (free : separator ∉ piece) :
    splitAt separator piece = [piece] := by
  have whole := splitAt_append_of_not_mem free (rfl : splitAt separator [] = [[]])
  rwa [List.append_nil] at whole

/-- Pieces without the separator, joined, have those pieces. -/
theorem splitAt_joinWith {pieces : List (List Letter)} (nonempty : pieces ≠ [])
    (free : ∀ piece ∈ pieces, separator ∉ piece) :
    splitAt separator (joinWith [separator] pieces) = pieces := by
  induction pieces with
  | nil => exact absurd rfl nonempty
  | cons piece others inductionHypothesis =>
    have here := free piece List.mem_cons_self
    by_cases single : others = []
    · rw [single, joinWith, splitAt_of_not_mem here]
    · rw [joinWith_cons_of_ne_nil single, splitAt_append_cons, splitAt_of_not_mem here,
        inductionHypothesis single fun other member => free other (List.mem_cons_of_mem _ member)]
      rfl

/-! ### Before the last separator -/

theorem dropWhile_ne_of_not_mem {rest : List Letter} (free : separator ∉ rest)
    (start : List Letter) :
    (rest.reverse ++ start).dropWhile (· != separator) = start.dropWhile (· != separator) :=
  List.dropWhile_append_of_pos fun _ member =>
    bne_iff_ne.mpr fun same => free (List.mem_reverse.mp (same ▸ member))

theorem beforeLast_append (start : List Letter) {rest : List Letter} (free : separator ∉ rest) :
    beforeLast separator (start ++ separator :: rest) =
      if start = [] then separator :: rest else start := by
  have cut : (start ++ separator :: rest).reverse.dropWhile (· != separator) =
      separator :: start.reverse := by
    rw [List.reverse_append, List.reverse_cons, List.append_assoc, dropWhile_ne_of_not_mem free]
    exact List.dropWhile_cons_of_neg (by simp)
  rw [beforeLast, cut]
  by_cases bare : start = [] <;> simp [bare]

theorem beforeLast_of_not_mem {text : List Letter} (free : separator ∉ text) :
    beforeLast separator text = text := by
  have gone : text.reverse.dropWhile (· != separator) = [] := by
    rw [← List.append_nil text.reverse, dropWhile_ne_of_not_mem free]
    rfl
  rw [beforeLast, gone]

theorem beforeLast_prefix (text : List Letter) : beforeLast separator text <+: text := by
  by_cases member : separator ∈ text
  · obtain ⟨start, rest, rfl, free⟩ := exists_last_cut member
    rw [beforeLast_append start free]
    split
    · rename_i bare
      simp [bare]
    · exact List.prefix_append _ _
  · simp [beforeLast_of_not_mem member]

theorem beforeLast_ne_nil {text : List Letter} (nonempty : text ≠ []) :
    beforeLast separator text ≠ [] := by
  by_cases member : separator ∈ text
  · obtain ⟨start, rest, rfl, free⟩ := exists_last_cut member
    rw [beforeLast_append start free]
    split
    · exact List.cons_ne_nil _ _
    · assumption
  · rwa [beforeLast_of_not_mem member]

/-- Two texts with one ending after a separator have different beginnings, with one exception: the
ending has no separator in it, one text is nothing but a separator and the ending, and the other
has the ending twice. -/
theorem beforeLast_eq_beforeLast_iff {first second ending : List Letter} :
    beforeLast separator (first ++ separator :: ending) =
        beforeLast separator (second ++ separator :: ending) ↔
      first = second ∨ separator ∉ ending ∧
        (first = [] ∧ second = separator :: ending ∨
          second = [] ∧ first = separator :: ending) := by
  by_cases inside : separator ∈ ending
  · -- The cut is inside the ending, so what precedes it still holds the separator before that.
    obtain ⟨leading, last, rfl, free⟩ := exists_last_cut inside
    have cut (start : List Letter) :
        beforeLast separator (start ++ separator :: (leading ++ separator :: last)) =
          start ++ separator :: leading := by
      have stopped := beforeLast_append (start ++ separator :: leading) free
      rw [if_neg (List.append_ne_nil_of_right_ne_nil _ (List.cons_ne_nil _ _)),
        List.append_assoc] at stopped
      exact stopped
    simp [cut]
  · rw [beforeLast_append first inside, beforeLast_append second inside]
    by_cases bareFirst : first = [] <;> by_cases bareSecond : second = [] <;>
      simp [bareFirst, bareSecond, inside, eq_comm]

end Prebuild.Text
