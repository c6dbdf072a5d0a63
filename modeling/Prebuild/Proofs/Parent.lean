/-
This file relates a path to the path of the directory that it lies in, by the steps
that the two ask for: the path takes the steps of its parent, then some that stay
where they are, then one that does not, and then again some that stay.

The parent is computed on the bytes, part by part, and leaves idle parts out, so the
two agree only up to steps that stay. A walk through a disk does not tell these
apart, as long as it is at a directory.
-/

import Prebuild.Path
import Prebuild.Proofs.Text.Parts

namespace Prebuild.Path

/-! ### The steps of parts -/

/-- The steps that the parts of a path ask for. -/
def stepsOf (parts : List Bytes) : List Step :=
  (parts.filter fun part => !part.isEmpty).map Step.ofPart

theorem steps_eq_stepsOf (path : Path) : path.steps = stepsOf (Text.splitAt slash path.bytes) := rfl

theorem stepsOf_append (first second : List Bytes) :
    stepsOf (first ++ second) = stepsOf first ++ stepsOf second := by
  unfold stepsOf
  rw [List.filter_append, List.map_append]

/-- Slashes at the end of a path ask for nothing. -/
theorem steps_append_slashes (bytes : Bytes) (count : Nat) :
    (Path.mk (bytes ++ List.replicate count slash)).steps = (Path.mk bytes).steps := by
  induction count with
  | zero => rw [List.replicate_zero, List.append_nil]
  | succ count inductionHypothesis =>
    rw [List.replicate_succ', ← List.append_assoc, steps_eq_stepsOf, Text.splitAt_append_cons,
      stepsOf_append, ← steps_eq_stepsOf ⟨bytes ++ List.replicate count slash⟩,
      inductionHypothesis]
    exact List.append_nil _

/-- Steps that all stay. -/
def AllStay (steps : List Step) : Prop := ∀ step ∈ steps, step = .stay

theorem allStay_stepsOf {parts : List Bytes} (idle : ∀ part ∈ parts, isIdle part = true) :
    AllStay (stepsOf parts) := by
  intro step member
  obtain ⟨part, inParts, rfl⟩ := List.mem_map.mp member
  obtain ⟨inAll, nonempty⟩ := List.mem_filter.mp inParts
  have isDot : (part == [dot]) = true := by
    rcases Bool.or_eq_true_iff.mp (idle part inAll) with empty | isDot
    · rw [empty] at nonempty
      cases nonempty
    · exact isDot
  rw [Step.ofPart, if_pos isDot]

theorem stepsOf_cons {part : Bytes} (nonempty : part ≠ []) (rest : List Bytes) :
    stepsOf (part :: rest) = Step.ofPart part :: stepsOf rest := by
  rw [stepsOf, List.filter_cons_of_pos (by rw [List.isEmpty_eq_false_iff.mpr nonempty]; rfl)]
  rfl

theorem ofPart_ne_stay {part : Bytes} (other : part ≠ [dot]) : Step.ofPart part ≠ .stay := by
  rw [Step.ofPart, if_neg (fun same => other (beq_iff_eq.mp same))]
  split <;> exact Step.noConfusion

/-- A part that is not idle asks for one step, which does not stay. -/
theorem stepsOf_singleton {part : Bytes} (busy : isIdle part = false) :
    ∃ step, stepsOf [part] = [step] ∧ step ≠ .stay := by
  obtain ⟨nonempty, notDot⟩ := Bool.or_eq_false_iff.mp busy
  exact ⟨Step.ofPart part, stepsOf_cons (List.isEmpty_eq_false_iff.mp nonempty) [],
    ofPart_ne_stay (beq_eq_false_iff_ne.mp notDot)⟩

/-! ### Idle parts at the end -/

/-- Dropping idle parts at the end drops idle parts only. -/
theorem dropIdleEnd_append (parts : List Bytes) :
    ∃ idle, parts = dropIdleEnd parts ++ idle ∧ ∀ part ∈ idle, isIdle part = true := by
  refine ⟨(parts.reverse.takeWhile isIdle).reverse, ?_, ?_⟩
  · rw [dropIdleEnd, ← List.reverse_append, List.takeWhile_append_dropWhile, List.reverse_reverse]
  · intro part member
    exact List.all_eq_true.mp List.all_takeWhile part (List.mem_reverse.mp member)

/-- After the idle parts at the end are dropped, the last part is not idle. -/
theorem isIdle_of_dropIdleEnd_eq {parts front : List Bytes} {last : Bytes}
    (left : dropIdleEnd parts = front ++ [last]) : isIdle last = false := by
  have reversed : parts.reverse.dropWhile isIdle = last :: front.reverse := by
    rw [← List.reverse_reverse (parts.reverse.dropWhile isIdle), ← dropIdleEnd, left,
      List.reverse_append]
    rfl
  have head := List.head?_dropWhile_not isIdle parts.reverse
  rwa [reversed] at head

/-- The steps of parts that are not all idle: those of the parts before the last busy one,
without the idle ones at their end, then some that stay, then one that does not, then some
that stay. -/
theorem stepsOf_of_dropIdleEnd_ne_nil {parts : List Bytes} (busy : dropIdleEnd parts ≠ []) :
    ∃ between step after,
      stepsOf parts =
        stepsOf (dropIdleEnd (dropIdleEnd parts).dropLast) ++ between ++ step :: after ∧
      stepsOf (dropIdleEnd parts).dropLast =
        stepsOf (dropIdleEnd (dropIdleEnd parts).dropLast) ++ between ∧
      AllStay between ∧ step ≠ .stay ∧ AllStay after := by
  obtain ⟨after, whole, afterIdle⟩ := dropIdleEnd_append parts
  obtain ⟨between, front, betweenIdle⟩ := dropIdleEnd_append (dropIdleEnd parts).dropLast
  have cut := (List.dropLast_concat_getLast busy).symm
  obtain ⟨step, single, moves⟩ := stepsOf_singleton (isIdle_of_dropIdleEnd_eq cut)
  have leading : stepsOf (dropIdleEnd parts).dropLast =
      stepsOf (dropIdleEnd (dropIdleEnd parts).dropLast) ++ stepsOf between := by
    rw [← stepsOf_append, ← front]
  refine ⟨stepsOf between, step, stepsOf after, ?_, leading, allStay_stepsOf betweenIdle, moves,
    allStay_stepsOf afterIdle⟩
  have pieces : stepsOf parts = stepsOf (dropIdleEnd parts).dropLast ++
      stepsOf [(dropIdleEnd parts).getLast busy] ++ stepsOf after := by
    rw [← stepsOf_append, ← stepsOf_append, ← cut, ← whole]
  rw [pieces, single, leading, List.append_assoc _ [step]]
  rfl

/-! ### The parent of a path -/

/-- A path lies in another: it takes the steps of the other, some that stay, one that does
not, and some that stay; it starts from the same place, and its bytes continue the other's.
-/
structure LiesIn (path parent : Path) : Prop where
  steps : ∃ between step after, path.steps = parent.steps ++ between ++ step :: after ∧
    AllStay between ∧ step ≠ .stay ∧ AllStay after
  bytes : parent.bytes <+: path.bytes
  absolute : path.isAbsolute = parent.isAbsolute

theorem isAbsolute_eq_of_prefix {path parent : Path} (nonempty : parent.bytes ≠ [])
    (begins : parent.bytes <+: path.bytes) : path.isAbsolute = parent.isAbsolute := by
  obtain ⟨rest, whole⟩ := begins
  obtain ⟨first, others, bytes⟩ := List.exists_cons_of_ne_nil nonempty
  rw [isAbsolute, isAbsolute, ← whole, bytes]
  rfl

theorem stepsOf_splitAt_joinWith {parts : List Bytes} (free : ∀ part ∈ parts, slash ∉ part) :
    stepsOf (Text.splitAt slash (Text.joinWith [slash] parts)) = stepsOf parts := by
  by_cases empty : parts = []
  · rw [empty]
    rfl
  · rw [Text.splitAt_joinWith empty free]

theorem mem_of_mem_dropIdleEnd {parts : List Bytes} {part : Bytes}
    (member : part ∈ dropIdleEnd parts) : part ∈ parts := by
  obtain ⟨idle, whole, -⟩ := dropIdleEnd_append parts
  rw [whole]
  exact List.mem_append_left _ member

/-- The parts that are left for the parent hold no slash. -/
theorem not_mem_of_mem_leading {bytes part : Bytes}
    (member : part ∈ dropIdleEnd (dropIdleEnd (Text.splitAt slash bytes)).dropLast) :
    slash ∉ part :=
  Text.not_mem_of_mem_splitAt (mem_of_mem_dropIdleEnd
    ((List.dropLast_sublist _).subset (mem_of_mem_dropIdleEnd member)))

/-- The first of the parts before the last busy one, joined, are a beginning of the path. -/
theorem joinWith_prefix_of_leading {bytes : Bytes} {first others : List Bytes}
    (busy : dropIdleEnd (Text.splitAt slash bytes) ≠ [])
    (cut : (dropIdleEnd (Text.splitAt slash bytes)).dropLast = first ++ others) :
    Text.joinWith [slash] first <+: bytes := by
  obtain ⟨idle, whole, -⟩ := dropIdleEnd_append (Text.splitAt slash bytes)
  have begins : Text.joinWith [slash] first <+: Text.joinWith [slash] (first ++
      (others ++ [(dropIdleEnd (Text.splitAt slash bytes)).getLast busy] ++ idle)) :=
    Text.joinWith_prefix_append first _
  rwa [← List.append_assoc, ← List.append_assoc, ← cut, List.dropLast_concat_getLast busy,
    ← whole, Text.joinWith_splitAt] at begins

/-- The parent of an absolute path. -/
theorem liesIn_of_parent?_absolute {path parent : Path} (absolute : path.isAbsolute = true)
    (found : path.parent? = some parent) : LiesIn path parent := by
  obtain ⟨bytes⟩ := path
  obtain ⟨rest, rfl⟩ : ∃ rest, bytes = slash :: rest :=
    List.head?_eq_some_iff.mp (beq_iff_eq.mp absolute)
  have pieces : (Text.splitAt slash (slash :: rest)).tail = Text.splitAt slash rest := by
    rw [Text.splitAt_cons_self, List.tail_cons]
  rw [parent?, if_pos absolute, pieces] at found
  split at found
  · cases found
  · rename_i busy
    obtain rfl := Option.some.inj found
    obtain ⟨between, step, after, steps, -, betweenStays, moves, afterStays⟩ :=
      stepsOf_of_dropIdleEnd_ne_nil busy
    obtain ⟨gap, front, -⟩ := dropIdleEnd_append (dropIdleEnd (Text.splitAt slash rest)).dropLast
    constructor
    · refine ⟨between, step, after, ?_, betweenStays, moves, afterStays⟩
      rw [steps_eq_stepsOf, steps_eq_stepsOf, Text.splitAt_cons_self, Text.splitAt_cons_self]
      show stepsOf (Text.splitAt slash rest) = stepsOf (Text.splitAt slash _) ++ _ ++ _
      rw [stepsOf_splitAt_joinWith fun _ => not_mem_of_mem_leading, steps]
    · exact (List.cons_prefix_cons).mpr ⟨rfl, joinWith_prefix_of_leading busy front⟩
    · exact absolute

/-- The parent of a relative path, unless it is empty. -/
theorem liesIn_of_parent?_relative {path parent : Path} (relative : path.isAbsolute = false)
    (named : parent.bytes ≠ []) (found : path.parent? = some parent) : LiesIn path parent := by
  rw [parent?, if_neg (by rw [relative]; exact Bool.false_ne_true)] at found
  split at found
  · split at found
    · obtain rfl := Option.some.inj found
      exact absurd rfl named
    · cases found
  · rename_i busy
    obtain ⟨between, step, after, steps, leading, betweenStays, moves, afterStays⟩ :=
      stepsOf_of_dropIdleEnd_ne_nil busy
    obtain ⟨gap, front, -⟩ :=
      dropIdleEnd_append (dropIdleEnd (Text.splitAt slash path.bytes)).dropLast
    obtain rfl := Option.some.inj found
    unfold ofLeadingParts at named ⊢
    split at named
    · rename_i allIdle
      rw [allIdle] at front steps leading
      split at named
      · -- The parts before the last busy one begin with a full stop and are all idle.
        rename_i stayed
        obtain ⟨others, dots⟩ : ∃ others,
            (dropIdleEnd (Text.splitAt slash path.bytes)).dropLast = [dot] :: others :=
          List.head?_eq_some_iff.mp (beq_iff_eq.mp stayed)
        have stays : between = .stay :: stepsOf others := by
          rw [dots] at leading
          exact leading.symm
        rw [if_pos stayed]
        have prefixed : (Path.mk ".").bytes <+: path.bytes :=
          @joinWith_prefix_of_leading _ [[dot]] others busy dots
        refine ⟨⟨stepsOf others, step, after, ?_, fun other member => betweenStays other
          (stays ▸ List.mem_cons_of_mem _ member), moves, afterStays⟩, prefixed,
          isAbsolute_eq_of_prefix (by decide) prefixed⟩
        rw [steps_eq_stepsOf, steps, stays]
        rfl
      · exact absurd rfl named
    · rename_i nonempty
      have prefixed := joinWith_prefix_of_leading busy front
      refine ⟨⟨between, step, after, ?_, betweenStays, moves, afterStays⟩, prefixed,
        isAbsolute_eq_of_prefix named prefixed⟩
      rw [steps_eq_stepsOf, steps_eq_stepsOf,
        stepsOf_splitAt_joinWith fun _ => not_mem_of_mem_leading, steps]

/-- A path lies in its parent, unless that is the empty path. -/
theorem liesIn_of_parent? {path parent : Path} (named : parent.bytes ≠ [])
    (found : path.parent? = some parent) : LiesIn path parent := by
  cases absolute : path.isAbsolute with
  | true => exact liesIn_of_parent?_absolute absolute found
  | false => exact liesIn_of_parent?_relative absolute named found

/-- A relative path that is not empty asks for a step. -/
theorem steps_ne_nil {path : Path} (relative : path.isAbsolute = false)
    (nonempty : path.bytes ≠ []) : path.steps ≠ [] := by
  obtain ⟨first, rest, bytes⟩ := List.exists_cons_of_ne_nil nonempty
  have different : first ≠ slash := by
    intro same
    rw [isAbsolute, bytes, same] at relative
    cases relative
  obtain ⟨piece, others, split⟩ := List.exists_cons_of_ne_nil (Text.splitAt_ne_nil
    rest : Text.splitAt slash rest ≠ [])
  rw [steps_eq_stepsOf, bytes, Text.splitAt_cons_of_ne different split]
  exact List.cons_ne_nil _ _

end Prebuild.Path
