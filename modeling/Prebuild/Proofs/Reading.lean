/-
This file proves what a transcript is, seen from the readings of the lines alone:
whether it failed, where, and what was written if it did not.

Under the lenient policy nothing fails. Under the strict one the transcript fails
exactly if a line is malformed, and then at the first such line. The text of a
transcript that did not fail is what the lines contribute, one after the other,
under either policy: a line that is passed over contributes nothing. Where no line
is malformed the two policies do the same, and each shows in its own way that this
is so, the strict one by not failing and the lenient one by not warning.
-/

import Prebuild.Transcript

namespace Prebuild

/-- The text that a line contributes. -/
def Reading.contribution : Reading → Text
  | .written text => text
  | .nothing => []
  | .malformed => []

/-! ### The first line of a class -/

/-- The line at an index is in the class, and no line before it is. -/
def IsFirst (inClass : Text → Prop) (lines : List Text) (index : Nat) (line : Text) : Prop :=
  lines[index]? = some line ∧ inClass line ∧ ∀ earlier ∈ lines.take index, ¬ inClass earlier

section

variable {inClass : Text → Prop} {first line : Text} {rest : List Text} {index : Nat}

theorem isFirst_cons_zero :
    IsFirst inClass (first :: rest) 0 line ↔ line = first ∧ inClass first := by
  constructor
  · rintro ⟨here, holds, -⟩
    obtain rfl := Option.some.inj here
    exact ⟨rfl, holds⟩
  · rintro ⟨rfl, holds⟩
    exact ⟨rfl, holds, fun _ member => nomatch member⟩

theorem isFirst_cons_succ :
    IsFirst inClass (first :: rest) (index + 1) line ↔
      ¬ inClass first ∧ IsFirst inClass rest index line := by
  unfold IsFirst
  rw [List.getElem?_cons_succ, List.take_succ_cons, List.forall_mem_cons]
  exact ⟨fun ⟨here, holds, plain, others⟩ => ⟨plain, here, holds, others⟩,
    fun ⟨plain, here, holds, others⟩ => ⟨here, holds, plain, others⟩⟩

/-- The first line of a class is the first line of all, or the first of the others. -/
theorem exists_isFirst_cons_iff {property : Nat → Text → Prop} :
    (∃ index line, IsFirst inClass (first :: rest) index line ∧ property index line) ↔
      (inClass first ∧ property 0 first) ∨
        (¬ inClass first ∧
          ∃ index line, IsFirst inClass rest index line ∧ property (index + 1) line) := by
  constructor
  · rintro ⟨index, line, isFirst, holds⟩
    cases index with
    | zero =>
      obtain ⟨rfl, inside⟩ := isFirst_cons_zero.mp isFirst
      exact Or.inl ⟨inside, holds⟩
    | succ index =>
      obtain ⟨plain, later⟩ := isFirst_cons_succ.mp isFirst
      exact Or.inr ⟨plain, index, line, later, holds⟩
  · rintro (⟨inside, holds⟩ | ⟨plain, index, line, later, holds⟩)
    · exact ⟨0, first, isFirst_cons_zero.mpr ⟨rfl, inside⟩, holds⟩
    · exact ⟨index + 1, line, isFirst_cons_succ.mpr ⟨plain, later⟩, holds⟩

end

namespace Transcript

variable {policy : Policy} {macroName : Text} {path : Path} {number : Nat}
  {readings : List (Text × Reading)} {isMalformed : Text → Prop}

/-- A transcript fails at the first malformed line, under the strict policy. The class of
malformed lines is a parameter, which the readings have to follow, so that what is said of
the transcript is said of the lines without their readings. -/
theorem failure_eq_some_iff
    (faithful : ∀ pair ∈ readings, pair.2 = .malformed ↔ isMalformed pair.1)
    (failure : Failure) :
    (ofReadings policy macroName path number readings).failure = some failure ↔
      policy = .abort ∧ ∃ index line, IsFirst isMalformed (readings.map Prod.fst) index line ∧
        failure = .malformed path (number + index) macroName (Text.trim line) := by
  induction readings generalizing number with
  | nil => simp [ofReadings, IsFirst]
  | cons pair rest inductionHypothesis =>
    obtain ⟨line, reading⟩ := pair
    have head := faithful (line, reading) List.mem_cons_self
    have others := @inductionHypothesis (number + 1)
      fun other member => faithful other (List.mem_cons_of_mem _ member)
    simp only [Nat.add_assoc, Nat.add_comm 1] at others
    rw [List.map_cons, exists_isFirst_cons_iff]
    cases reading with
    | written text =>
      have plain : ¬ isMalformed line := fun malformed => by cases head.mpr malformed
      simpa [ofReadings, plain] using others
    | nothing =>
      have plain : ¬ isMalformed line := fun malformed => by cases head.mpr malformed
      simpa [ofReadings, plain] using others
    | malformed =>
      have malformed : isMalformed line := head.mp rfl
      cases policy with
      | warn => simpa [ofReadings] using others
      | abort => simp [ofReadings, malformed, eq_comm]

/-- A transcript does not fail exactly if the policy is lenient or no line is malformed. -/
theorem failure_eq_none_iff
    (faithful : ∀ pair ∈ readings, pair.2 = .malformed ↔ isMalformed pair.1) :
    (ofReadings policy macroName path number readings).failure = none ↔
      policy = .warn ∨ ∀ line ∈ readings.map Prod.fst, ¬ isMalformed line := by
  induction readings generalizing number with
  | nil => simp [ofReadings]
  | cons pair rest inductionHypothesis =>
    obtain ⟨line, reading⟩ := pair
    have head := faithful (line, reading) List.mem_cons_self
    have others := @inductionHypothesis (number + 1)
      fun other member => faithful other (List.mem_cons_of_mem _ member)
    rw [List.map_cons, List.forall_mem_cons]
    cases reading with
    | written text =>
      have plain : ¬ isMalformed line := fun malformed => by cases head.mpr malformed
      simpa [ofReadings, plain] using others
    | nothing =>
      have plain : ¬ isMalformed line := fun malformed => by cases head.mpr malformed
      simpa [ofReadings, plain] using others
    | malformed =>
      have malformed : isMalformed line := head.mp rfl
      cases policy with
      | warn => simpa [ofReadings] using others
      | abort => simp [ofReadings, malformed]

/-- The text of a transcript that did not fail is what the lines contribute, in order. -/
theorem text_of_failure_eq_none
    (succeeded : (ofReadings policy macroName path number readings).failure = none) :
    (ofReadings policy macroName path number readings).text =
      readings.flatMap fun pair => pair.2.contribution := by
  induction readings generalizing number with
  | nil => rfl
  | cons pair rest inductionHypothesis =>
    obtain ⟨line, reading⟩ := pair
    rw [List.flatMap_cons]
    cases reading with
    | written text => exact congrArg (text ++ ·) (inductionHypothesis succeeded)
    | nothing => exact inductionHypothesis succeeded
    | malformed =>
      cases policy with
      | warn => exact @inductionHypothesis (number + 1) succeeded
      | abort => cases succeeded

/-- What has been written, whether or not anything failed, is what some of the lines contribute:
those from the first up to a certain one. -/
theorem exists_text_eq_take :
    ∃ count, (ofReadings policy macroName path number readings).text =
      (readings.take count).flatMap fun pair => pair.2.contribution := by
  induction readings generalizing number with
  | nil => exact ⟨0, rfl⟩
  | cons pair rest inductionHypothesis =>
    obtain ⟨line, reading⟩ := pair
    obtain ⟨count, further⟩ := @inductionHypothesis (number + 1)
    cases reading with
    | written text => exact ⟨count + 1, congrArg (text ++ ·) further⟩
    | nothing => exact ⟨count + 1, further⟩
    | malformed =>
      cases policy with
      | warn => exact ⟨count + 1, further⟩
      | abort => exact ⟨0, rfl⟩

/-- Readings of which none is malformed come to what they contribute. -/
theorem ofReadings_of_wellFormed (wellFormed : ∀ pair ∈ readings, pair.2 ≠ .malformed) :
    ofReadings policy macroName path number readings =
      ⟨readings.flatMap fun pair => pair.2.contribution, [], none⟩ := by
  induction readings generalizing number with
  | nil => rfl
  | cons pair rest inductionHypothesis =>
    obtain ⟨line, reading⟩ := pair
    obtain ⟨here, further⟩ := List.forall_mem_cons.mp wellFormed
    cases reading with
    | written text =>
      rw [ofReadings, inductionHypothesis further]
      rfl
    | nothing =>
      rw [ofReadings, inductionHypothesis further]
      rfl
    | malformed => exact absurd rfl here

/-! ### One transcript after another -/

/-- A transcript and then another, of the lines that follow. A failure is final. -/
def followedBy (first second : Transcript) : Transcript :=
  match first.failure with
  | some _ => first
  | none => ⟨first.text ++ second.text, first.notes ++ second.notes, second.failure⟩

theorem followedBy_assoc (first second third : Transcript) :
    (first.followedBy second).followedBy third = first.followedBy (second.followedBy third) := by
  obtain ⟨text, notes, failed⟩ := first
  cases failed with
  | some failure => rfl
  | none =>
    obtain ⟨others, more, failedLater⟩ := second
    cases failedLater with
    | some failure => rfl
    | none => simp [followedBy]

theorem ofReadings_cons (pair : Text × Reading) (rest : List (Text × Reading)) :
    ofReadings policy macroName path number (pair :: rest) =
      (ofReadings policy macroName path number [pair]).followedBy
        (ofReadings policy macroName path (number + 1) rest) := by
  obtain ⟨line, reading⟩ := pair
  cases reading with
  | written text => simp [ofReadings, followedBy]
  | nothing => rfl
  | malformed => cases policy <;> rfl

/-- Readings may be gone through in two pieces, the second of which counts its lines on from the
first. -/
theorem ofReadings_append (before rest : List (Text × Reading)) :
    ofReadings policy macroName path number (before ++ rest) =
      (ofReadings policy macroName path number before).followedBy
        (ofReadings policy macroName path (number + before.length) rest) := by
  induction before generalizing number with
  | nil => rfl
  | cons pair before inductionHypothesis =>
    rw [List.cons_append, ofReadings_cons, inductionHypothesis, ← followedBy_assoc,
      ← ofReadings_cons, List.length_cons, Nat.add_right_comm, Nat.add_assoc]

/-! ### The two policies -/

/-- Where no line is malformed, the policy does not matter. -/
theorem ofReadings_eq_of_wellFormed (others : Policy)
    (wellFormed : ∀ pair ∈ readings, pair.2 ≠ .malformed) :
    ofReadings policy macroName path number readings =
      ofReadings others macroName path number readings := by
  rw [ofReadings_of_wellFormed wellFormed, ofReadings_of_wellFormed wellFormed]

/-- Under the strict policy a transcript that did not fail has met no malformed line. -/
theorem wellFormed_of_failure_eq_none
    (succeeded : (ofReadings .abort macroName path number readings).failure = none) :
    ∀ pair ∈ readings, pair.2 ≠ .malformed := by
  induction readings generalizing number with
  | nil => exact fun _ member => nomatch member
  | cons pair rest inductionHypothesis =>
    obtain ⟨line, reading⟩ := pair
    refine List.forall_mem_cons.mpr ?_
    cases reading with
    | written text =>
      exact ⟨(nomatch ·), @inductionHypothesis (number + 1) succeeded⟩
    | nothing =>
      exact ⟨(nomatch ·), @inductionHypothesis (number + 1) succeeded⟩
    | malformed => cases succeeded

/-- Under the lenient policy a transcript without a warning has met no malformed line. -/
theorem wellFormed_of_clean
    (clean : ∀ note ∈ (ofReadings .warn macroName path number readings).notes,
      note.isWarning = false) :
    ∀ pair ∈ readings, pair.2 ≠ .malformed := by
  induction readings generalizing number with
  | nil => exact fun _ member => nomatch member
  | cons pair rest inductionHypothesis =>
    obtain ⟨line, reading⟩ := pair
    refine List.forall_mem_cons.mpr ?_
    cases reading with
    | written text =>
      exact ⟨(nomatch ·), @inductionHypothesis (number + 1) clean⟩
    | nothing =>
      exact ⟨(nomatch ·), @inductionHypothesis (number + 1) clean⟩
    | malformed => cases clean _ List.mem_cons_self

/-! ### Transcripts as outcomes -/

theorem outcome_result_eq_ok_iff {transcript : Transcript} {text : Text} :
    transcript.outcome.result = .ok text ↔ transcript.failure = none ∧ text = transcript.text := by
  unfold outcome
  cases transcript.failure with
  | none => exact ⟨fun same => ⟨rfl, (Except.ok.inj same).symm⟩, fun same => same.2 ▸ rfl⟩
  | some failure => simp

theorem outcome_result_eq_error_iff {transcript : Transcript} {failure : Failure} :
    transcript.outcome.result = .error failure ↔ transcript.failure = some failure := by
  unfold outcome
  cases transcript.failure <;> simp

end Transcript

end Prebuild
