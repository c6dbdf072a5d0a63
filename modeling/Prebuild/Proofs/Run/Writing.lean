/-
This file says what a run comes to that writes, on a disk that holds no links. Its
artifacts are written one after the other, and the disk grows from the beginning of
each turn to the end of the run. If the artifacts denote different files, none undoes
another, so in the end all of them are there as they should be; and a run whose
artifacts were all there as they should be from the beginning has changed nothing.
-/

import Prebuild.Proofs.Disk.Growth
import Prebuild.Proofs.Run.Comparison

namespace Prebuild

namespace Disk

variable {root : Path} {disk last : Disk} {artifacts : List Artifact}

/-- Artifacts are written one after the other, from one disk to another. -/
inductive Writes (root : Path) : Disk → List Artifact → Disk → Prop where
  | nil (disk : Disk) : Writes root disk [] disk
  | cons {disk next last : Disk} {artifact : Artifact} {rest : List Artifact}
      (first : disk.write root artifact = (.ok (), next)) (others : Writes root next rest last) :
      Writes root disk (artifact :: rest) last

/-- The places where artifacts belong. -/
def placesOf (disk : Disk) (root : Path) (artifacts : List Artifact) : Location → Prop :=
  fun location => ∃ artifact ∈ artifacts, location = disk.placeOf (root.join artifact.path)

theorem Writes.append {middle : Disk} {others : List Artifact}
    (first : Writes root disk artifacts middle) (second : Writes root middle others last) :
    Writes root disk (artifacts ++ others) last := by
  induction first with
  | nil disk => exact second
  | cons written _ inductionHypothesis => exact .cons written (inductionHypothesis second)

/-- A disk grows while artifacts are written. -/
theorem Writes.grows (plain : disk.IsPlain) (writes : Writes root disk artifacts last) :
    Grows (disk.placesOf root artifacts) disk last := by
  induction writes with
  | nil disk => exact .refl _ disk
  | @cons disk next last artifact rest written others inductionHypothesis =>
    have growth := (write_ok plain written).1
    refine (growth.mono fun location same => ⟨artifact, List.mem_cons_self, same⟩).trans
      ((inductionHypothesis (growth.isPlain plain)).mono fun location => ?_)
    rintro ⟨other, member, rfl⟩
    exact ⟨other, List.mem_cons_of_mem _ member, growth.placeOf_eq _⟩

/-- The path of an artifact denotes its place after the artifact has been written. -/
theorem Writes.denotes (plain : disk.IsPlain) (writes : Writes root disk artifacts last) :
    ∀ artifact ∈ artifacts,
      last.Denotes (root.join artifact.path) (disk.placeOf (root.join artifact.path)) := by
  induction writes with
  | nil disk => exact fun _ member => nomatch member
  | @cons disk next last artifact rest written others inductionHypothesis =>
    obtain ⟨growth, found⟩ := write_ok plain written
    have plainNext := growth.isPlain plain
    refine List.forall_mem_cons.mpr ⟨(others.grows plainNext).denotes plainNext ⟨_, found⟩, ?_⟩
    intro other member
    rw [← growth.placeOf_eq]
    exact inductionHypothesis plainNext other member

/-- No two of the artifacts denote the same file. -/
def AreApart (disk : Disk) (root : Path) (artifacts : List Artifact) : Prop :=
  artifacts.Pairwise fun first second => ¬disk.Same (root.join first.path) (root.join second.path)

/-- Artifacts that denote different files are all there as they should be once they have been
written. -/
theorem Writes.isCurrent (plain : disk.IsPlain) (writes : Writes root disk artifacts last)
    (apart : last.AreApart root artifacts) :
    ∀ artifact ∈ artifacts, last.isCurrent root artifact = .ok true := by
  have denotes := writes.denotes plain
  induction writes with
  | nil disk => exact fun _ member => nomatch member
  | @cons disk next last artifact rest written others inductionHypothesis =>
    obtain ⟨growth, found⟩ := write_ok plain written
    obtain ⟨firstApart, restApart⟩ := List.pairwise_cons.mp apart
    have plainNext := growth.isPlain plain
    refine List.forall_mem_cons.mpr ⟨?_, inductionHypothesis plainNext restApart
      (others.denotes plainNext)⟩
    -- What is written later does not belong where this artifact is: the two would denote one file.
    refine isCurrent_eq_ok_true_iff.mpr ⟨_, (others.grows plainNext).find_file plainNext ?_ found⟩
    rintro ⟨other, member, same⟩
    refine firstApart other member ⟨_, denotes artifact List.mem_cons_self, ?_⟩
    rw [same]
    exact others.denotes plainNext other member

end Disk

namespace Run

variable {root : Path} {settings : Settings} {disk last : Disk} {generators : List Generator}

/-! ### Writing in a run -/

theorem settle_write {artifact : Artifact} {outcome : Except Failure Unit} {next : Disk}
    (written : disk.write root artifact = (outcome, next)) :
    settle Disk.workspace root .write artifact disk = (outcome.map fun _ => .written, next) := by
  have effect : Disk.workspace.write root artifact disk = (outcome, next) := written
  simp only [settle]
  rw [bind_of_eq effect]
  cases outcome <;> rfl

theorem writes_of_settles {settled : List (Artifact × Verdict)}
    (settles : Settles root .write disk settled last) :
    Disk.Writes root disk (settled.map Prod.fst) last ∧
      ∀ entry ∈ settled, entry.2 = .written := by
  induction settles with
  | nil disk => exact ⟨.nil disk, fun _ member => nomatch member⟩
  | @cons disk next last artifact verdict rest first others inductionHypothesis =>
    cases written : disk.write root artifact with
    | mk outcome after =>
      obtain ⟨verdicts, rfl⟩ := Prod.mk.inj ((settle_write written).symm.trans first)
      cases outcome with
      | error failure => cases verdicts
      | ok done =>
        obtain rfl := Except.ok.inj verdicts
        exact ⟨.cons written inductionHypothesis.1,
          List.forall_mem_cons.mpr ⟨rfl, inductionHypothesis.2⟩⟩

/-- The artifacts of turns, in order. -/
def artifactsOf (turns : List Turn) : List Artifact :=
  turns.flatMap fun turn => turn.settled.map Prod.fst

theorem artifacts_flatMap_events (turns : List Turn) (halt : Option Halt) :
    Report.artifacts ⟨turns.flatMap (Turn.events root settings), halt⟩ = artifactsOf turns := by
  rw [Report.artifacts, settled_flatMap_events, List.map_flatMap, artifactsOf]
  simp only [List.map_map, Function.comp_def]

theorem writes_of_completes {turns : List Turn}
    (completes : Completes root settings .write disk turns last) :
    Disk.Writes root disk (artifactsOf turns) last := by
  induction completes with
  | nil disk => exact .nil disk
  | cons generated settles others inductionHypothesis =>
    exact (writes_of_settles settles).1.append inductionHypothesis

theorem written_of_completes {turns : List Turn}
    (completes : Completes root settings .write disk turns last) :
    ∀ turn ∈ turns, ∀ entry ∈ turn.settled, entry.2 = .written := by
  induction completes with
  | nil disk => exact fun _ member => nomatch member
  | cons generated settles others inductionHypothesis =>
    exact List.forall_mem_cons.mpr ⟨(writes_of_settles settles).2, inductionHypothesis⟩

/-- A run that writes and is not halted writes the files of its artifacts and no others. -/
theorem grows_of_write (plain : disk.IsPlain)
    (unhalted : (perform root settings .write generators disk).1.halt = none) :
    disk.Grows (disk.placesOf root (perform root settings .write generators disk).1.artifacts)
      (perform root settings .write generators disk).2 := by
  obtain ⟨turns, last, -, performed, completes⟩ := completes_of_unhalted unhalted
  rw [performed, artifacts_flatMap_events]
  exact (writes_of_completes completes).grows plain

/-- The disk grows from the beginning of each turn to the end of the run, by no more than what
the run writes. -/
theorem grows_of_completes (plain : disk.IsPlain) {turns : List Turn}
    (completes : Completes root settings .write disk turns last) :
    ∀ turn ∈ turns, turn.stage.IsPlain ∧
      turn.stage.Grows (disk.placesOf root (artifactsOf turns)) last := by
  induction completes with
  | nil disk => exact fun _ member => nomatch member
  | @cons disk next last generator settled rest generated settles others inductionHypothesis =>
    have writes := writes_of_settles settles |>.1
    have growth := writes.grows plain
    refine List.forall_mem_cons.mpr ⟨⟨plain, ?_⟩, fun turn member => ?_⟩
    · exact (writes.append (writes_of_completes others)).grows plain
    · obtain ⟨plainStage, further⟩ := inductionHypothesis (growth.isPlain plain) turn member
      refine ⟨plainStage, further.mono fun location => ?_⟩
      rintro ⟨artifact, inRest, rfl⟩
      exact ⟨artifact, List.mem_append_right _ inRest, growth.placeOf_eq _⟩

end Run

end Prebuild
