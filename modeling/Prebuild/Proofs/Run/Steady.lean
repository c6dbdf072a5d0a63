/-
This file treats runs that leave the disk as it is. In such a run every generator
finds the disk as it was at the beginning, so what is told of the run can be read off
that disk: which artifacts the generators give there, and what becomes of each.
-/

import Prebuild.Proofs.Run.Course

namespace Prebuild

/-- The artifacts that a generator gives. It gives none where it fails. -/
def Generator.artifacts (settings : Settings) (source : Source) (generator : Generator) :
    List Artifact :=
  match (generator.generate settings source).result with
  | .ok artifacts => artifacts
  | .error _ => []

theorem Generator.artifacts_of_ok {settings : Settings} {source : Source}
    {generator : Generator} {artifacts : List Artifact}
    (generated : (generator.generate settings source).result = .ok artifacts) :
    generator.artifacts settings source = artifacts := by
  rw [Generator.artifacts, generated]

namespace Report

/-- The artifacts that have been settled, in order. -/
def artifacts (report : Report) : List Artifact := report.settled.map fun entry => entry.2.1

/-- A run succeeds if it is not halted and finds no artifact out of date. -/
structure Succeeds (report : Report) : Prop where
  unhalted : report.halt = none
  fresh : report.stale = []

end Report

namespace Run

variable {root : Path} {settings : Settings} {mode : Mode} {disk : Disk}
  {generators : List Generator} {verdict : Artifact → Verdict}

/-- The artifacts that generators give at a disk, in order. -/
def generated (root : Path) (settings : Settings) (disk : Disk) (generators : List Generator) :
    List Artifact :=
  generators.flatMap (Generator.artifacts settings (disk.source root))

/-- The turns of generators that all begin at one disk, where each artifact has its verdict. -/
def turnsAt (root : Path) (settings : Settings) (disk : Disk) (verdict : Artifact → Verdict)
    (generators : List Generator) : List Turn :=
  generators.map fun generator =>
    ⟨generator, disk, (generator.artifacts settings (disk.source root)).map fun artifact =>
      (artifact, verdict artifact)⟩

/-- At a disk every generator gives artifacts, and each of them gets its verdict without a
change to the disk. -/
def IsSteady (root : Path) (settings : Settings) (mode : Mode) (disk : Disk)
    (verdict : Artifact → Verdict) (generators : List Generator) : Prop :=
  ∀ generator ∈ generators, ∃ artifacts,
    (generator.generate settings (disk.source root)).result = .ok artifacts ∧
      ∀ artifact ∈ artifacts,
        settle Disk.workspace root mode artifact disk = (.ok (verdict artifact), disk)

theorem settles_of_steady {artifacts : List Artifact}
    (steady : ∀ artifact ∈ artifacts,
      settle Disk.workspace root mode artifact disk = (.ok (verdict artifact), disk)) :
    Settles root mode disk (artifacts.map fun artifact => (artifact, verdict artifact)) disk := by
  induction artifacts with
  | nil => exact .nil disk
  | cons artifact rest inductionHypothesis =>
    obtain ⟨first, others⟩ := List.forall_mem_cons.mp steady
    exact .cons first (inductionHypothesis others)

theorem completes_of_isSteady (steady : IsSteady root settings mode disk verdict generators) :
    Completes root settings mode disk (turnsAt root settings disk verdict generators) disk := by
  induction generators with
  | nil => exact .nil disk
  | cons generator rest inductionHypothesis =>
    obtain ⟨⟨artifacts, given, settled⟩, others⟩ := List.forall_mem_cons.mp steady
    rw [turnsAt, List.map_cons, Generator.artifacts_of_ok given]
    refine .cons ?_ (settles_of_steady settled) (inductionHypothesis others)
    rw [given, List.map_map]
    exact congrArg Except.ok (List.map_id artifacts).symm

/-- A run at a disk where it is steady leaves the disk as it is, and is told from it alone. -/
theorem perform_of_isSteady (steady : IsSteady root settings mode disk verdict generators) :
    perform root settings mode generators disk =
      (⟨(turnsAt root settings disk verdict generators).flatMap (Turn.events root settings),
        none⟩, disk) := by
  refine perform_eq_iff_completes.mpr ⟨_, ?_, rfl, completes_of_isSteady steady⟩
  rw [turnsAt, List.map_map]
  exact List.map_id generators

/-! ### What is told of a steady run -/

theorem settled_turnsAt (halt : Option Halt) :
    Report.settled
        ⟨(turnsAt root settings disk verdict generators).flatMap (Turn.events root settings),
          halt⟩ =
      generators.flatMap fun generator =>
        (generator.artifacts settings (disk.source root)).map fun artifact =>
          (generator, artifact, verdict artifact) := by
  rw [settled_flatMap_events, turnsAt, List.flatMap_map]
  simp only [List.map_map, Function.comp_def]

/-- The artifacts out of date are those among the generated ones that have this verdict. -/
theorem stale_turnsAt (halt : Option Halt) :
    Report.stale
        ⟨(turnsAt root settings disk verdict generators).flatMap (Turn.events root settings),
          halt⟩ =
      (generated root settings disk generators).filter fun artifact =>
        decide (verdict artifact = .outOfDate) := by
  rw [Report.stale, settled_turnsAt, List.filterMap_flatMap, generated, List.filter_flatMap]
  refine congrArg (generators.flatMap ·) (funext fun generator => ?_)
  rw [List.filterMap_map, ← List.filterMap_eq_filter]
  refine congrArg (List.filterMap · _) (funext fun artifact => ?_)
  by_cases stale : verdict artifact = .outOfDate
  · simp [stale, Option.guard]
  · simp [stale, Option.guard]

theorem succeeds_turnsAt (fresh : ∀ artifact, verdict artifact ≠ .outOfDate) :
    Report.Succeeds
      ⟨(turnsAt root settings disk verdict generators).flatMap (Turn.events root settings),
        none⟩ := by
  refine ⟨rfl, ?_⟩
  rw [stale_turnsAt, List.filter_eq_nil_iff]
  intro artifact _ stale
  exact fresh artifact (of_decide_eq_true stale)

theorem countGood_turnsAt (halt : Option Halt) :
    Report.countGood
        ⟨(turnsAt root settings disk verdict generators).flatMap (Turn.events root settings),
          halt⟩ =
      (generated root settings disk generators).countP fun artifact =>
        decide (verdict artifact ≠ .outOfDate) := by
  rw [Report.countGood, settled_turnsAt, List.countP_flatMap, generated, List.countP_flatMap]
  simp only [List.countP_map, Function.comp_def]

/-- Each generated artifact is counted or named as out of date. -/
theorem countGood_add_length_stale (halt : Option Halt) :
    Report.countGood
        ⟨(turnsAt root settings disk verdict generators).flatMap (Turn.events root settings),
          halt⟩ +
      (Report.stale
        ⟨(turnsAt root settings disk verdict generators).flatMap (Turn.events root settings),
          halt⟩).length =
      (generated root settings disk generators).length := by
  rw [countGood_turnsAt, stale_turnsAt, ← List.countP_eq_length_filter, Nat.add_comm]
  rw [List.length_eq_countP_add_countP fun artifact => decide (verdict artifact = .outOfDate)]
  simp only [ne_eq, decide_not, decide_eq_true_eq]

end Run

end Prebuild
