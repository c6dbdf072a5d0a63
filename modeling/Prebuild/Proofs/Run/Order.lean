/-
This file proves that the order of the generators makes no difference under the default settings,
on a disk that holds no links.

In a run that writes and succeeds, each generator delivers in its turn, so it delivers at the
beginning as well. From there any order can be run to the end: what a generator gives and whether
it can be written does not depend on what has been added before its turn. And no matter which of
two generators leaves its artifacts first, what the disk holds after both is the same.
-/

import Prebuild.Proofs.Delivery

namespace Prebuild

namespace Report

/-- The artifacts of one generator that have been settled, in order. -/
def artifactsBy (report : Report) (generator : Generator) : List Artifact :=
  (report.settled.filter fun entry => decide (entry.1 = generator)).map fun entry => entry.2.1

end Report

namespace Run

open Prebuild.Disk (Adds Delivers SameTree)

variable {root : Path} {disk last : Disk} {generators : List Generator} {turns : List Turn}
  {artifacts : Generator → List Artifact}

/-! ### From turns to deliveries -/

/-- In a turn that is completed the generator delivers. -/
theorem delivers_of_settles (plain : disk.IsPlain) (named : disk.IsNamed) {generator : Generator}
    {settled : List (Artifact × Verdict)}
    (generated : (generator.generate {} (disk.source root)).result =
      .ok (settled.map Prod.fst))
    (settles : Settles root .write disk settled last) :
    disk.Delivers root generator (settled.map Prod.fst) ∧ Adds root disk last := by
  obtain ⟨accepts, adds⟩ := Disk.accepts_of_writes plain
    (Generator.ready_of_generate plain generated) (Generator.exists_outputName named generated)
    (writes_of_settles settles).1
  exact ⟨⟨generated, accepts⟩, adds⟩

/-- A generator that has delivered in its turn could have delivered at the beginning. -/
theorem delivers_of_completes (plain : disk.IsPlain) (named : disk.IsNamed)
    (completes : Completes root {} .write disk turns last) :
    ∀ turn ∈ turns, disk.Delivers root turn.generator (turn.settled.map Prod.fst) := by
  induction completes with
  | nil disk => exact List.forall_mem_nil _
  | @cons disk next last generator settled rest generated settles others inductionHypothesis =>
    obtain ⟨delivers, adds⟩ := delivers_of_settles plain named generated settles
    have rooted := Generator.rooted_of_generate plain generated
    refine List.forall_mem_cons.mpr ⟨delivers, fun turn member => ?_⟩
    exact (adds.delivers_iff plain named rooted).mp
      (inductionHypothesis (adds.grows.isPlain plain) (adds.isNamed named) turn member)

theorem delivers_of_unhalted (plain : disk.IsPlain) (named : disk.IsNamed)
    (unhalted : (perform root {} .write generators disk).1.halt = none) :
    ∀ generator ∈ generators,
      disk.Delivers root generator (generator.artifacts {} (disk.source root)) := by
  obtain ⟨turns, last, rfl, -, completes⟩ := completes_of_unhalted unhalted
  intro generator member
  obtain ⟨turn, inTurns, rfl⟩ := List.mem_map.mp member
  have delivers := delivers_of_completes plain named completes turn inTurns
  rwa [Generator.artifacts_of_ok delivers.generated]

/-! ### From deliveries to turns -/

theorem settles_of_writes {artifacts : List Artifact}
    (writes : Disk.Writes root disk artifacts last) :
    Settles root .write disk (artifacts.map fun artifact => (artifact, .written)) last := by
  induction writes with
  | nil disk => exact .nil disk
  | cons written _ inductionHypothesis => exact .cons (settle_write written) inductionHypothesis

/-- What a place holds after generators have delivered, each over what was there before it. -/
def overlay (disk : Disk) (root : Path) (artifacts : Generator → List Artifact)
    (generators : List Generator) (location : Location) (kind : Option Kind) : Option Kind :=
  generators.foldl
    (fun kind generator => (disk.lastMark root location (artifacts generator)).or kind) kind

/-- Generators that deliver can take their turns in any order. -/
theorem exists_completes (plain : disk.IsPlain) (named : disk.IsNamed)
    (delivers : ∀ generator ∈ generators, disk.Delivers root generator (artifacts generator)) :
    ∃ turns last, Completes root {} .write disk turns last ∧
      turns.map (fun turn => (turn.generator, turn.settled)) =
        generators.map (fun generator =>
          (generator, (artifacts generator).map fun artifact => (artifact, .written))) ∧
      last.here = disk.here ∧
        ∀ location, last.look location =
          overlay disk root artifacts generators location (disk.look location) := by
  induction generators generalizing disk with
  | nil => exact ⟨[], disk, .nil disk, rfl, rfl, fun _ => rfl⟩
  | cons generator rest inductionHypothesis =>
    obtain ⟨first, others⟩ := List.forall_mem_cons.mp delivers
    have ready := Generator.ready_of_generate plain first.generated
    obtain ⟨next, writes, adds, look⟩ := Disk.exists_writes plain ready first.accepts
    obtain ⟨turns, last, completes, told, here, lookLast⟩ := inductionHypothesis
      (adds.grows.isPlain plain) (adds.isNamed named)
      fun other member => (adds.delivers_iff plain named ready.rooted).mpr (others other member)
    have given : ((artifacts generator).map fun artifact =>
        (artifact, Verdict.written)).map Prod.fst = artifacts generator := by
      rw [List.map_map]
      exact List.map_id _
    refine ⟨⟨generator, disk, _⟩ :: turns, last,
      .cons (by rw [first.generated, given]) (settles_of_writes writes) completes,
      congrArg (List.cons _) told, here.trans adds.here, fun location => ?_⟩
    rw [lookLast, look, overlay, overlay, adds.lastMark_eq]
    rfl

/-- What is told of the artifacts when generators have delivered in order. -/
def deliveries (artifacts : Generator → List Artifact) (generators : List Generator) :
    List (Generator × Artifact × Verdict) :=
  generators.flatMap fun generator =>
    (artifacts generator).map fun artifact => (generator, artifact, .written)

/-- A run of generators that deliver is not halted. What it tells of artifacts, and what it leaves
at each place, can be read off the beginning. -/
theorem perform_of_delivers (plain : disk.IsPlain) (named : disk.IsNamed)
    (delivers : ∀ generator ∈ generators, disk.Delivers root generator (artifacts generator)) :
    ∃ report last, perform root {} .write generators disk = (report, last) ∧
      report.halt = none ∧
      report.settled = deliveries artifacts generators ∧
      last.here = disk.here ∧
        ∀ location, last.look location =
          overlay disk root artifacts generators location (disk.look location) := by
  obtain ⟨turns, last, completes, told, here, look⟩ := exists_completes plain named delivers
  have selected : turns.map Turn.generator = generators := by
    have names := congrArg (List.map Prod.fst) told
    rw [List.map_map, List.map_map] at names
    exact names.trans (List.map_id generators)
  refine ⟨_, last, perform_eq_iff_completes.mpr ⟨turns, selected, rfl, completes⟩, rfl, ?_, here,
    look⟩
  have flat := congrArg (List.flatMap fun turn : Generator × List (Artifact × Verdict) =>
    turn.2.map fun entry => (turn.1, entry.1, entry.2)) told
  rw [List.flatMap_map, List.flatMap_map] at flat
  rw [settled_flatMap_events, flat, deliveries]
  simp only [List.map_map, Function.comp_def]

/-! ### Two orders -/

theorem stale_eq_nil {report : Report}
    (settled : report.settled = deliveries artifacts generators) : report.stale = [] := by
  rw [Report.stale, settled, List.filterMap_eq_nil_iff]
  intro entry member
  obtain ⟨generator, -, inArtifacts⟩ := List.mem_flatMap.mp member
  obtain ⟨artifact, -, rfl⟩ := List.mem_map.mp inArtifacts
  rfl

/-- The artifacts of one generator among all that are delivered, as often as it is run. -/
theorem artifactsBy_eq {report : Report}
    (settled : report.settled = deliveries artifacts generators) (generator : Generator) :
    report.artifactsBy generator =
      (List.replicate (generators.count generator) (artifacts generator)).flatten := by
  rw [Report.artifactsBy, settled]
  clear settled
  induction generators with
  | nil => rfl
  | cons first rest inductionHypothesis =>
    rw [deliveries, List.flatMap_cons, List.filter_append, List.map_append, ← deliveries,
      inductionHypothesis, List.filter_map, List.map_map]
    by_cases same : first = generator
    · subst same
      simp [Function.comp_def, List.replicate_succ]
    · simp [Function.comp_def, same]

/-- The order in which generators deliver makes no difference to what a place holds. -/
theorem overlay_eq_of_perm {first second : List Generator} (reordered : first.Perm second)
    (delivers : ∀ generator ∈ first, disk.Delivers root generator (artifacts generator))
    (location : Location) (kind : Option Kind) :
    overlay disk root artifacts first location kind =
      overlay disk root artifacts second location kind := by
  refine reordered.foldl_eq' (fun generator member other memberOther kind => ?_) kind
  by_cases same : generator = other
  · rw [same]
  · exact Disk.lastMark_or_comm same (delivers generator member).accepts
      (delivers other memberOther).accepts location kind

/-- The generators are independent under the default settings. Whatever a disk without links holds,
under names that entries can have, if a run that writes succeeds in one order of the generators,
then it succeeds in every other, with the same artifacts for each generator, and leaves the same
tree. -/
theorem order_does_not_matter (plain : disk.IsPlain) (named : disk.IsNamed) (root : Path)
    {first second : List Generator} (reordered : first.Perm second)
    (succeeds : (perform root {} .write first disk).1.Succeeds) :
    (perform root {} .write second disk).1.Succeeds ∧
      (∀ generator, (perform root {} .write second disk).1.artifactsBy generator =
        (perform root {} .write first disk).1.artifactsBy generator) ∧
      SameTree (perform root {} .write first disk).2 (perform root {} .write second disk).2 := by
  have delivers := delivers_of_unhalted plain named succeeds.unhalted
  obtain ⟨report, last, performed, -, settled, here, look⟩ :=
    perform_of_delivers plain named delivers
  obtain ⟨other, lastOther, performedOther, unhalted, settledOther, hereOther, lookOther⟩ :=
    perform_of_delivers plain named fun generator member =>
      delivers generator (reordered.mem_iff.mpr member)
  rw [performed, performedOther]
  refine ⟨⟨unhalted, stale_eq_nil settledOther⟩, fun generator => ?_,
    hereOther.trans here.symm, fun location => ?_⟩
  · rw [artifactsBy_eq settledOther, artifactsBy_eq settled, reordered.count_eq]
  · rw [look, lookOther, overlay_eq_of_perm reordered delivers]

/-- A tree with something for each generator, where a header is out of date and the directory of
the fragments is missing. -/
def boardDisk : Disk where
  top := .directory
    [("hal", .directory
      [("hw", .directory [("pro.h", .file (Text.toBytes "#define HW_MCU_STM32F405\n"))]),
        ("led.c", .file (Text.toBytes "SH_DEF(blink)\n"))]),
      ("app", .directory
        [("a.c", .file (Text.toBytes "SH_DEF(go)\n")), ("apdefs.h", .file ByteArray.empty)]),
      ("regfile.c", .file (Text.toBytes "REG_DEF(a, b, c)\n"))]
  here := []

theorem isPlain_boardDisk : boardDisk.IsPlain := Disk.isPlain_of_holdsNoLink rfl rfl

theorem isNamed_boardDisk : boardDisk.IsNamed := by
  have file := Node.isNamed_file
  refine Node.isNamed_directory (List.forall_mem_cons.mpr ⟨⟨by decide, ?hal⟩,
    List.forall_mem_cons.mpr ⟨⟨by decide, ?app⟩,
      List.forall_mem_singleton.mpr ⟨by decide, file _⟩⟩⟩)
  case hal =>
    refine Node.isNamed_directory (List.forall_mem_cons.mpr ⟨⟨by decide, ?headers⟩,
      List.forall_mem_singleton.mpr ⟨by decide, file _⟩⟩)
    exact Node.isNamed_directory (List.forall_mem_singleton.mpr ⟨by decide, file _⟩)
  case app =>
    exact Node.isNamed_directory (List.forall_mem_cons.mpr ⟨⟨by decide, file _⟩,
      List.forall_mem_singleton.mpr ⟨by decide, file _⟩⟩)

theorem order_does_not_matter_board :
    let first := perform "" {} .write Generator.all boardDisk
    let second := perform "" {} .write Generator.all.reverse boardDisk
    first.1.Succeeds ∧ second.1.Succeeds ∧
      second.1.artifactsBy .boardFragments = [⟨"hal/mk/pro.d", "HWMCU = STM32F405\n"⟩] ∧
      second.1.artifactsBy .shellCommands = [⟨"shdefs.h", "SH_DEF(go)\nSH_DEF(blink)\n"⟩] ∧
      SameTree first.2 second.2 := by
  intro first second
  have succeeds : first.1.Succeeds := ⟨by decide +kernel, by decide +kernel⟩
  obtain ⟨succeedsOther, artifacts, same⟩ := order_does_not_matter isPlain_boardDisk
    isNamed_boardDisk "" (List.reverse_perm Generator.all).symm succeeds
  refine ⟨succeeds, succeedsOther, (artifacts _).trans ?_, (artifacts _).trans ?_, same⟩
  · decide +kernel
  · decide +kernel

end Run

end Prebuild
