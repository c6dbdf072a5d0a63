/-
This file proves that writing again what has just been written changes nothing, on a
disk that holds no links. The first run interleaves reading and writing, so a generator
reads a disk that others have written to before it, while in the second run all of them
read the disk that the first has left. They find the same there if no generator reads
what the run writes, neither as an input nor as an entry of a directory that it lists.
-/

import Prebuild.Proofs.Agreement
import Prebuild.Proofs.Disk.Inputs
import Prebuild.Proofs.Disk.Listing
import Prebuild.Proofs.Run.CheckMode

namespace Prebuild

/-! ### What a generator finds on a disk that has grown -/

namespace Disk

variable {root : Path} {settings : Settings} {generator : Generator} {before after : Disk}

/-- A source tree has what a generator finds below a root on a disk, if another disk has grown to
it where neither the inputs of the generator nor the directories that it lists are concerned. -/
theorem Grows.agrees {written : Location → Prop} (growth : Grows written before after)
    (plain : before.IsPlain)
    (listings : ∀ listing ∈ generator.listings settings, ∀ location name,
      before.Denotes (root.join listing.1) location →
        Path.nameHasExtension listing.2 name = true → ¬written (location ++ [name]))
    (inputs : ∀ path ∈ generator.reads settings (before.source root), ∀ location,
      before.Denotes (root.join path) location → ¬written location) :
    Generator.Agrees settings generator (before.source root) (after.source root) := by
  constructor
  · intro listing asked paths success
    exact listFiles_of_grows growth plain (listings listing asked) success
  · intro path asked text read
    obtain ⟨location, bytes, found, valid⟩ :=
      readText_eq_ok_iff.mp (source_read_eq_ok_iff.mp read)
    have still := growth.find_file plain (inputs path asked location ⟨_, found⟩) found
    exact source_read_eq_ok_iff.mpr (readText_eq_ok_iff.mpr ⟨location, bytes, still, valid⟩)

end Disk

namespace Run

variable {root : Path} {settings : Settings} {disk final : Disk} {generators : List Generator}
  {turns : List Turn}

/-! ### Runs that write nothing that they read -/

/-- The generators of a run that writes, each with the disk that it reads from. -/
def stages (root : Path) (settings : Settings) : List Generator → Disk → List (Generator × Disk)
  | [], _ => []
  | generator :: rest, disk =>
    (generator, disk) :: stages root settings rest
      (single Disk.workspace root settings .write generator disk).2

/-- Nothing that a run has written is something that it reads: its artifacts denote different
files, and none of these is an input of a generator at the disk that this reads from, or lies
directly in a directory that a generator lists, under a name with the extension that it asks
for. -/
structure IsSeparate (root : Path) (settings : Settings) (generators : List Generator)
    (disk final : Disk) (artifacts : List Artifact) : Prop where
  outputs : final.AreApart root artifacts
  inputs : ∀ stage ∈ stages root settings generators disk,
    ∀ input ∈ stage.1.reads settings (stage.2.source root), ∀ artifact ∈ artifacts,
      ¬final.Same (root.join input) (root.join artifact.path)
  listings : ∀ generator ∈ generators, ∀ listing ∈ generator.listings settings,
    ∀ artifact ∈ artifacts, ∀ location name, final.Denotes (root.join listing.1) location →
      Path.nameHasExtension listing.2 name = true →
        ¬final.Denotes (root.join artifact.path) (location ++ [name])

theorem stages_of_completes (completes : Completes root settings .write disk turns final) :
    stages root settings (turns.map Turn.generator) disk =
      turns.map fun turn => (turn.generator, turn.stage) := by
  induction completes with
  | nil disk => rfl
  | cons generated settles others inductionHypothesis =>
    rw [List.map_cons, stages, single_eq_iff_settles.mpr ⟨_, generated, rfl, settles⟩,
      inductionHypothesis]
    rfl

/-- In a run that writes nothing that it reads, each generator gives at the end of the run what it
has given in its turn, notes included. -/
theorem generate_eq_of_isSeparate (plain : disk.IsPlain)
    (completes : Completes root settings .write disk turns final)
    (isSeparate : IsSeparate root settings (turns.map Turn.generator) disk final
      (artifactsOf turns)) :
    ∀ turn ∈ turns, turn.generator.generate settings (final.source root) =
      turn.generator.generate settings (turn.stage.source root) := by
  intro turn member
  obtain ⟨plainStage, growth⟩ := grows_of_completes plain completes turn member
  have denotes := (writes_of_completes completes).denotes plain
  -- A place that is written and read is denoted by both paths on the disk at the end as well.
  refine Generator.generate_eq_of_agrees (growth.agrees plainStage ?_ ?_)
    (completes.generated turn member)
  · intro listing asked location name directory extended
    rintro ⟨artifact, written, place⟩
    refine isSeparate.listings turn.generator (List.mem_map_of_mem member) listing asked artifact
      written location name (growth.denotes plainStage directory) extended ?_
    rw [place]
    exact denotes artifact written
  · intro input asked location there
    rintro ⟨artifact, written, rfl⟩
    have stage : (turn.generator, turn.stage) ∈
        stages root settings (turns.map Turn.generator) disk := by
      rw [stages_of_completes completes]
      exact List.mem_map_of_mem member
    exact isSeparate.inputs _ stage input asked artifact written
      ⟨_, growth.denotes plainStage there, denotes artifact written⟩

/-! ### Writing again -/

/-- What is told of a turn at its own disk and at another is the same if the generator gives the
same there. -/
theorem flatMap_events_eq
    (generates : ∀ turn ∈ turns, turn.generator.generate settings (final.source root) =
      turn.generator.generate settings (turn.stage.source root))
    (generated : ∀ turn ∈ turns,
      (turn.generator.generate settings (turn.stage.source root)).result =
        .ok (turn.settled.map Prod.fst))
    (written : ∀ turn ∈ turns, ∀ entry ∈ turn.settled, entry.2 = .written) :
    (turnsAt root settings final (fun _ => .written) (turns.map Turn.generator)).flatMap
        (Turn.events root settings) = turns.flatMap (Turn.events root settings) := by
  rw [turnsAt, List.map_map, List.flatMap_map]
  refine List.flatMap_congr fun turn member => ?_
  have given := generated turn member
  rw [← generates turn member] at given
  have settled : (turn.settled.map Prod.fst).map (fun artifact => (artifact, Verdict.written)) =
      turn.settled := by
    rw [List.map_map]
    refine (List.map_congr_left fun entry inTurn => ?_).trans (List.map_id turn.settled)
    exact Prod.ext rfl (written turn member entry inTurn).symm
  show Turn.events root settings ⟨turn.generator, final, _⟩ = _
  rw [Generator.artifacts_of_ok given, settled, Turn.events, Turn.events, generates turn member]
  rfl

/-- A run that has succeeded is a fixed point. If it writes nothing that it reads, then running
once more tells the same, with the same artifacts in the same order, and leaves the disk as the
first run has left it; and a comparison after the first run succeeds. -/
theorem write_again (plain : disk.IsPlain)
    (succeeds : (perform root settings .write generators disk).1.Succeeds)
    (isSeparate : IsSeparate root settings generators disk
      (perform root settings .write generators disk).2
      (perform root settings .write generators disk).1.artifacts) :
    perform root settings .write generators (perform root settings .write generators disk).2 =
        perform root settings .write generators disk ∧
      (perform root settings .check generators
        (perform root settings .write generators disk).2).1.Succeeds := by
  obtain ⟨turns, last, rfl, performed, completes⟩ := completes_of_unhalted succeeds.unhalted
  rw [performed] at isSeparate ⊢
  rw [artifacts_flatMap_events] at isSeparate
  have generates := generate_eq_of_isSeparate plain completes isSeparate
  have current := (writes_of_completes completes).isCurrent plain isSeparate.outputs
  have plainLast : last.IsPlain := ((writes_of_completes completes).grows plain).isPlain plain
  have upToDate : IsUpToDate root settings last (turns.map Turn.generator) :=
    isUpToDate_of_generates (fun turn member => by
      rw [generates turn member]
      exact completes.generated turn member) current
  refine ⟨?_, check_succeeds_iff.mpr upToDate⟩
  rw [perform_of_isSteady (isSteady_write_of_isUpToDate plainLast upToDate),
    flatMap_events_eq generates completes.generated (written_of_completes completes)]

/-- A tree with one application and one register, before anything has been generated. -/
def firmwareDisk : Disk where
  top := .directory [("app", .directory [("a.c", .file ByteArray.empty)]),
    ("regfile.c", .file (Text.toBytes "REG_DEF(a, b, c)\n"))]
  here := []

theorem isPlain_firmwareDisk : firmwareDisk.IsPlain :=
  Disk.isPlain_of_holdsNoLink rfl rfl

/-- What a run of two generators tells of the firmware, and the disk that it leaves. -/
def firmwareRun : Report × Disk :=
  perform "" {} .write [.applications, .registerIdentifiers] firmwareDisk

theorem firmwareRun_succeeds : firmwareRun.1.Succeeds := ⟨by decide +kernel, by decide +kernel⟩

theorem firmwareRun_artifacts : firmwareRun.1.artifacts =
    [⟨"app/apdefs.h", "APP_DEF(A)\n"⟩, ⟨"regdefs.h", "ID_AB,\n"⟩] := by decide +kernel

theorem firmwareRun_grows :
    firmwareDisk.Grows (firmwareDisk.placesOf "" firmwareRun.1.artifacts) firmwareRun.2 := by
  have unhalted := firmwareRun_succeeds.unhalted
  unfold firmwareRun at unhalted ⊢
  exact grows_of_write isPlain_firmwareDisk unhalted

theorem eq_placeOf_firmwareDisk {path : Path} {location : Location}
    (denotes : firmwareRun.2.Denotes path location) : location = firmwareDisk.placeOf path :=
  (denotes.eq_placeOf (firmwareRun_grows.isPlain isPlain_firmwareDisk)).trans
    (firmwareRun_grows.placeOf_eq path)

theorem not_same_firmwareRun {first second : Path}
    (apart : firmwareDisk.placeOf first ≠ firmwareDisk.placeOf second) :
    ¬firmwareRun.2.Same first second := by
  rintro ⟨location, there, also⟩
  exact apart ((eq_placeOf_firmwareDisk there).symm.trans (eq_placeOf_firmwareDisk also))

theorem isSeparate_firmwareRun :
    IsSeparate "" {} [.applications, .registerIdentifiers] firmwareDisk firmwareRun.2
      firmwareRun.1.artifacts := by
  rw [firmwareRun_artifacts]
  refine ⟨List.pairwise_pair.mpr (not_same_firmwareRun (by decide)), ?_, ?_⟩
  · intro stage member input read artifact written
    rw [stages, stages, stages] at member
    rcases List.mem_pair.mp member with rfl | rfl
    · cases read
    · obtain rfl := List.mem_singleton.mp read
      rcases List.mem_pair.mp written with rfl | rfl
      · exact not_same_firmwareRun (by decide)
      · exact not_same_firmwareRun (by decide)
  · intro generator selected listing asked artifact written location name _ extended denotes
    rcases List.mem_pair.mp selected with rfl | rfl
    · obtain rfl := List.mem_singleton.mp asked
      have place := congrArg List.getLast? (eq_placeOf_firmwareDisk denotes)
      rw [List.getLast?_concat] at place
      rcases List.mem_pair.mp written with rfl | rfl
      · rw [show name = ("apdefs.h" : Name) from Option.some.inj place] at extended
        exact absurd extended (by decide)
      · rw [show name = ("regdefs.h" : Name) from Option.some.inj place] at extended
        exact absurd extended (by decide)
    · cases asked

theorem write_again_firmware :
    firmwareRun.1.Succeeds ∧
      perform "" {} .write [.applications, .registerIdentifiers] firmwareRun.2 = firmwareRun ∧
      (perform "" {} .check [.applications, .registerIdentifiers] firmwareRun.2).1.Succeeds := by
  have succeeds := firmwareRun_succeeds
  have isSeparate := isSeparate_firmwareRun
  unfold firmwareRun at succeeds isSeparate ⊢
  exact ⟨succeeds, write_again isPlain_firmwareDisk succeeds isSeparate⟩

end Run

end Prebuild
