/-
This file follows what the artifacts of the generators do to a disk that holds no links, when
they are written below a root under the default settings.

An artifact that can be written leaves its file, and the directory of the fragments if that was
missing. Neither is anything that a generator asks for, and neither decides whether another
artifact can be written. So whether a generator delivers does not depend on what others have
delivered before, and what is left can be told place by place: it is what the last artifact has
left there, or what was there from the beginning.
-/

import Prebuild.Proofs.DefaultLayout
import Prebuild.Proofs.Disk.Effect

namespace Prebuild.Disk

variable {root : Path} {generator other : Generator} {disk before middle after : Disk}
  {location : Location} {name : Name} {artifact : Artifact} {artifacts others : List Artifact}

/-! ### Disks to which artifacts have been added -/

/-- What has become of a place when artifacts have been written below a root. -/
inductive Change (root : Path) (before after : Disk) (location : Location) : Prop where
  /-- It is as it was. -/
  | kept (same : after.look location = before.look location)
  /-- An artifact has been put there. -/
  | written {generator : Generator} {name : Name} {bytes : ByteArray}
      (isOutput : generator.IsOutputName name)
      (place : location = before.placeOf root ++ (generator.outputFolder ++ [name]))
      (free : before.look location ≠ some .directory)
      (there : after.look location = some (.file bytes))
  /-- The directory of the fragments has been made there. -/
  | made (place : location = before.placeOf root ++ Generator.boardFragments.outputFolder)
      (missing : before.look location = none)
      (there : after.look location = some .directory)

/-- One disk is another to which artifacts have been added below a root. -/
structure Adds (root : Path) (before after : Disk) : Prop where
  here : after.here = before.here
  change : ∀ location, Change root before after location

/-- The places below a root where artifacts can be. -/
def outputsBelow (disk : Disk) (root : Path) : Location → Prop := fun location =>
  ∃ generator name, Generator.IsOutputName generator name ∧
    location = disk.placeOf root ++ (generator.outputFolder ++ [name])

namespace Adds

theorem refl (root : Path) (disk : Disk) : Adds root disk disk := ⟨rfl, fun _ => .kept rfl⟩

theorem grows (adds : Adds root before after) :
    Grows (before.outputsBelow root) before after := by
  refine ⟨adds.here, fun location found => ?_, fun location bytes found => ?_,
    fun location bytes unwritten => ?_, fun location target found => ?_⟩
  · cases adds.change location with
    | kept same => rw [same, found]
    | written _ _ free _ => exact absurd found free
    | made _ _ there => exact there
  · cases adds.change location with
    | kept same => exact ⟨bytes, same.trans found⟩
    | written _ _ _ there => exact ⟨_, there⟩
    | made _ missing _ => cases missing.symm.trans found
  · cases adds.change location with
    | kept same => rw [same]
    | written isOutput place _ _ => exact absurd ⟨_, _, isOutput, place⟩ unwritten
    | made _ missing there => rw [missing, there]; exact ⟨nofun, nofun⟩
  · cases adds.change location with
    | kept same => exact same.symm.trans found
    | written _ _ _ there => cases there.symm.trans found
    | made _ _ there => cases there.symm.trans found

theorem placeOf_eq (adds : Adds root before after) (path : Path) :
    after.placeOf path = before.placeOf path := adds.grows.placeOf_eq path

theorem missing (adds : Adds root before after) (found : after.look location = none) :
    before.look location = none := by
  cases adds.change location with
  | kept same => exact same.symm.trans found
  | written _ _ _ there => cases there.symm.trans found
  | made _ missing _ => exact missing

theorem trans (first : Adds root before middle) (second : Adds root middle after) :
    Adds root before after := by
  refine ⟨second.here.trans first.here, fun location => ?_⟩
  cases second.change location with
  | kept same =>
    cases first.change location with
    | kept still => exact .kept (same.trans still)
    | written isOutput place free there => exact .written isOutput place free (same.trans there)
    | made place missing there => exact .made place missing (same.trans there)
  | written isOutput place free there =>
    rw [first.placeOf_eq] at place
    exact .written isOutput place
      (fun taken => free (first.grows.directories location taken)) there
  | made place missing there =>
    rw [first.placeOf_eq] at place
    exact .made place (first.missing missing) there

theorem rooted (adds : Adds root before after) (rooted : before.Rooted root) :
    after.Rooted root := by
  refine ⟨?_, ?_⟩
  · rw [adds.here]
    exact rooted.way.mono adds.grows.directories
  · rw [adds.placeOf_eq]
    exact adds.grows.directories _ rooted.inside

theorem ready (adds : Adds root before after) (ready : before.Ready root generator) :
    after.Ready root generator := by
  refine ⟨adds.rooted ready.rooted, ?_, ?_⟩
  · rw [adds.placeOf_eq]
    exact ready.way.mono adds.grows.directories
  · rw [adds.placeOf_eq]
    exact ready.there.imp_left (adds.grows.directories _)

theorem isNamed (adds : Adds root before after) (named : before.IsNamed) : after.IsNamed := by
  intro location name there
  cases adds.change (location ++ [name]) with
  | kept same => exact named location name fun missing => there (same.trans missing)
  | written isOutput place _ _ =>
    rw [← List.append_assoc] at place
    obtain rfl := List.singleton_inj.mp (List.append_inj_right' place rfl)
    exact isOutput.isName
  | made place _ _ =>
    have split : location ++ [name] =
        before.placeOf root ++ [Text.bytes "hal"] ++ [Text.bytes "mk"] := by
      rw [place, List.append_assoc]
      rfl
    obtain rfl := List.singleton_inj.mp (List.append_inj_right' split rfl)
    decide

/-- What is apart from the artifacts is as it was. -/
theorem look_of_isApart (adds : Adds root before after) (apart : IsApart location) :
    after.look (before.placeOf root ++ location) =
      before.look (before.placeOf root ++ location) := by
  cases adds.change (before.placeOf root ++ location) with
  | kept same => exact same
  | written isOutput place _ _ =>
    rw [List.append_cancel_left place] at apart
    exact absurd apart (not_isApart_output isOutput)
  | made place _ _ =>
    rw [List.append_cancel_left place] at apart
    exact absurd apart (by decide)

theorem alike (adds : Adds root before after) (plain : before.IsPlain) (named : before.IsNamed)
    (rooted : before.Rooted root) : Alike root before after where
  here := adds.here
  plainFirst := plain
  plainSecond := adds.grows.isPlain plain
  rootedFirst := rooted
  rootedSecond := adds.rooted rooted
  look _ apart := adds.look_of_isApart apart
  named _ name _ there := named _ name (by rwa [List.append_assoc])

/-! ### Whether artifacts can be written -/

/-- The directory of a generator is there or missing as it was, apart from being made. -/
theorem parent_iff (adds : Adds root before after) (generator : Generator) :
    (after.look (before.placeOf root ++ generator.outputFolder) = none ∨
        after.look (before.placeOf root ++ generator.outputFolder) = some .directory) ↔
      (before.look (before.placeOf root ++ generator.outputFolder) = none ∨
        before.look (before.placeOf root ++ generator.outputFolder) = some .directory) := by
  cases adds.change (before.placeOf root ++ generator.outputFolder) with
  | kept same => rw [same]
  | written isOutput place _ _ =>
    exact absurd (List.append_cancel_left place).symm (Generator.outputFolder_ne isOutput)
  | made _ missing there => exact ⟨fun _ => .inl missing, fun _ => .inr there⟩

/-- Where an artifact can be, there is a directory just as there was. -/
theorem free_iff (adds : Adds root before after) (isOutput : generator.IsOutputName name) :
    after.look (before.placeOf root ++ (generator.outputFolder ++ [name])) ≠ some .directory ↔
      before.look (before.placeOf root ++ (generator.outputFolder ++ [name])) ≠
        some .directory := by
  cases adds.change (before.placeOf root ++ (generator.outputFolder ++ [name])) with
  | kept same => rw [same]
  | written _ _ free there =>
    rw [there]
    exact ⟨fun _ => free, fun _ => nofun⟩
  | made place _ _ =>
    exact absurd (List.append_cancel_left place) (Generator.outputFolder_ne isOutput)

theorem admits_iff (adds : Adds root before after) (isOutput : generator.IsOutputName name) :
    after.Admits (root.join generator.outputDirectory) name ↔
      before.Admits (root.join generator.outputDirectory) name := by
  have place := generator.descends_outputDirectory.placeOf before root
  have parent := adds.parent_iff generator
  have free := adds.free_iff isOutput
  rw [← List.append_assoc] at free
  rw [← place] at parent free
  constructor
  · rintro ⟨noNul, short, fits, above, unused⟩
    rw [adds.placeOf_eq] at above unused
    exact ⟨noNul, short, fits, parent.mp above, free.mp unused⟩
  · rintro ⟨noNul, short, fits, above, unused⟩
    refine ⟨noNul, short, fits, ?_, ?_⟩
    · rw [adds.placeOf_eq]
      exact parent.mpr above
    · rw [adds.placeOf_eq]
      exact free.mpr unused

end Adds

/-- An artifact of a generator can be written below a root: it has one of the names in the
directory of the generator, and the directory admits it. -/
def Accepts (disk : Disk) (root : Path) (generator : Generator) (artifact : Artifact) : Prop :=
  ∃ name, generator.IsOutputName name ∧
    artifact.path = generator.outputDirectory.join ⟨name⟩ ∧
      disk.Admits (root.join generator.outputDirectory) name

theorem Adds.accepts_iff (adds : Adds root before after) :
    after.Accepts root generator artifact ↔ before.Accepts root generator artifact :=
  exists_congr fun _ => and_congr_right fun isOutput =>
    and_congr_right fun _ => adds.admits_iff isOutput

/-! ### What artifacts leave -/

/-- What an artifact leaves at a place, if anything: its file, or the directory of that. -/
def mark (disk : Disk) (root : Path) (location : Location) (artifact : Artifact) : Option Kind :=
  if location = disk.placeOf (root.join artifact.path) then
    some (.file (Text.toBytes artifact.contents))
  else if location = (disk.placeOf (root.join artifact.path)).dropLast then some .directory
  else none

/-- What artifacts leave at a place, if anything, when they are written one after the other. -/
def lastMark (disk : Disk) (root : Path) (location : Location) (artifacts : List Artifact) :
    Option Kind :=
  artifacts.reverse.findSome? (disk.mark root location)

theorem lastMark_cons (disk : Disk) (root : Path) (location : Location) (artifact : Artifact)
    (artifacts : List Artifact) :
    disk.lastMark root location (artifact :: artifacts) =
      (disk.lastMark root location artifacts).or (disk.mark root location artifact) := by
  rw [lastMark, List.reverse_cons, List.findSome?_append, List.findSome?_singleton, lastMark]

theorem Adds.mark_eq (adds : Adds root before after) : after.mark root = before.mark root := by
  funext location artifact
  rw [mark, mark, adds.placeOf_eq]

theorem Adds.lastMark_eq (adds : Adds root before after) :
    after.lastMark root = before.lastMark root := by
  funext location artifacts
  rw [lastMark, lastMark, adds.mark_eq]

theorem placeOf_output (disk : Disk) (root : Path) (isOutput : generator.IsOutputName name) :
    disk.placeOf (root.join (generator.outputDirectory.join ⟨name⟩)) =
      disk.placeOf root ++ (generator.outputFolder ++ [name]) :=
  (generator.descends_outputDirectory.join isOutput.isName).placeOf disk root

/-- An artifact leaves a file where it belongs and a directory at that of its generator, and
nothing elsewhere. -/
theorem Accepts.mark_eq (accepts : disk.Accepts root generator artifact) (location : Location) :
    ∃ name, generator.IsOutputName name ∧ disk.mark root location artifact =
      if location = disk.placeOf root ++ (generator.outputFolder ++ [name]) then
        some (.file (Text.toBytes artifact.contents))
      else if location = disk.placeOf root ++ generator.outputFolder then some .directory
      else none := by
  obtain ⟨name, isOutput, path, -⟩ := accepts
  refine ⟨name, isOutput, ?_⟩
  rw [mark, path, placeOf_output disk root isOutput, ← List.append_assoc, List.dropLast_concat]

/-- Artifacts of different generators leave the same at a place, if both leave something. -/
theorem mark_unique (different : generator ≠ other) {first second : Artifact}
    (accepts : disk.Accepts root generator first) (accepted : disk.Accepts root other second)
    {kind otherKind : Kind} (left : disk.mark root location first = some kind)
    (leftOther : disk.mark root location second = some otherKind) : kind = otherKind := by
  obtain ⟨name, isOutput, mark⟩ := accepts.mark_eq location
  obtain ⟨otherName, isOther, otherMark⟩ := accepted.mark_eq location
  rw [mark] at left
  rw [otherMark] at leftOther
  split_ifs at left leftOther with file otherFile otherAbove above otherFile otherAbove
  · exact absurd (List.append_cancel_left (file.symm.trans otherFile))
      (Generator.output_ne different isOutput isOther)
  · exact absurd (List.append_cancel_left (file.symm.trans otherAbove))
      (Generator.outputFolder_ne isOutput)
  · exact absurd (List.append_cancel_left (otherFile.symm.trans above))
      (Generator.outputFolder_ne isOther)
  · rw [← Option.some.inj left, ← Option.some.inj leftOther]

theorem lastMark_unique (different : generator ≠ other)
    (accepts : ∀ artifact ∈ artifacts, disk.Accepts root generator artifact)
    (accepted : ∀ artifact ∈ others, disk.Accepts root other artifact)
    {kind otherKind : Kind} (left : disk.lastMark root location artifacts = some kind)
    (leftOther : disk.lastMark root location others = some otherKind) : kind = otherKind := by
  obtain ⟨first, member, mark⟩ := List.exists_of_findSome?_eq_some left
  obtain ⟨second, memberOther, otherMark⟩ := List.exists_of_findSome?_eq_some leftOther
  exact mark_unique different (accepts first (List.mem_reverse.mp member))
    (accepted second (List.mem_reverse.mp memberOther)) mark otherMark

/-- It does not matter which of two generators leaves its artifacts first. -/
theorem lastMark_or_comm (different : generator ≠ other)
    (accepts : ∀ artifact ∈ artifacts, disk.Accepts root generator artifact)
    (accepted : ∀ artifact ∈ others, disk.Accepts root other artifact)
    (location : Location) (kind : Option Kind) :
    (disk.lastMark root location others).or ((disk.lastMark root location artifacts).or kind) =
      (disk.lastMark root location artifacts).or
        ((disk.lastMark root location others).or kind) := by
  cases left : disk.lastMark root location artifacts with
  | none => rfl
  | some mark =>
    cases leftOther : disk.lastMark root location others with
    | none => rfl
    | some otherMark =>
      exact congrArg some (lastMark_unique different accepts accepted left leftOther).symm

/-! ### Writing artifacts -/

namespace Ready

/-- The way to the directory of the generator is open. -/
theorem open_outputDirectory (ready : disk.Ready root generator) :
    disk.Open (root.join generator.outputDirectory).steps
      (startOf (root.join generator.outputDirectory) disk.here) := by
  rw [open_join_iff root generator.descends_outputDirectory.relative,
    generator.steps_outputDirectory]
  exact ⟨ready.rooted.way, ready.way⟩

/-- Only the directory of the fragments can be missing. -/
theorem eq_boardFragments (ready : disk.Ready root generator)
    (missing : disk.look (disk.placeOf root ++ generator.outputFolder) = none) :
    generator = .boardFragments := by
  rcases ready.there with there | fragments
  · cases missing.symm.trans there
  · exact fragments

/-- The path to a missing directory ends with its name. -/
theorem exists_last (ready : disk.Ready root generator)
    (missing : disk.look (disk.placeOf (root.join generator.outputDirectory)) = none) :
    ∃ front last, (root.join generator.outputDirectory).steps = front ++ [.name last] := by
  rw [generator.descends_outputDirectory.placeOf] at missing
  obtain rfl := ready.eq_boardFragments missing
  refine ⟨root.steps ++ [.name "hal"], "mk", ?_⟩
  rw [Path.steps_join root (Generator.descends_outputDirectory _).relative, List.append_assoc]
  rfl

end Ready

/-- An artifact that can be written is. It is added to the disk, with what it leaves. -/
theorem write_of_accepts (plain : disk.IsPlain) (ready : disk.Ready root generator)
    (accepts : disk.Accepts root generator artifact) :
    ∃ next, disk.write root artifact = (.ok (), next) ∧ Adds root disk next ∧
      ∀ location, next.look location =
        (disk.mark root location artifact).or (disk.look location) := by
  obtain ⟨name, isOutput, path, admits⟩ := accepts
  obtain ⟨next, written, here, look⟩ := write_of_admits plain admits isOutput.isName
    (by rw [path, Path.join_assoc]) ready.open_outputDirectory ready.exists_last
  have above := generator.descends_outputDirectory.placeOf disk root
  rw [above, List.append_assoc] at look
  refine ⟨next, written, ⟨here, fun location => ?_⟩, fun location => ?_⟩
  · have looked := look location
    split_ifs at looked with file folder
    · refine .written isOutput file ?_ looked
      rw [file, ← List.append_assoc, ← above]
      exact admits.free
    · have parent := admits.parent
      rw [above, ← folder] at parent
      rcases parent with missing | there
      · obtain rfl := ready.eq_boardFragments (folder ▸ missing)
        exact .made folder missing looked
      · exact .kept (looked.trans there.symm)
    · exact .kept looked
  · rw [look, mark, path, placeOf_output disk root isOutput, ← List.append_assoc,
      List.dropLast_concat]
    split_ifs <;> rfl

/-- Artifacts that can be written are, one after the other. -/
theorem exists_writes (plain : disk.IsPlain) (ready : disk.Ready root generator)
    (accepts : ∀ artifact ∈ artifacts, disk.Accepts root generator artifact) :
    ∃ last, Writes root disk artifacts last ∧ Adds root disk last ∧
      ∀ location, last.look location =
        (disk.lastMark root location artifacts).or (disk.look location) := by
  induction artifacts generalizing disk with
  | nil => exact ⟨disk, .nil disk, .refl root disk, fun _ => rfl⟩
  | cons artifact rest inductionHypothesis =>
    obtain ⟨first, others⟩ := List.forall_mem_cons.mp accepts
    obtain ⟨next, written, adds, look⟩ := write_of_accepts plain ready first
    obtain ⟨last, writes, further, lookFurther⟩ := inductionHypothesis
      (adds.grows.isPlain plain) (adds.ready ready)
      fun artifact member => adds.accepts_iff.mpr (others artifact member)
    refine ⟨last, .cons written writes, adds.trans further, fun location => ?_⟩
    rw [lookFurther, look, adds.lastMark_eq, lastMark_cons, Option.or_assoc]

/-- Artifacts that have been written could be, from the beginning. -/
theorem accepts_of_writes (plain : disk.IsPlain) (ready : disk.Ready root generator)
    (belongs : ∀ artifact ∈ artifacts, ∃ name, generator.IsOutputName name ∧
      artifact.path = generator.outputDirectory.join ⟨name⟩)
    (writes : Writes root disk artifacts after) :
    (∀ artifact ∈ artifacts, disk.Accepts root generator artifact) ∧ Adds root disk after := by
  induction writes with
  | nil disk => exact ⟨List.forall_mem_nil _, .refl root disk⟩
  | @cons disk next last artifact rest written others inductionHypothesis =>
    obtain ⟨⟨name, isOutput, path⟩, restBelongs⟩ := List.forall_mem_cons.mp belongs
    have accepts : disk.Accepts root generator artifact := ⟨name, isOutput, path,
      admits_of_write plain isOutput.isName (by rw [path, Path.join_assoc]) written⟩
    obtain ⟨reached, writing, adds, -⟩ := write_of_accepts plain ready accepts
    obtain rfl := (Prod.mk.inj (written.symm.trans writing)).2
    obtain ⟨restAccepts, further⟩ := inductionHypothesis (adds.grows.isPlain plain)
      (adds.ready ready) restBelongs
    exact ⟨List.forall_mem_cons.mpr ⟨accepts, fun artifact member =>
      adds.accepts_iff.mp (restAccepts artifact member)⟩, adds.trans further⟩

/-! ### Generators that deliver -/

/-- A generator delivers artifacts below a root: it gives them, and all of them can be written. -/
structure Delivers (disk : Disk) (root : Path) (generator : Generator)
    (artifacts : List Artifact) : Prop where
  generated : (generator.generate {} (disk.source root)).result = .ok artifacts
  accepts : ∀ artifact ∈ artifacts, disk.Accepts root generator artifact

/-- A generator delivers after others have, exactly if it does before. -/
theorem Adds.delivers_iff (adds : Adds root before after) (plain : before.IsPlain)
    (named : before.IsNamed) (rooted : before.Rooted root) :
    after.Delivers root generator artifacts ↔ before.Delivers root generator artifacts := by
  have alike := adds.alike plain named rooted
  constructor
  · rintro ⟨generated, accepts⟩
    refine ⟨?_, fun artifact member => adds.accepts_iff.mp (accepts artifact member)⟩
    rw [Generator.generate_eq_of_agrees (alike.symm.agrees generator) generated, generated]
  · rintro ⟨generated, accepts⟩
    refine ⟨?_, fun artifact member => adds.accepts_iff.mpr (accepts artifact member)⟩
    rw [Generator.generate_eq_of_agrees (alike.agrees generator) generated, generated]

end Prebuild.Disk
