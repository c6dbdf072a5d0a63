/-
This file says what writing an artifact does to a disk, seen place by place, and what it leaves
alone.

If it succeeds, one file has been replaced as a whole, or put where there was nothing; besides it
nothing is new but directories, and whatever was there is there as it was. If it fails, no file has
been touched, for the last thing that writing does is to put its file in place. Whether an
artifact is there as it should be is a question about bytes, so a file that holds no text at all
is compared like any other.
-/

import Mathlib.Data.List.Basic
import Prebuild.Proofs.Disk.Growth

namespace Prebuild.Disk

variable {written : Location → Prop} {before after disk : Disk} {location place : Location}
  {bytes : ByteArray} {root : Path} {artifact : Artifact}

/-! ### One file in the place of another -/

/-- One disk has become another by one file. At its place there was a file or nothing; all other
places are as they were, but for directories where there was nothing. -/
structure Replaces (place : Location) (bytes : ByteArray) (before after : Disk) : Prop where
  here : after.here = before.here
  free : before.look place = none ∨ ∃ others, before.look place = some (.file others)
  written : after.look place = some (.file bytes)
  others : ∀ location, location ≠ place → after.look location = before.look location ∨
    before.look location = none ∧ after.look location = some .directory

/-- Where a disk that holds no links has not been written to, it can only have gained a
directory. -/
theorem Grows.look_of_unwritten (growth : Grows written before after) (plain : before.IsPlain)
    (unwritten : ¬written location) :
    after.look location = before.look location ∨
      before.look location = none ∧ after.look location = some .directory := by
  have files := growth.files location
  cases earlier : before.look location with
  | none =>
    cases later : after.look location with
    | none => exact .inl rfl
    | some kind =>
      cases kind with
      | file bytes => cases earlier.symm.trans ((files bytes unwritten).mp later)
      | directory => exact .inr ⟨rfl, rfl⟩
      | link target => cases earlier.symm.trans (growth.links location target later)
  | some kind =>
    cases kind with
    | file bytes => exact .inl ((files bytes unwritten).mpr earlier)
    | directory => exact .inl (growth.directories location earlier)
    | link target => exact absurd earlier (plain.noLink location target)

/-- A disk that holds no links and has been written to at one place, which holds a file
afterwards, has become the other by that file. -/
theorem Grows.replaces (growth : Grows (· = place) before after) (plain : before.IsPlain)
    (there : after.look place = some (.file bytes)) : Replaces place bytes before after := by
  refine ⟨growth.here, ?_, there, fun location other => growth.look_of_unwritten plain other⟩
  cases earlier : before.look place with
  | none => exact .inl rfl
  | some kind =>
    cases kind with
    | file others => exact .inr ⟨others, rfl⟩
    | directory => cases there.symm.trans (growth.directories place earlier)
    | link target => exact absurd earlier (plain.noLink place target)

/-! ### Artifacts -/

theorem write_of_fst {result : Except Failure Unit}
    (written : (disk.write root artifact).1 = result) :
    disk.write root artifact = (result, (disk.write root artifact).2) := Prod.ext written rfl

theorem replaces_of_write (plain : disk.IsPlain)
    (success : disk.write root artifact = (.ok (), after)) :
    ∃ place, after.find (root.join artifact.path) =
        .ok (place, .file (Text.toBytes artifact.contents)) ∧
      Replaces place (Text.toBytes artifact.contents) disk after := by
  obtain ⟨growth, found⟩ := write_ok plain success
  have there := ((find_eq_ok_iff (growth.isPlain plain)).mp found).2.2.1
  exact ⟨_, found, growth.replaces plain (look_of_get? there)⟩

/-- New directories are no files. -/
theorem GainsDirectories.look_file_iff (gains : GainsDirectories before after) :
    after.look location = some (.file bytes) ↔ before.look location = some (.file bytes) :=
  gains.grows.files location bytes fun impossible => impossible

/-- An artifact is there as it should be exactly if its file can be read and has its bytes. -/
theorem isCurrent_eq_ok_true_iff_readBytes :
    disk.isCurrent root artifact = .ok true ↔
      disk.readBytes (root.join artifact.path) = .ok (Text.toBytes artifact.contents) := by
  rw [isCurrent_eq_ok_true_iff, readBytes_eq_ok_iff]

/-- A file that holds no text can be compared, and is not what an artifact should be. -/
theorem isCurrent_of_not_text (read : disk.readBytes (root.join artifact.path) = .ok bytes)
    (noText : Text.ofBytes? bytes = none) : disk.isCurrent root artifact = .ok false := by
  have different : bytes ≠ Text.toBytes artifact.contents := by
    rintro rfl
    rw [Text.ofBytes?_toBytes] at noText
    cases noText
  rw [isCurrent, read]
  exact congrArg Except.ok (Bool.eq_false_iff.mpr fun same => different (beq_bytes_iff.mp same))

/-- Writing an artifact replaces its file and touches nothing else. On a disk that holds no links,
if it succeeds, the path of the artifact leads to a file that holds the bytes of its contents and
no others, the artifact is there as it should be, and that file is all that has changed, except
for directories where there was nothing. On any disk, if it fails, directories where there was
nothing are all that has changed, so there are the same files with the same bytes. On any disk, an
artifact is there as it should be exactly if its file can be read and has its bytes; a file that
holds no text is compared as well, and is not what it should be. -/
theorem writing_replaces_one_file (root : Path) (artifact : Artifact) :
    (∀ disk after, disk.IsPlain → disk.write root artifact = (.ok (), after) →
      (∃ place, after.find (root.join artifact.path) =
          .ok (place, .file (Text.toBytes artifact.contents)) ∧
        Replaces place (Text.toBytes artifact.contents) disk after) ∧
      after.isCurrent root artifact = .ok true) ∧
    (∀ disk after failure, disk.write root artifact = (.error failure, after) →
      GainsDirectories disk after ∧
      ∀ location bytes,
        after.look location = some (.file bytes) ↔ disk.look location = some (.file bytes)) ∧
    ∀ disk : Disk,
      (disk.isCurrent root artifact = .ok true ↔
        disk.readBytes (root.join artifact.path) = .ok (Text.toBytes artifact.contents)) ∧
      ∀ bytes, disk.readBytes (root.join artifact.path) = .ok bytes →
        Text.ofBytes? bytes = none → disk.isCurrent root artifact = .ok false := by
  refine ⟨fun disk after plain success => ?_, fun disk after failure failed => ?_, fun disk => ?_⟩
  · obtain ⟨place, found, replaces⟩ := replaces_of_write plain success
    exact ⟨⟨place, found, replaces⟩, isCurrent_eq_ok_true_iff.mpr ⟨place, found⟩⟩
  · obtain ⟨-, gains⟩ := write_error failed
    exact ⟨gains, fun location bytes => gains.look_file_iff⟩
  · exact ⟨isCurrent_eq_ok_true_iff_readBytes, fun bytes => isCurrent_of_not_text⟩

/-- A disk with a fragment that holds more bytes than it should, and no text. -/
def staleDisk : Disk where
  top := .directory [("hal", .directory [("mk", .directory
    [("a.d", .file ⟨Array.replicate 40 255⟩)])])]
  here := []

theorem isPlain_staleDisk : staleDisk.IsPlain := isPlain_of_holdsNoLink rfl rfl

/-- The fragment is replaced as a whole. An artifact whose path ends in a slash cannot be written,
and leaves the directory that it would lie in and no file. -/
theorem writing_replaces_one_file_stale :
    let fragment : Artifact := ⟨"hal/mk/a.d", "HWMCU = STM32F405\n"⟩
    let slashed : Artifact := ⟨"hal/new/a.d/", "HWMCU = STM32F405\n"⟩
    let after := (staleDisk.write "" fragment).2
    let left := (staleDisk.write "" slashed).2
    staleDisk.isCurrent "" fragment = .ok false ∧
      ((∃ place, after.find "hal/mk/a.d" =
          .ok (place, .file (Text.toBytes fragment.contents)) ∧
        Replaces place (Text.toBytes fragment.contents) staleDisk after) ∧
      after.isCurrent "" fragment = .ok true) ∧
      (staleDisk.write "" slashed).1 = .error (.io "hal/new/a.d/" (.fault .isADirectory)) ∧
      left.isDirectory "hal/new" = true ∧
      ∀ location bytes,
        left.look location = some (.file bytes) ↔ staleDisk.look location = some (.file bytes) := by
  intro fragment slashed after left
  obtain ⟨replaced, -, compared⟩ := writing_replaces_one_file "" fragment
  obtain ⟨-, untouched, -⟩ := writing_replaces_one_file "" slashed
  have success : (staleDisk.write "" fragment).1 = .ok () := by decide +kernel
  have failed : (staleDisk.write "" slashed).1 =
      .error (.io "hal/new/a.d/" (.fault .isADirectory)) := by
    decide +kernel
  have read : staleDisk.readBytes (Path.join "" fragment.path) = .ok ⟨Array.replicate 40 255⟩ := by
    decide +kernel
  exact ⟨(compared staleDisk).2 _ read (by decide +kernel),
    replaced staleDisk after isPlain_staleDisk (write_of_fst success), failed, by decide +kernel,
    (untouched staleDisk left _ (write_of_fst failed)).2⟩

end Prebuild.Disk
