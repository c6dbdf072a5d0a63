/-
This file says what reading an input from a disk comes to, with or without links: the text of the
file that its path leads to, or a failure that names the path. An input that the file system does
not find is missing; everything else that goes wrong is a failure to read it.
-/

import Prebuild.Disk.Source
import Prebuild.Proofs.Disk.Growth

namespace Prebuild

/-! ### Failures of inputs -/

section

variable {First Second Value : Type} {result : Except First Value} {seen : First → Second}

/-- What goes wrong may be seen in another way, which changes no result. -/
theorem mapError_eq_ok_iff {value : Value} :
    result.mapError seen = .ok value ↔ result = .ok value := by
  cases result with
  | error cause =>
    constructor <;>
      · intro impossible
        cases impossible
  | ok other =>
    show Except.ok other = _ ↔ _
    rw [Except.ok.injEq, Except.ok.injEq]

theorem mapError_eq_error_iff {failure : Second} :
    result.mapError seen = .error failure ↔
      ∃ cause, result = .error cause ∧ failure = seen cause := by
  cases result with
  | error cause =>
    constructor
    · intro same
      exact ⟨cause, rfl, (Except.error.inj same).symm⟩
    · rintro ⟨other, same, rfl⟩
      obtain rfl := Except.error.inj same
      rfl
  | ok value =>
    constructor
    · intro impossible
      cases impossible
    · rintro ⟨other, impossible, -⟩
      cases impossible

end

/-- An input is missing exactly if the file system does not find it. -/
theorem Failure.ofFault_eq_missingInput_iff {path missing : Path} {fault : Fault} :
    Failure.ofFault path fault = .missingInput missing ↔ fault = .notFound ∧ missing = path := by
  cases fault <;> simp [Failure.ofFault, eq_comm]

theorem Failure.ofFault_eq_io_iff {path other : Path} {fault : Fault} {cause : Cause} :
    Failure.ofFault path fault = .io other cause ↔
      fault ≠ .notFound ∧ other = path ∧ cause = .fault fault := by
  cases fault <;> simp [Failure.ofFault, eq_comm]

namespace Disk

variable {disk : Disk} {root path : Path} {location : Location} {bytes : ByteArray} {text : Text}
  {fault : Fault} {failure : Failure}

/-! ### Reading a text -/

theorem readText_eq_ok_iff :
    disk.readText path = .ok text ↔
      ∃ location bytes, disk.find path = .ok (location, .file bytes) ∧
        Text.ofBytes? bytes = some text := by
  constructor
  · intro read
    rw [readText] at read
    split at read
    · rename_i bytes found
      obtain ⟨location, file⟩ := readBytes_eq_ok_iff.mp found
      split at read
      · rename_i decoded valid
        obtain rfl := Except.ok.inj read
        exact ⟨location, bytes, file, valid⟩
      · cases read
    · cases read
  · rintro ⟨location, bytes, file, valid⟩
    rw [readText, readBytes_eq_ok_iff.mpr ⟨location, file⟩]
    simp only [valid]

theorem readText_of_not_text (found : disk.find path = .ok (location, .file bytes))
    (noText : Text.ofBytes? bytes = none) : disk.readText path = .error .notUtf8 := by
  rw [readText, readBytes_eq_ok_iff.mpr ⟨location, found⟩]
  simp only [noText]

theorem readText_of_find_error (lost : disk.find path = .error fault) :
    disk.readText path = .error fault := by
  rw [readText, readBytes, lost]

/-- Only where its path leads nowhere is a file not found. -/
theorem readBytes_eq_notFound_iff :
    disk.readBytes path = .error .notFound ↔ disk.find path = .error .notFound := by
  rw [readBytes]
  cases disk.find path with
  | error fault => simp
  | ok found =>
    obtain ⟨location, node⟩ := found
    cases node <;> simp

theorem readText_eq_notFound_iff :
    disk.readText path = .error .notFound ↔ disk.find path = .error .notFound := by
  rw [← readBytes_eq_notFound_iff, readText]
  cases disk.readBytes path with
  | error fault => simp
  | ok bytes => cases decoded : Text.ofBytes? bytes <;> simp [decoded]

/-! ### Reading an input -/

theorem source_read_eq_ok_iff :
    (disk.source root).read path = .ok text ↔ disk.readText (root.join path) = .ok text :=
  mapError_eq_ok_iff

/-- A file below the root that cannot be read fails under the path that was asked for. -/
theorem source_read_eq_error_iff :
    (disk.source root).read path = .error failure ↔
      ∃ fault, disk.readText (root.join path) = .error fault ∧
        failure = Failure.ofFault path fault :=
  mapError_eq_error_iff

end Disk

end Prebuild
