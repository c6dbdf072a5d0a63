/-
This file proves that what is listed can be read, on a disk that holds no links.

A listing visits the directory that the root and the path asked for lead to, but gives out paths
below the path asked for, and reading joins these to the root once more. The two ways to join come
to the same path, whatever the root and the path asked for look like, so the file that is read is
the one that was visited, and it is there. All that can be wrong with it is that it holds no text,
or that its path is too long to be asked for.
-/

import Prebuild.Proofs.Disk.Effect
import Prebuild.Proofs.Disk.Inputs
import Prebuild.Proofs.Disk.Listing

namespace Prebuild

/-- Bytes that an entry of a directory has as its name on a disk: a file system takes no zero in
them and no more of them than a name may have. -/
structure Path.IsEntryName (name : Name) : Prop extends Path.IsName name where
  noNul : 0 ∉ name
  fits : name.length ≤ Disk.longestName

instance (name : Name) : Decidable (Path.IsEntryName name) :=
  decidable_of_iff
    (Path.IsName name ∧ 0 ∉ name ∧ name.length ≤ Disk.longestName)
    ⟨fun ⟨isName, noNul, fits⟩ => ⟨isName, noNul, fits⟩,
      fun isEntry => ⟨isEntry.toIsName, isEntry.noNul, isEntry.fits⟩⟩

namespace Disk

variable {disk : Disk} {root directory base path : Path} {extension : Text} {name : Name}
  {location : Location} {entries : Listing} {bytes : ByteArray}

/-! ### Entries of a directory -/

theorem noNul_join_name (isEntry : Path.IsEntryName name)
    (noNul : base.bytes.contains 0 = false) :
    (base.join ⟨name⟩).bytes.contains 0 = false := by
  rw [List.contains_eq_mem, decide_eq_false_iff_not] at noNul ⊢
  have lead : 0 ∉ base.lead := by
    rw [Path.lead]
    split
    · exact noNul
    · exact fun inside => (List.mem_append.mp inside).elim noNul (by decide)
  rw [Path.join_relative base isEntry.relative]
  exact fun inside => (List.mem_append.mp inside).elim lead isEntry.noNul

theorem join_name_ne_nil (isName : Path.IsName name) : (base.join ⟨name⟩).bytes ≠ [] := by
  rw [Path.join_relative base isName.relative]
  exact List.append_ne_nil_of_right_ne_nil _ isName.nonempty

/-- A file in a directory is found under its name. -/
theorem find_join_name (plain : disk.IsPlain)
    (found : disk.find base = .ok (location, .directory entries))
    (isEntry : Path.IsEntryName name) (here : Listing.get? entries name = some (.file bytes))
    (short : (base.join ⟨name⟩).bytes.length ≤ longestPath) :
    disk.find (base.join ⟨name⟩) = .ok (location ++ [name], .file bytes) := by
  obtain ⟨opens, rfl, there, -⟩ := (find_eq_ok_iff plain).mp found
  refine (find_eq_ok_iff plain).mpr ⟨?_, ?_, ?_, fun slash => ?_⟩
  · exact opens_join_name isEntry.toIsName (noNul_join_name isEntry opens.noNul) short isEntry.fits
      opens.way (look_of_get? there)
  · exact (placeOf_join_name disk base isEntry.toIsName).symm
  · rw [get?_append_singleton there, here]
  · rw [endsInSlash_join_name base isEntry.toIsName] at slash
    cases slash

/-! ### What is listed -/

/-- Everything that is listed is the path of a file that the directory has under a name. -/
theorem exists_entry_of_listed (plain : disk.IsPlain)
    (found : disk.find (root.join directory) = .ok (location, .directory entries))
    {paths : List Path}
    (listed : ((disk.source root).list directory extension).result = .ok paths) :
    ∀ path ∈ paths, ∃ name bytes, path = directory.join ⟨name⟩ ∧
      Listing.get? entries name = some (.file bytes) := by
  have whole : (disk.listFiles root directory extension).result = .ok paths := listed
  rw [listFiles_eq plain found] at whole
  obtain rfl := Except.ok.inj whole
  intro path member
  obtain ⟨name, selected, rfl⟩ := List.mem_map.mp member
  obtain ⟨⟨bytes, here⟩, -⟩ := Listing.mem_fileNames.mp selected
  exact ⟨name, bytes, rfl, here⟩

/-- What is listed can be read through the same source tree. Let a disk hold no links and let the
directory that is listed have entries under names that a file system takes. Then each path that is
listed is that of a file in this directory, and joined to the root it is the path under which the
entry was visited. If that is not too long, it leads to that very file, and reading gives the text
that the file holds or, if it holds none, fails with the listed path and says that it is no text;
if it is too long, reading fails with the listed path and says so. In no case is the file missing.
-/
theorem listed_files_can_be_read (plain : disk.IsPlain)
    (named : ∀ location entries,
      disk.find (root.join directory) = .ok (location, .directory entries) →
        ∀ name ∈ Listing.names entries, Path.IsEntryName name)
    {paths : List Path}
    (listed : ((disk.source root).list directory extension).result = .ok paths) :
    ∃ location entries, disk.find (root.join directory) = .ok (location, .directory entries) ∧
      ∀ path ∈ paths, ∃ name bytes, path = directory.join ⟨name⟩ ∧
        Listing.get? entries name = some (.file bytes) ∧
        root.join path = (root.join directory).join ⟨name⟩ ∧
        ((root.join path).bytes.length ≤ longestPath →
          disk.find (root.join path) = .ok (location ++ [name], .file bytes) ∧
          (∀ text, Text.ofBytes? bytes = some text → (disk.source root).read path = .ok text) ∧
          (Text.ofBytes? bytes = none →
            (disk.source root).read path = .error (.io path (.fault .notUtf8)))) ∧
        (longestPath < (root.join path).bytes.length →
          (disk.source root).read path = .error (.io path (.fault .nameTooLong))) ∧
        ∀ missing, (disk.source root).read path ≠ .error (.missingInput missing) := by
  obtain ⟨location, entries, found⟩ := listFiles_ok_cases listed
  refine ⟨location, entries, found, fun path member => ?_⟩
  obtain ⟨name, bytes, rfl, here⟩ := exists_entry_of_listed plain found listed path member
  have isEntry := named location entries found name (Listing.mem_names.mpr ⟨_, here⟩)
  have same := Path.join_assoc root directory ⟨name⟩
  have noNul := ((find_eq_ok_iff plain).mp found).1.noNul
  have reached (short : (root.join (directory.join ⟨name⟩)).bytes.length ≤ longestPath) :
      disk.find (root.join (directory.join ⟨name⟩)) = .ok (location ++ [name], .file bytes) := by
    rw [same] at short ⊢
    exact find_join_name plain found isEntry here short
  have refused (long : longestPath < (root.join (directory.join ⟨name⟩)).bytes.length) :
      disk.find (root.join (directory.join ⟨name⟩)) = .error .nameTooLong := by
    rw [same] at long ⊢
    exact find_of_too_long (noNul_join_name isEntry noNul) (join_name_ne_nil isEntry.toIsName) long
  refine ⟨name, bytes, rfl, here, same, fun short => ⟨reached short, fun text isText => ?_,
    fun noText => ?_⟩, fun long => ?_, fun missing failed => ?_⟩
  · exact source_read_eq_ok_iff.mpr (readText_eq_ok_iff.mpr ⟨_, bytes, reached short, isText⟩)
  · exact source_read_eq_error_iff.mpr ⟨_, readText_of_not_text (reached short) noText, rfl⟩
  · exact source_read_eq_error_iff.mpr ⟨_, readText_of_find_error (refused long), rfl⟩
  · -- A file that is missing would not be found, but this one is found or its path is refused.
    obtain ⟨fault, read, reason⟩ := source_read_eq_error_iff.mp failed
    obtain ⟨rfl, -⟩ := Failure.ofFault_eq_missingInput_iff.mp reason.symm
    have lost := readText_eq_notFound_iff.mp read
    rcases Nat.lt_or_ge longestPath ((root.join (directory.join ⟨name⟩)).bytes.length) with
      long | short
    · cases lost.symm.trans (refused long)
    · cases lost.symm.trans (reached short)

/-- Files of an application, one of which holds no text. -/
def mixedEntries : Listing :=
  [("servo.c", .file (Text.toBytes "APPLICATION(Servo)\n")), ("blob.c", .file ⟨#[255]⟩),
    ("notes.txt", .file ByteArray.empty)]

/-- A disk with one directory that has them. -/
def mixedDisk : Disk where
  top := .directory [("app", .directory mixedEntries)]
  here := []

theorem isPlain_mixedDisk : mixedDisk.IsPlain := isPlain_of_holdsNoLink rfl rfl

theorem listed_files_can_be_read_mixed :
    let source := mixedDisk.source "."
    let listed := (source.list "app//" "c").result
    mixedDisk.IsPlain ∧ (∀ name ∈ Listing.names mixedEntries, Path.IsEntryName name) ∧
      listed = .ok ["app//blob.c", "app//servo.c"] ∧
      source.read "app//servo.c" = .ok "APPLICATION(Servo)\n" ∧
      source.read "app//blob.c" = .error (.io "app//blob.c" (.fault .notUtf8)) := by
  intro source listed
  have plain := isPlain_mixedDisk
  have named : ∀ name ∈ Listing.names mixedEntries, Path.IsEntryName name := by decide +kernel
  have paths : listed = .ok ["app//blob.c", "app//servo.c"] := by decide +kernel
  obtain ⟨location, entries, -, each⟩ := listed_files_can_be_read plain
    (fun location entries found => by
      obtain ⟨-, rfl, there, -⟩ := (find_eq_ok_iff plain).mp found
      have same : mixedDisk.top.get? (mixedDisk.placeOf (Path.join "." "app//")) =
          some (.directory mixedEntries) := rfl
      cases there.symm.trans same
      exact named)
    paths
  have visited (path : Path) (bytes : ByteArray)
      (member : path ∈ (["app//blob.c", "app//servo.c"] : List Path))
      (short : (Path.join "." path).bytes.length ≤ longestPath)
      (read : mixedDisk.readBytes (Path.join "." path) = .ok bytes) :
      (∀ text, Text.ofBytes? bytes = some text → source.read path = .ok text) ∧
        (Text.ofBytes? bytes = none →
          source.read path = .error (.io path (.fault .notUtf8))) := by
    obtain ⟨name, held, -, -, -, within, -⟩ := each path member
    obtain ⟨found, texts⟩ := within short
    cases (readBytes_eq_ok_iff.mpr ⟨_, found⟩).symm.trans read
    exact texts
  exact ⟨plain, named, paths,
    (visited "app//servo.c" (Text.toBytes "APPLICATION(Servo)\n") (.tail _ (.head _))
      (by decide +kernel) (by decide +kernel)).1 _ (by decide +kernel),
    (visited "app//blob.c" ⟨#[255]⟩ (.head _) (by decide +kernel) (by decide +kernel)).2
      (by decide +kernel)⟩

end Disk

end Prebuild
