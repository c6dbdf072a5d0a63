/-
This file proves that the headers of the boards and the fragments that are made from them
belong together one to one, in the order of the listing, and says when two fragments get
in each other's way.

Where a fragment belongs depends on the stem of the header's name alone, and different
stems give different paths. So it comes down to names with one extension that have one
stem, of which there is a single pair, and only for an extension without a full stop.
Without that pair no fragment overwrites another.
-/

import Mathlib.Data.List.Nodup
import Prebuild.BoardFragment
import Prebuild.Proofs.Disk.Listing
import Prebuild.Proofs.FileName
import Prebuild.Proofs.Outcome
import Prebuild.Proofs.Run.Writing

namespace Prebuild

namespace BoardFragment

variable {settings : HardwareSettings} {source : Source}

/-! ### Where the fragments belong -/

/-- A text that names a board: it is a part of a path. -/
structure IsBoard (board : Text) : Prop where
  nonempty : board ≠ []
  slashFree : '/' ∉ board

theorem isBoard_beforeLast {name : Text} (isName : Path.IsName name.bytes) :
    IsBoard (Text.beforeLast '.' name) := by
  constructor
  · exact Text.beforeLast_ne_nil fun empty => isName.nonempty (Text.bytes_eq_nil_iff.mpr empty)
  · exact fun inside => isName.slashFree
      (Path.slash_mem_bytes_iff.mpr ((Text.beforeLast_prefix name).subset inside))

section

variable {board : Text} (isBoard : IsBoard board)

include isBoard

theorem IsBoard.bytes_ne_nil : board.bytes ≠ [] :=
  fun empty => isBoard.nonempty (Text.bytes_eq_nil_iff.mp empty)

theorem IsBoard.slash_not_mem_bytes : Path.slash ∉ board.bytes :=
  fun inside => isBoard.slashFree (Path.slash_mem_bytes_iff.mp inside)

/-- The name of a board's fragment is more than a full stop. -/
theorem append_ne_dot (rest : Bytes) : board.bytes ++ Path.dot :: rest ≠ [Path.dot] := by
  intro same
  obtain ⟨first, others, bytes⟩ := List.exists_cons_of_ne_nil isBoard.bytes_ne_nil
  rw [bytes] at same
  exact List.append_ne_nil_of_right_ne_nil others (List.cons_ne_nil _ _) (List.cons.inj same).2

theorem relative_of_isBoard (rest : Text) :
    (Path.ofText (board ++ '.' :: rest)).isAbsolute = false := by
  rw [Path.ofText, Path.bytes_append_dot]
  obtain ⟨first, others, bytes⟩ := List.exists_cons_of_ne_nil isBoard.bytes_ne_nil
  rw [bytes]
  refine beq_eq_false_iff_ne.mpr fun begins => isBoard.slash_not_mem_bytes ?_
  obtain rfl : first = Path.slash := Option.some.inj begins
  exact bytes ▸ List.mem_cons_self

end

/-- The first step to a fragment in its directory is to a part that begins with the board; the
others are the same for all boards, and are among those that the extension asks for. -/
theorem exists_steps_of_board (extension : Text) :
    ∃ piece rest, rest ⊆ (Path.ofText extension).steps ∧ ∀ {board : Text}, IsBoard board →
      (Path.ofText (board ++ '.' :: extension)).steps =
        Path.Step.ofPart (board.bytes ++ Path.dot :: piece) :: rest := by
  -- The first slash of the extension, if it has one, ends the part that begins with the board.
  obtain ⟨piece, others, split⟩ := List.exists_cons_of_ne_nil
    (Text.splitAt_ne_nil extension.bytes : Text.splitAt Path.slash extension.bytes ≠ [])
  have dotted : Text.splitAt Path.slash (Path.dot :: extension.bytes) =
      (Path.dot :: piece) :: others :=
    Text.splitAt_cons_of_ne (by decide) split
  refine ⟨piece, Path.stepsOf others, ?_, fun {board} isBoard => ?_⟩
  · rw [Path.steps_eq_stepsOf, Path.ofText, split, ← List.singleton_append, Path.stepsOf_append]
    exact List.subset_append_right _ _
  · rw [Path.steps_eq_stepsOf, Path.ofText, Path.bytes_append_dot,
      Text.splitAt_append_of_not_mem isBoard.slash_not_mem_bytes dotted,
      Path.stepsOf_cons (List.append_ne_nil_of_left_ne_nil isBoard.bytes_ne_nil _)]

/-- The fragments of different boards have different paths, also apart from steps that stay. -/
theorem moves_pathOf_inj {first second : Text} (firstBoard : IsBoard first)
    (secondBoard : IsBoard second)
    (same : (pathOf settings first).moves = (pathOf settings second).moves) : first = second := by
  obtain ⟨piece, rest, -, steps⟩ := exists_steps_of_board settings.outputExtension
  have moves {board : Text} (isBoard : IsBoard board) :
      (pathOf settings board).moves = settings.outputDirectory.moves ++
        Path.Step.ofPart (board.bytes ++ Path.dot :: piece) :: rest.filter (· ≠ .stay) := by
    rw [pathOf, Path.moves_join _ (relative_of_isBoard isBoard _),
      Path.moves_of_steps (steps isBoard) (Path.ofPart_ne_stay (append_ne_dot isBoard piece))]
  rw [moves firstBoard, moves secondBoard] at same
  have parts := Path.Step.ofPart_inj (List.cons.inj (List.append_cancel_left same)).1
  exact Text.bytes_inj.mp (List.append_cancel_right parts)

/-- If their extension never goes up, the fragments of different boards belong to different
places. -/
theorem placeOf_pathOf_inj {disk : Disk} {root : Path} {first second : Text}
    (down : .up ∉ (Path.ofText settings.outputExtension).steps) (firstBoard : IsBoard first)
    (secondBoard : IsBoard second)
    (same : disk.placeOf (root.join (pathOf settings first)) =
      disk.placeOf (root.join (pathOf settings second))) : first = second := by
  obtain ⟨piece, rest, among, steps⟩ := exists_steps_of_board settings.outputExtension
  obtain ⟨names, below⟩ := Path.exists_endOf_of_up_not_mem fun up => down (among up)
  have place {board : Text} (isBoard : IsBoard board) :
      disk.placeOf (root.join (pathOf settings board)) =
        (Path.Step.ofPart (board.bytes ++ Path.dot :: piece)).next
          (disk.placeOf (root.join settings.outputDirectory)) ++ names := by
    rw [pathOf, Path.join_assoc, disk.placeOf_join _ (relative_of_isBoard isBoard _),
      steps isBoard, Path.endOf, below]
  rw [place firstBoard, place secondBoard] at same
  have parts := Path.Step.next_ofPart_inj (append_ne_dot firstBoard _)
    (append_ne_dot secondBoard _) (List.append_cancel_right same)
  exact Text.bytes_inj.mp (List.append_cancel_right parts)

/-! ### Which names have one stem -/

/-- Two of the names have one stem: the one that is nothing but a full stop and the extension,
and the one that has the extension twice. -/
structure Collide (extension : Text) (names : List Text) : Prop where
  dotFree : '.' ∉ extension
  bare : '.' :: extension ∈ names
  doubled : '.' :: (extension ++ '.' :: extension) ∈ names

/-- Different names with an extension have different stems unless they collide. -/
theorem nodup_beforeLast_iff {extension : Text} {names : List Text} (different : names.Nodup)
    (extended : ∀ name ∈ names, ∃ start, name = start ++ '.' :: extension) :
    (names.map (Text.beforeLast '.')).Nodup ↔ ¬Collide extension names := by
  rw [List.nodup_map_iff_inj_on different]
  constructor
  · intro injective collide
    have same := injective _ collide.bare _ collide.doubled
      (Text.beforeLast_eq_beforeLast_iff.mpr (.inr ⟨collide.dotFree, .inl ⟨rfl, rfl⟩⟩))
    simp at same
  · intro free first inFirst second inSecond same
    obtain ⟨start, rfl⟩ := extended first inFirst
    obtain ⟨other, rfl⟩ := extended second inSecond
    rcases Text.beforeLast_eq_beforeLast_iff.mp same with rfl | ⟨dotFree, ⟨rfl, rfl⟩ | ⟨rfl, rfl⟩⟩
    · rfl
    · exact absurd ⟨dotFree, inFirst, inSecond⟩ free
    · exact absurd ⟨dotFree, inSecond, inFirst⟩ free

/-! ### Headers and their fragments -/

/-- The path of the header with a name. -/
def headerPath (settings : HardwareSettings) (name : Text) : Path :=
  settings.inputDirectory.join (.ofText name)

/-- The fragment for a header, given by its name and contents. -/
def fragmentOf (settings : HardwareSettings) (header : Text × Text) : Artifact :=
  ⟨pathOf settings (Text.beforeLast '.' header.1), text settings.flags header.2⟩

/-- The headers that are listed, by name and with their contents. -/
structure AreHeaders (settings : HardwareSettings) (source : Source)
    (headers : List (Text × Text)) : Prop where
  listed : (source.list settings.inputDirectory settings.inputExtension).result =
    .ok (headers.map fun header => headerPath settings header.1)
  read : ∀ header ∈ headers, source.read (headerPath settings header.1) = .ok header.2

theorem ofHeader_ok_cases {name : Text} (isName : Path.IsName name.bytes)
    {artifacts : List Artifact}
    (success : (ofHeader settings source (headerPath settings name)).result = .ok artifacts) :
    ∃ content, source.read (headerPath settings name) = .ok content ∧
      artifacts = [fragmentOf settings (name, content)] := by
  have stem : (headerPath settings name).fileStem?.bind Bytes.text? =
      some (Text.beforeLast '.' name) := by
    rw [Path.fileStem?, headerPath, Path.ofText, Path.fileName?_join _ isName, Option.map_some,
      Option.bind_some, Path.stemOf_bytes, Bytes.text?_bytes]
  rw [ofHeader, stem] at success
  obtain ⟨content, read, made⟩ := Outcome.bind_ok_cases success
  exact ⟨content, read, (Except.ok.inj made).symm⟩

/-- Fragments that are made for headers under proper names are one for each, in order. -/
theorem exists_headers_of_names {names : List Text}
    (named : ∀ name ∈ names, Path.IsName name.bytes)
    {artifacts : List Artifact}
    (success : (Outcome.collect (ofHeader settings source)
      (names.map (headerPath settings))).result = .ok artifacts) :
    ∃ headers : List (Text × Text), headers.map Prod.fst = names ∧
      (∀ header ∈ headers, source.read (headerPath settings header.1) = .ok header.2) ∧
        artifacts = headers.map (fragmentOf settings) := by
  rw [Outcome.collect_map] at success
  obtain ⟨headers, same, reads, rfl⟩ := Outcome.collect_ok_cases
    (fun name member _ made => ofHeader_ok_cases (named name member) made) success
  exact ⟨headers, same, reads, List.map_eq_flatMap.symm⟩

/-- Fragments that are made are those for the headers that are listed, which have proper names
with the extension, all different. -/
theorem exists_headers_of_generate {root : Path} {disk : Disk}
    (named : ∀ location entries,
      disk.find (root.join settings.inputDirectory) = .ok (location, .directory entries) →
        ∀ name ∈ Listing.names entries, Path.IsName name)
    {artifacts : List Artifact}
    (success : (generate settings (disk.source root)).result = .ok artifacts) :
    ∃ headers, AreHeaders settings (disk.source root) headers ∧
      artifacts = headers.map (fragmentOf settings) ∧ (headers.map Prod.fst).Nodup ∧
        ∀ name ∈ headers.map Prod.fst, Path.IsName name.bytes ∧
          ∃ start, name = start ++ '.' :: settings.inputExtension := by
  obtain ⟨paths, listed, collected⟩ := Outcome.bind_ok_cases success
  obtain ⟨stems, rfl, different, proper⟩ := Disk.exists_stems_of_listFiles named listed
  have paths : stems.map (fun stem =>
      settings.inputDirectory.join (.ofText (stem ++ '.' :: settings.inputExtension))) =
      (stems.map (· ++ '.' :: settings.inputExtension)).map (headerPath settings) := by
    rw [List.map_map]
    rfl
  rw [paths] at listed collected
  obtain ⟨headers, names, reads, rfl⟩ :=
    exists_headers_of_names (List.forall_mem_map.mpr proper) collected
  refine ⟨headers, ⟨?_, reads⟩, rfl, ?_, ?_⟩
  · rw [listed, ← names, List.map_map]
    rfl
  · exact names ▸ different.map (List.append_left_injective _)
  · rw [names]
    exact List.forall_mem_map.mpr fun stem member => ⟨proper stem member, stem, rfl⟩

/-- The fragments have different paths unless the names of the headers collide. -/
theorem nodup_moves_iff {headers : List (Text × Text)}
    (different : (headers.map Prod.fst).Nodup)
    (named : ∀ name ∈ headers.map Prod.fst, Path.IsName name.bytes ∧
      ∃ start, name = start ++ '.' :: settings.inputExtension) :
    ((headers.map (fragmentOf settings)).map fun artifact => artifact.path.moves).Nodup ↔
      ¬Collide settings.inputExtension (headers.map Prod.fst) := by
  have paths : (headers.map (fragmentOf settings)).map (fun artifact => artifact.path.moves) =
      ((headers.map Prod.fst).map (Text.beforeLast '.')).map fun board =>
        (pathOf settings board).moves := by
    simp [fragmentOf]
  rw [← nodup_beforeLast_iff different fun name member => (named name member).2, paths]
  refine ⟨List.Nodup.of_map _, fun stems => stems.map_on fun first inFirst second inSecond => ?_⟩
  obtain ⟨name, member, rfl⟩ := List.mem_map.mp inFirst
  obtain ⟨other, inNames, rfl⟩ := List.mem_map.mp inSecond
  exact moves_pathOf_inj (isBoard_beforeLast (named name member).1)
    (isBoard_beforeLast (named other inNames).1)

/-- Fragments whose names do not collide, written on a disk without links, belong to different
files. -/
theorem areApart_of_not_collide {root : Path} {last : Disk} {headers : List (Text × Text)}
    (plain : last.IsPlain) (down : .up ∉ (Path.ofText settings.outputExtension).steps)
    (different : (headers.map Prod.fst).Nodup)
    (named : ∀ name ∈ headers.map Prod.fst, Path.IsName name.bytes ∧
      ∃ start, name = start ++ '.' :: settings.inputExtension)
    (free : ¬Collide settings.inputExtension (headers.map Prod.fst)) :
    last.AreApart root (headers.map (fragmentOf settings)) := by
  have stems := (nodup_beforeLast_iff different fun name member => (named name member).2).mpr free
  rw [List.map_map] at stems
  refine List.pairwise_map.mpr ((List.pairwise_map.mp stems).imp_of_mem
    fun {first second} inFirst inSecond unlike same => unlike ?_)
  obtain ⟨location, denotesFirst, denotesSecond⟩ := same
  refine placeOf_pathOf_inj down
    (isBoard_beforeLast (named _ (List.mem_map_of_mem inFirst)).1)
    (isBoard_beforeLast (named _ (List.mem_map_of_mem inSecond)).1)
    ((denotesFirst.eq_placeOf plain).symm.trans (denotesSecond.eq_placeOf plain))

/-- Every header has one fragment, and none overwrites another, with one exception. Let the
entries of the input directory have proper names and let the fragments be made. Then these are, in
the order of the listing, one for each header that is listed, made from the header's contents and
named by the stem of its name. No two of them have the same path, not even apart from steps that
stay, unless the extension has no full stop and there is a header whose name is nothing but a full
stop and the extension, and another whose name has the extension twice. Without these, and if the
extension of the fragments never goes up, writing them all on a disk that holds no links leaves
each of them there. -/
theorem one_fragment_for_each_header (root : Path) (settings : HardwareSettings) (disk : Disk)
    (named : ∀ location entries,
      disk.find (root.join settings.inputDirectory) = .ok (location, .directory entries) →
        ∀ name ∈ Listing.names entries, Path.IsName name)
    {artifacts : List Artifact}
    (success : (generate settings (disk.source root)).result = .ok artifacts) :
    ∃ headers, AreHeaders settings (disk.source root) headers ∧
      artifacts = headers.map (fragmentOf settings) ∧
      ((artifacts.map fun artifact => artifact.path.moves).Nodup ↔
        ¬Collide settings.inputExtension (headers.map Prod.fst)) ∧
      (¬Collide settings.inputExtension (headers.map Prod.fst) → disk.IsPlain →
        .up ∉ (Path.ofText settings.outputExtension).steps →
          ∀ last, Disk.Writes root disk artifacts last →
            ∀ artifact ∈ artifacts, last.isCurrent root artifact = .ok true) := by
  obtain ⟨headers, areHeaders, rfl, different, proper⟩ := exists_headers_of_generate named success
  refine ⟨headers, areHeaders, rfl, nodup_moves_iff different proper, ?_⟩
  intro free plain down last writes
  have plainLast := (writes.grows plain).isPlain plain
  exact writes.isCurrent plain (areApart_of_not_collide plainLast down different proper free)

/-- A tree with headers of boards and nothing else. -/
def headerDisk (headers : List (Text × Text)) : Disk where
  top := .directory [("hal", .directory [("hw", .directory
    (headers.map fun header => (header.1.bytes, .file (Text.toBytes header.2))))])]
  here := []

theorem isPlain_headerDisk (headers : List (Text × Text)) : (headerDisk headers).IsPlain where
  top := rfl
  noLink := by
    refine Node.isPlain_directory fun entry member => ?_
    obtain rfl := List.mem_singleton.mp member
    refine Node.isPlain_directory fun entry member => ?_
    obtain rfl := List.mem_singleton.mp member
    refine Node.isPlain_directory fun entry member => ?_
    obtain ⟨header, -, rfl⟩ := List.mem_map.mp member
    exact Node.isPlain_file _

/-- The disk after two artifacts have been written. -/
def afterTwo (disk : Disk) (first second : Artifact) : Disk :=
  ((disk.write "" first).2.write "" second).2

theorem writes_two {disk : Disk} {first second : Artifact}
    (firstWritten : (disk.write "" first).1 = .ok ())
    (secondWritten : ((disk.write "" first).2.write "" second).1 = .ok ()) :
    Disk.Writes "" disk [first, second] (afterTwo disk first second) :=
  .cons (Prod.ext firstWritten rfl) (.cons (Prod.ext secondWritten rfl) (.nil _))

theorem one_fragment_for_each_header_dotted :
    let disk := headerDisk [("a.b.h", "HW_MCU_STM32F405\n"), ("a.h", [])]
    let first : Artifact := ⟨"hal/mk/a.b.d", "HWMCU = STM32F405\n"⟩
    let second : Artifact := ⟨"hal/mk/a.d", []⟩
    (generate {} (disk.source "")).result = .ok [first, second] ∧
      (∃ headers, AreHeaders {} (disk.source "") headers ∧
        ¬Collide "h" (headers.map Prod.fst)) ∧
      ∀ artifact ∈ [first, second],
        (afterTwo disk first second).isCurrent "" artifact = .ok true := by
  intro disk first second
  have success : (generate {} (disk.source "")).result = .ok [first, second] := by decide +kernel
  have plain : disk.IsPlain := isPlain_headerDisk _
  have named : ∀ location entries,
      disk.find (Path.join "" "hal/hw") = .ok (location, .directory entries) →
        ∀ name ∈ Listing.names entries, Path.IsName name := by
    intro location entries found
    obtain ⟨-, rfl, here, -⟩ := (Disk.find_eq_ok_iff plain).mp found
    obtain rfl := Node.directory.inj (Option.some.inj here)
    decide +kernel
  have writes : Disk.Writes "" disk [first, second] (afterTwo disk first second) :=
    writes_two (by decide +kernel) (by decide +kernel)
  obtain ⟨headers, areHeaders, -, apart, there⟩ :=
    one_fragment_for_each_header "" {} disk named success
  have free := apart.mp (by decide +kernel)
  exact ⟨success, ⟨headers, areHeaders, free⟩,
    there free plain (by decide +kernel) _ writes⟩

/-- Two headers that collide have one path for their fragments, and the second is written over the
first. -/
theorem one_fragment_for_two_headers :
    let disk := headerDisk [(".h", "HW_MCU_STM32F405\n"), (".h.h", "HW_MCU_STM32F722\n")]
    let first : Artifact := ⟨"hal/mk/.h.d", "HWMCU = STM32F405\n"⟩
    let second : Artifact := ⟨"hal/mk/.h.d", "HWMCU = STM32F722\n"⟩
    (generate {} (disk.source "")).result = .ok [first, second] ∧
      first.path = second.path ∧ Disk.Writes "" disk [first, second] (afterTwo disk first second) ∧
        (afterTwo disk first second).isCurrent "" first = .ok false :=
  ⟨by decide +kernel, rfl, writes_two (by decide +kernel) (by decide +kernel), by decide +kernel⟩

end BoardFragment

end Prebuild
