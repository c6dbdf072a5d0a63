/-
This file says what writing artifacts does to a disk that holds no links, seen place
by place: directories stay and may be joined by new ones, the written files get their
contents, and all other files stay as they are. From this follows which paths still
lead to what they led to, and that writing an artifact that is there already as it
should be does nothing at all.
-/

import Prebuild.Proofs.Disk.Directories
import Prebuild.Proofs.Disk.Route

namespace Prebuild.Disk

/-! ### Growth -/

/-- One disk has grown to another, by writing at some places at most: what was a directory
is one and what was a file is one, there are the same files at the other places, and there are
no new links. -/
structure Grows (written : Location → Prop) (before after : Disk) : Prop where
  here : after.here = before.here
  directories : ∀ location, before.look location = some .directory →
    after.look location = some .directory
  kept : ∀ location bytes, before.look location = some (.file bytes) →
    ∃ others, after.look location = some (.file others)
  files : ∀ location bytes, ¬written location →
    (after.look location = some (.file bytes) ↔ before.look location = some (.file bytes))
  links : ∀ location target, after.look location = some (.link target) →
    before.look location = some (.link target)

/-- No place. -/
def nowhere : Location → Prop := fun _ => False

namespace Grows

variable {written others : Location → Prop} {before middle after : Disk}

theorem refl (written : Location → Prop) (disk : Disk) : Grows written disk disk :=
  ⟨rfl, fun _ found => found, fun _ bytes found => ⟨bytes, found⟩, fun _ _ _ => Iff.rfl,
    fun _ _ found => found⟩

theorem trans (first : Grows written before middle) (second : Grows written middle after) :
    Grows written before after :=
  ⟨second.here.trans first.here,
    fun location found => second.directories location (first.directories location found),
    fun location bytes found =>
      (first.kept location bytes found).elim fun others there => second.kept location others there,
    fun location bytes other =>
      (second.files location bytes other).trans (first.files location bytes other),
    fun location target found => first.links location target (second.links location target found)⟩

theorem mono (growth : Grows written before after)
    (more : ∀ location, written location → others location) : Grows others before after :=
  ⟨growth.here, growth.directories, growth.kept,
    fun location bytes other =>
      growth.files location bytes fun inWritten => other (more location inWritten),
    growth.links⟩

theorem isPlain (growth : Grows written before after) (plain : before.IsPlain) : after.IsPlain :=
  ⟨growth.directories [] plain.top,
    fun location target found => plain.noLink location target (growth.links location target found)⟩

theorem placeOf_eq (growth : Grows written before after) (path : Path) :
    after.placeOf path = before.placeOf path := by
  rw [placeOf, placeOf, growth.here]

theorem opens (growth : Grows written before after) {path : Path} (opens : before.Opens path) :
    after.Opens path := by
  refine ⟨opens.noNul, opens.nonempty, opens.short, ?_⟩
  rw [growth.here]
  exact opens.way.mono growth.directories

/-- A path to a file leads to it still, unless the file has been written. -/
theorem find_file (growth : Grows written before after) (plain : before.IsPlain) {path : Path}
    {location : Location} {bytes : ByteArray} (unwritten : ¬written location)
    (found : before.find path = .ok (location, .file bytes)) :
    after.find path = .ok (location, .file bytes) := by
  obtain ⟨opens, place, here, fits⟩ := (find_eq_ok_iff plain).mp found
  exact (find_eq_ok_iff (growth.isPlain plain)).mpr ⟨growth.opens opens,
    place.trans (growth.placeOf_eq path).symm,
    get?_of_look_file ((growth.files location bytes unwritten).mpr (look_of_get? here)), fits⟩

/-- A path to a directory leads to it still. -/
theorem find_directory (growth : Grows written before after) (plain : before.IsPlain)
    {path : Path} {location : Location} {entries : Listing}
    (found : before.find path = .ok (location, .directory entries)) :
    ∃ others, after.find path = .ok (location, .directory others) := by
  obtain ⟨opens, place, here, -⟩ := (find_eq_ok_iff plain).mp found
  obtain ⟨others, there⟩ :=
    exists_directory_of_look (growth.directories location (look_of_get? here))
  exact ⟨others, (find_eq_ok_iff (growth.isPlain plain)).mpr ⟨growth.opens opens,
    place.trans (growth.placeOf_eq path).symm, there, fun _ => rfl⟩⟩

/-- A path denotes still what it denoted, even if that has been written. -/
theorem denotes (growth : Grows written before after) (plain : before.IsPlain) {path : Path}
    {location : Location} (denotes : before.Denotes path location) :
    after.Denotes path location := by
  obtain ⟨node, found⟩ := denotes
  obtain ⟨opens, place, here, fits⟩ := (find_eq_ok_iff plain).mp found
  cases node with
  | file bytes =>
    obtain ⟨others, there⟩ := growth.kept location bytes (look_of_get? here)
    exact ⟨_, (find_eq_ok_iff (growth.isPlain plain)).mpr ⟨growth.opens opens,
      place.trans (growth.placeOf_eq path).symm, get?_of_look_file there, fits⟩⟩
  | directory entries =>
    obtain ⟨others, there⟩ := growth.find_directory plain found
    exact ⟨_, there⟩
  | link target => exact absurd here (look_of_noLink plain)

end Grows

/-! ### Putting a file into a directory -/

variable {disk : Disk}

/-- A file in a directory, where there was a file or nothing, is growth. -/
theorem grows_set_file {above : Location} {name : Name} {bytes : ByteArray}
    (inside : disk.look above = some .directory)
    (free : ∀ old, disk.get? (above ++ [name]) = some old → ∃ others, old = .file others) :
    Grows (· = above ++ [name]) disk (disk.set (above ++ [name]) (.file bytes)) := by
  have look := look_set inside (Node.isLeaf_file bytes) fun old here => by
    obtain ⟨others, rfl⟩ := free old here
    exact Node.isLeaf_file others
  refine ⟨rfl, ?_, ?_, ?_, ?_⟩
  · intro location found
    have different : location ≠ above ++ [name] := by
      rintro rfl
      obtain ⟨entries, here⟩ := exists_directory_of_look found
      obtain ⟨others, impossible⟩ := free _ here
      cases impossible
    rw [look, if_neg different, found]
  · intro location others found
    rw [look]
    split
    · exact ⟨bytes, rfl⟩
    · exact ⟨others, found⟩
  · intro location others unwritten
    rw [look, if_neg unwritten]
  · intro location target found
    rw [look] at found
    split at found
    · cases found
    · exact found

/-! ### Making directories -/

/-- New directories are growth. -/
theorem GainsDirectories.grows {before after : Disk} (gains : GainsDirectories before after) :
    Grows nowhere before after := by
  have present {location : Location} {kind : Kind}
      (found : before.look location = some kind) : after.look location = some kind := by
    rcases gains.places location with same | ⟨missing, -⟩
    · rw [same, found]
    · rw [missing] at found
      cases found
  have unmade {location : Location} {kind : Kind} (other : kind ≠ .directory)
      (found : after.look location = some kind) : before.look location = some kind := by
    rcases gains.places location with same | ⟨-, made⟩
    · rw [← same, found]
    · exact absurd (Option.some.inj (found.symm.trans made)) other
  exact ⟨gains.here, fun _ => present, fun _ bytes found => ⟨bytes, present found⟩,
    fun _ _ _ => ⟨unmade nofun, present⟩, fun _ _ => unmade nofun⟩

/-- The directory that a path lies in need not be made if the way of the path is open. -/
theorem makeParent_of_opens (plain : disk.IsPlain) {path : Path} (opens : disk.Opens path) :
    disk.makeParent path = (.ok (), disk) := by
  rw [makeParent]
  split
  · rfl
  · rename_i parent found
    have there : disk.makeDirectories parent.ancestors = (.ok (), disk) := by
      rw [Path.ancestors, Path.ancestorsUpTo, makeDirectories]
      by_cases empty : parent.bytes = []
      · rw [if_pos (List.isEmpty_iff.mpr empty)]
      · obtain ⟨entries, isThere⟩ :=
          find_of_liesIn plain opens (Path.liesIn_of_parent? empty found) empty
        obtain ⟨parentOpens, -, here, -⟩ := (find_eq_ok_iff plain).mp isThere
        have taken : disk.makeDirectory parent = .error .exists := by
          rw [makeDirectory, arrive_of_opens plain (fun impossible => by cases impossible)
            parentOpens here]
        have isDirectory : disk.isDirectory parent = true := by
          rw [Disk.isDirectory, isThere]
          rfl
        -- Making the directory fails since it is there, and that it is a directory makes up for it.
        rw [if_neg (fun none => empty (List.isEmpty_iff.mp none)), taken]
        dsimp only
        rw [if_pos isDirectory]
    rw [there]

/-! ### Writing files -/

theorem endsInSlash_eq_false_of_writing (plain : disk.IsPlain) {path : Path} {arrival : Arrival}
    (other : disk.look (disk.placeOf path) ≠ some .directory)
    (arrived : disk.arrive .write path = .ok arrival) : path.endsInSlash = false :=
  Bool.eq_false_iff.mpr fun slash => other (directory_of_arrive_write plain slash arrived)

/-- A file put where a path leads is there afterwards, and nothing else has changed. -/
theorem find_set_file (plain : disk.IsPlain) {path : Path} {bytes : ByteArray}
    {above : Location} {name : Name} (place : disk.placeOf path = above ++ [name])
    (opens : disk.Opens path) (slashless : path.endsInSlash = false)
    (inside : disk.look above = some .directory)
    (free : ∀ old, disk.get? (above ++ [name]) = some old → ∃ others, old = .file others) :
    Grows (· = disk.placeOf path) disk (disk.set (disk.placeOf path) (.file bytes)) ∧
      (disk.set (disk.placeOf path) (.file bytes)).find path =
        .ok (disk.placeOf path, .file bytes) := by
  rw [place]
  have growth : Grows _ disk (disk.set (above ++ [name]) (.file bytes)) :=
    grows_set_file inside free
  refine ⟨growth, (find_eq_ok_iff (growth.isPlain plain)).mpr ⟨growth.opens opens, ?_, ?_, ?_⟩⟩
  · rw [growth.placeOf_eq, place]
  · refine get?_of_look_file ?_
    rw [look_set inside (Node.isLeaf_file bytes) (fun old here => ?_), if_pos rfl]
    · rfl
    · obtain ⟨others, rfl⟩ := free old here
      exact Node.isLeaf_file others
  · intro slash
    rw [slashless] at slash
    cases slash

theorem writeBytes_ok (plain : disk.IsPlain) {path : Path} {bytes : ByteArray} {after : Disk}
    (success : disk.writeBytes path bytes = .ok after) :
    Grows (· = disk.placeOf path) disk after ∧
      after.find path = .ok (disk.placeOf path, .file bytes) := by
  rw [writeBytes] at success
  split at success
  · cases success
  · rename_i above name flag arrived
    obtain ⟨opens, ⟨place, inside, missing⟩, -⟩ := arrive_ok plain arrived
    have slashless := endsInSlash_eq_false_of_writing plain
      (fun found => by rw [look_eq_map_get?, missing] at found; cases found) arrived
    obtain rfl := Except.ok.inj success
    rw [place]
    refine find_set_file plain place.symm opens slashless inside fun old here => ?_
    rw [place, missing] at here
    cases here
  · -- The path leads to a file, which lies in a directory since the top is one.
    rename_i location others flag arrived
    obtain ⟨opens, ⟨rfl, here⟩, -⟩ := arrive_ok plain arrived
    have slashless := endsInSlash_eq_false_of_writing plain
      (fun found => by rw [look_of_get? here] at found; cases found) arrived
    obtain rfl := Except.ok.inj success
    rcases List.eq_nil_or_concat (disk.placeOf path) with empty | ⟨above, name, place⟩
    · have top := look_of_get? here
      rw [empty, plain.top] at top
      cases top
    · rw [List.concat_eq_append] at place
      rw [place] at here
      refine find_set_file plain place opens slashless (Node.look_of_append here) ?_
      exact fun old there => ⟨others, Option.some.inj (there.symm.trans here)⟩
  · cases success

/-- Writing what a file holds already does nothing. -/
theorem writeBytes_of_find (plain : disk.IsPlain) {path : Path} {location : Location}
    {bytes : ByteArray} (found : disk.find path = .ok (location, .file bytes)) :
    disk.writeBytes path bytes = .ok disk := by
  obtain ⟨opens, rfl, here, fits⟩ := (find_eq_ok_iff plain).mp found
  have slashless : path.endsInSlash = false :=
    Bool.eq_false_iff.mpr fun slash => Bool.false_ne_true (fits slash)
  rw [writeBytes, arrive_of_opens plain (fun _ => slashless) opens here]
  exact congrArg Except.ok (set_of_get? here)

/-! ### Writing and comparing artifacts -/

variable {root : Path} {artifact : Artifact}

theorem readBytes_eq_ok_iff {path : Path} {bytes : ByteArray} :
    disk.readBytes path = .ok bytes ↔ ∃ location, disk.find path = .ok (location, .file bytes) := by
  constructor
  · intro read
    rw [readBytes] at read
    split at read
    · rename_i location others found
      obtain rfl := Except.ok.inj read
      exact ⟨location, found⟩
    · cases read
    · cases read
  · rintro ⟨location, found⟩
    rw [readBytes, found]

theorem beq_bytes_iff {first second : ByteArray} : (first == second) = true ↔ first = second := by
  show (first.data == second.data) = true ↔ _
  rw [beq_iff_eq, ByteArray.ext_iff]

/-- An artifact is there as it should be if its path leads to a file with its contents. -/
theorem isCurrent_eq_ok_true_iff :
    disk.isCurrent root artifact = .ok true ↔
      ∃ location, disk.find (root.join artifact.path) =
        .ok (location, .file (Text.toBytes artifact.contents)) := by
  rw [← readBytes_eq_ok_iff]
  constructor
  · intro current
    rw [isCurrent] at current
    split at current
    · rename_i bytes read
      rw [read, beq_bytes_iff.mp (Except.ok.inj current)]
    · cases current
    · cases current
  · intro read
    rw [isCurrent, read]
    exact congrArg Except.ok (beq_bytes_iff.mpr rfl)

/-- Where an artifact has been written, it is there as it should be. Nothing else has changed,
except for directories that have been made. -/
theorem write_ok (plain : disk.IsPlain) {after : Disk}
    (success : disk.write root artifact = (.ok (), after)) :
    Grows (· = disk.placeOf (root.join artifact.path)) disk after ∧
      after.find (root.join artifact.path) =
        .ok (disk.placeOf (root.join artifact.path), .file (Text.toBytes artifact.contents)) := by
  rw [write] at success
  have parents := (makeParent_gains disk (root.join artifact.path)).grows
  split at success
  · cases success
  · rename_i made parentsMade
    rw [parentsMade] at parents
    split at success
    · rename_i written writing
      obtain rfl := (Prod.mk.inj success).2
      have growth := writeBytes_ok (parents.isPlain plain) writing
      rw [parents.placeOf_eq] at growth
      exact ⟨(parents.mono fun _ impossible => impossible.elim).trans growth.1, growth.2⟩
    · cases success

/-- Writing an artifact that is there as it should be succeeds and does nothing. -/
theorem write_of_isCurrent (plain : disk.IsPlain)
    (current : disk.isCurrent root artifact = .ok true) :
    disk.write root artifact = (.ok (), disk) := by
  obtain ⟨location, found⟩ := isCurrent_eq_ok_true_iff.mp current
  rw [write, makeParent_of_opens plain ((find_eq_ok_iff plain).mp found).1]
  dsimp only
  rw [writeBytes_of_find plain found]

end Prebuild.Disk
