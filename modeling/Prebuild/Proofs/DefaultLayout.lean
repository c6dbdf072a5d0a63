/-
This file says where the generators read and write below the root under the default settings,
and that these are different places.

Each generator has one directory for its artifacts. Nothing that a generator lists or reads is
an artifact or lies below the directory of the fragments, the only directory that may have to be
made. So two disks that hold the same at all places apart from these are the same to each
generator, whatever else is on them.
-/

import Prebuild.Proofs.BoardPaths
import Prebuild.Proofs.Disk.SameTree
import Prebuild.Proofs.Run.FixedPoint

namespace Prebuild

open Prebuild.Path (Step endOf)

/-! ### Paths that go down -/

namespace Path

/-- A path below any base goes down by names, perhaps after a step that stays. -/
structure Descends (path : Path) (names : Location) : Prop where
  relative : path.isAbsolute = false
  steps : path.steps = names.map Step.name ∨ path.steps = .stay :: names.map Step.name

instance (path : Path) (names : Location) : Decidable (Descends path names) :=
  decidable_of_iff (path.isAbsolute = false ∧
      (path.steps = names.map Step.name ∨ path.steps = .stay :: names.map Step.name))
    ⟨fun ⟨relative, steps⟩ => ⟨relative, steps⟩, fun descends => ⟨descends.1, descends.2⟩⟩

theorem endOf_names (names location : Location) :
    endOf (names.map Step.name) location = location ++ names := by
  induction names generalizing location with
  | nil => exact (List.append_nil location).symm
  | cons name names inductionHypothesis =>
    rw [List.map_cons, endOf, inductionHypothesis, Step.next, List.append_assoc]
    rfl

theorem Descends.placeOf {path : Path} {names : Location} (descends : path.Descends names)
    (disk : Disk) (root : Path) :
    disk.placeOf (root.join path) = disk.placeOf root ++ names := by
  rw [disk.placeOf_join root descends.relative]
  rcases descends.steps with steps | steps
  · rw [steps, endOf_names]
  · rw [steps, endOf, endOf_names]
    rfl

/-- A name in a directory goes down one further. -/
theorem Descends.join {path : Path} {names : Location} (descends : path.Descends names)
    {name : Name} (isName : IsName name) : (path.join ⟨name⟩).Descends (names ++ [name]) := by
  refine ⟨(isAbsolute_join path isName.relative).trans descends.relative, ?_⟩
  rw [steps_join_name path isName]
  rcases descends.steps with steps | steps
  · exact .inl (by rw [steps, List.map_append]; rfl)
  · exact .inr (by rw [steps, List.map_append]; rfl)

end Path

/-! ### Where the artifacts belong -/

namespace Generator

/-- The directory for the artifacts of a generator under the default settings. -/
def outputDirectory : Generator → Path
  | boardFragments => "hal/mk"
  | shellCommands => ""
  | applications => "app"
  | registerIdentifiers => ""

/-- The names that lead to it. -/
def outputFolder : Generator → Location
  | boardFragments => ["hal", "mk"]
  | shellCommands => []
  | applications => ["app"]
  | registerIdentifiers => []

/-- The names of artifacts in it. -/
def IsOutputName : Generator → Name → Prop
  | boardFragments, name => Path.IsName name
  | shellCommands, name => name = "shdefs.h"
  | applications, name => name = "apdefs.h"
  | registerIdentifiers, name => name = "regdefs.h"

theorem descends_outputDirectory (generator : Generator) :
    generator.outputDirectory.Descends generator.outputFolder := by
  cases generator <;> decide

theorem steps_outputDirectory (generator : Generator) :
    generator.outputDirectory.steps = generator.outputFolder.map Step.name := by
  cases generator <;> rfl

theorem IsOutputName.isName {generator : Generator} {name : Name}
    (isOutput : generator.IsOutputName name) : Path.IsName name := by
  cases generator with
  | boardFragments => exact isOutput
  | shellCommands => exact isOutput ▸ by decide
  | applications => exact isOutput ▸ by decide
  | registerIdentifiers => exact isOutput ▸ by decide

/-- No artifact is the directory of others. -/
theorem outputFolder_ne {generator other : Generator} {name : Name}
    (isOutput : generator.IsOutputName name) :
    generator.outputFolder ++ [name] ≠ other.outputFolder := by
  cases generator <;> cases other <;> simp_all [outputFolder, IsOutputName, Text.bytes_inj]

/-- Artifacts of different generators have different places. -/
theorem output_ne {generator other : Generator} {name otherName : Name}
    (different : generator ≠ other) (isOutput : generator.IsOutputName name)
    (isOther : other.IsOutputName otherName) :
    generator.outputFolder ++ [name] ≠ other.outputFolder ++ [otherName] := by
  cases generator <;> cases other <;> simp_all [outputFolder, IsOutputName, Text.bytes_inj]

end Generator

/-! ### Places apart from the artifacts -/

/-- What may change below the root, with all that lies below it: the artifacts with a name of their
own, and the directory of the fragments. -/
def outputPlaces : List Location :=
  [["hal", "mk"], ["shdefs.h"], ["app", "apdefs.h"],
    ["regdefs.h"]]

/-- A place below the root is none of these and lies below none of them. -/
def IsApart (location : Location) : Prop := ∀ output ∈ outputPlaces, ¬output <+: location

instance : DecidablePred IsApart := fun _ => inferInstanceAs (Decidable (∀ output ∈ _, _))

theorem IsApart.of_prefix {location front : Location} (apart : IsApart location)
    (begins : front <+: location) : IsApart front :=
  fun output member inside => apart output member (inside.trans begins)

theorem not_isApart_output {generator : Generator} {name : Name}
    (isOutput : generator.IsOutputName name) : ¬IsApart (generator.outputFolder ++ [name]) := by
  intro apart
  cases generator with
  | boardFragments =>
    exact apart ["hal", "mk"] (by decide) (List.prefix_append _ _)
  | shellCommands =>
    obtain rfl := isOutput
    exact absurd apart (by decide)
  | applications =>
    obtain rfl := isOutput
    exact absurd apart (by decide)
  | registerIdentifiers =>
    obtain rfl := isOutput
    exact absurd apart (by decide)

/-- An entry of a directory is apart if its name has an extension that no artifact has which lies
directly in the directory. -/
theorem IsApart.of_extension {names : Location} {extension : Text} {name : Name}
    (apart : IsApart names)
    (other : ∀ output ∈ outputPlaces, output.dropLast = names → ∀ last ∈ output.getLast?,
      Path.nameHasExtension extension last = false)
    (extended : Path.nameHasExtension extension name = true) : IsApart (names ++ [name]) := by
  intro output member inside
  rcases List.prefix_concat_iff.mp inside with rfl | above
  · have unlike := other _ member List.dropLast_concat name List.getLast?_concat
    rw [extended] at unlike
    cases unlike
  · exact apart output member above

namespace Generator

/-- The directories that a generator lists are apart from the artifacts, and so are the entries that
it asks for. -/
theorem listings_apart {generator : Generator} {listing : Path × Text}
    (asked : listing ∈ generator.listings {}) :
    ∃ names, listing.1.Descends names ∧ IsApart names ∧
      ∀ name, Path.nameHasExtension listing.2 name = true → IsApart (names ++ [name]) := by
  cases generator with
  | boardFragments =>
    obtain rfl := List.mem_singleton.mp asked
    exact ⟨["hal", "hw"], by decide, by decide,
      fun _ => IsApart.of_extension (by decide) (by decide)⟩
  | shellCommands =>
    simp only [listings, List.map_cons, List.map_nil, List.mem_cons, List.not_mem_nil,
      or_false] at asked
    rcases asked with rfl | rfl | rfl
    · exact ⟨[], by decide, by decide, fun _ => IsApart.of_extension (by decide) (by decide)⟩
    · exact ⟨["app"], by decide, by decide,
        fun _ => IsApart.of_extension (by decide) (by decide)⟩
    · exact ⟨["hal"], by decide, by decide,
        fun _ => IsApart.of_extension (by decide) (by decide)⟩
  | applications =>
    obtain rfl := List.mem_singleton.mp asked
    exact ⟨["app"], by decide, by decide,
      fun _ => IsApart.of_extension (by decide) (by decide)⟩
  | registerIdentifiers => cases asked

end Generator

/-! ### What the generators give -/

/-- Everything below a node has a name that an entry of a directory can have. -/
def Node.IsNamed (node : Node) : Prop :=
  ∀ location name, node.look (location ++ [name]) ≠ none → Path.IsName name

theorem Node.isNamed_file (bytes : ByteArray) : (file bytes).IsNamed := by
  intro location name there
  rw [look, get?_append] at there
  cases location <;> exact absurd rfl there

/-- What lies below a directory is one of its entries, or lies below one. -/
theorem Node.exists_entry_of_look {entries : Listing} {name : Name} {location : Location}
    (there : (directory entries).look (name :: location) ≠ none) :
    ∃ child, (name, child) ∈ entries ∧ child.look location ≠ none := by
  rw [look_cons] at there
  obtain ⟨kind, reached⟩ := Option.ne_none_iff_exists'.mp there
  obtain ⟨child, found, below⟩ := Option.bind_eq_some_iff.mp reached
  obtain ⟨entry, first, rfl⟩ := Option.map_eq_some_iff.mp found
  have same := List.find?_some first
  obtain rfl : entry.1 = name := beq_iff_eq.mp same
  exact ⟨entry.2, List.mem_of_find?_eq_some first, below ▸ Option.some_ne_none kind⟩

theorem Node.isNamed_directory {entries : Listing}
    (named : ∀ entry ∈ entries, Path.IsName entry.1 ∧ entry.2.IsNamed) :
    (directory entries).IsNamed := by
  intro location name there
  cases location with
  | nil =>
    obtain ⟨child, member, -⟩ := exists_entry_of_look there
    exact (named _ member).1
  | cons first rest =>
    obtain ⟨child, member, below⟩ := exists_entry_of_look there
    exact (named _ member).2 rest name below

namespace Disk

/-- Everything on a disk has a name that an entry of a directory can have. -/
def IsNamed (disk : Disk) : Prop := disk.top.IsNamed

theorem look_of_find {disk : Disk} {path : Path} {location : Location} {entries : Listing}
    (found : disk.find path = .ok (location, .directory entries)) {name : Name}
    (member : name ∈ Listing.names entries) : disk.look (location ++ [name]) ≠ none := by
  obtain ⟨node, entry⟩ := Listing.mem_names.mp member
  rw [look_eq_map_get?, get?_append_singleton (get?_of_find found), entry]
  exact Option.some_ne_none _

end Disk

namespace BoardFragment

theorem isName_fragment {board : Text} (isBoard : IsBoard board) :
    Path.IsName (Text.bytes (board ++ '.' :: "d")) := by
  rw [Path.bytes_append_dot]
  refine ⟨List.append_ne_nil_of_left_ne_nil isBoard.bytes_ne_nil _, fun inside => ?_,
    append_ne_dot isBoard _, fun dots => ?_⟩
  · rcases List.mem_append.mp inside with inBoard | inEnding
    · exact isBoard.slash_not_mem_bytes inBoard
    · exact absurd inEnding (by decide)
  · have last := congrArg List.getLast? dots
    rw [List.getLast?_append] at last
    cases last

end BoardFragment

namespace Generator

variable {disk : Disk} {root : Path} {generator : Generator} {artifacts : List Artifact}

/-- The artifacts of a generator belong in its directory, under its names. -/
theorem exists_outputName (named : disk.IsNamed)
    (success : (generator.generate {} (disk.source root)).result = .ok artifacts) :
    ∀ artifact ∈ artifacts, ∃ name, generator.IsOutputName name ∧
      artifact.path = generator.outputDirectory.join ⟨name⟩ := by
  cases generator with
  | boardFragments =>
    obtain ⟨headers, -, rfl, -, proper⟩ := BoardFragment.exists_headers_of_generate
      (fun location entries found name member => named location name
        (Disk.look_of_find found member)) success
    intro artifact member
    obtain ⟨header, inHeaders, rfl⟩ := List.mem_map.mp member
    have isName := (proper _ (List.mem_map_of_mem inHeaders)).1
    exact ⟨_, BoardFragment.isName_fragment (BoardFragment.isBoard_beforeLast isName), rfl⟩
  | shellCommands =>
    obtain ⟨text, -, made⟩ := Outcome.bind_ok_cases success
    obtain rfl := Except.ok.inj made
    intro artifact member
    obtain rfl := List.mem_singleton.mp member
    exact ⟨_, rfl, rfl⟩
  | applications =>
    obtain ⟨files, -, made⟩ := Outcome.bind_ok_cases success
    obtain rfl := Except.ok.inj made
    intro artifact member
    obtain rfl := List.mem_singleton.mp member
    exact ⟨_, rfl, rfl⟩
  | registerIdentifiers =>
    obtain ⟨table, -, scanned⟩ := Outcome.bind_ok_cases success
    obtain ⟨header, -, noted⟩ := Outcome.bind_ok_cases scanned
    obtain ⟨_, -, made⟩ := Outcome.bind_ok_cases noted
    obtain rfl := Except.ok.inj made
    intro artifact member
    obtain rfl := List.mem_singleton.mp member
    exact ⟨_, rfl, rfl⟩

end Generator

/-! ### Disks that are alike to the generators -/

namespace Disk

/-- The root is a directory, and the way there is open. -/
structure Rooted (disk : Disk) (root : Path) : Prop where
  way : disk.Open root.steps (startOf root disk.here)
  inside : disk.look (disk.placeOf root) = some .directory

/-- Two disks hold the same below a root at all places apart from the artifacts, where everything
has a proper name. -/
structure Alike (root : Path) (first second : Disk) : Prop where
  here : second.here = first.here
  plainFirst : first.IsPlain
  plainSecond : second.IsPlain
  rootedFirst : first.Rooted root
  rootedSecond : second.Rooted root
  look : ∀ location, IsApart location →
    second.look (first.placeOf root ++ location) = first.look (first.placeOf root ++ location)
  named : ∀ location name, IsApart (location ++ [name]) →
    first.look (first.placeOf root ++ (location ++ [name])) ≠ none → Path.IsName name

namespace Alike

variable {root path : Path} {first second : Disk} {names : Location}

theorem placeOf_eq (alike : Alike root first second) (path : Path) :
    second.placeOf path = first.placeOf path := by
  rw [placeOf, placeOf, alike.here]

theorem symm (alike : Alike root first second) : Alike root second first := by
  refine ⟨alike.here.symm, alike.plainSecond, alike.plainFirst, alike.rootedSecond,
    alike.rootedFirst, fun location apart => ?_, fun location name apart there => ?_⟩
  · rw [alike.placeOf_eq, alike.look location apart]
  · rw [alike.placeOf_eq, alike.look _ apart] at there
    exact alike.named location name apart there

theorem open_names {base : Location}
    (same : ∀ front, front <+: names → second.look (base ++ front) = first.look (base ++ front))
    (way : first.Open (names.map Step.name) base) : second.Open (names.map Step.name) base := by
  induction names generalizing base with
  | nil => trivial
  | cons name names inductionHypothesis =>
    obtain ⟨inside, fits, further⟩ := way
    refine ⟨?_, fits, inductionHypothesis (fun front begins => ?_) further⟩
    · have here := same [] List.nil_prefix
      rw [List.append_nil] at here
      rw [here, inside]
    · have below := same (name :: front) ((List.prefix_cons_inj name).mpr begins)
      rw [List.append_cons] at below
      exact below

/-- A path that goes down to a place apart from the artifacts has an open way on both disks, or on
neither. -/
theorem opens (alike : Alike root first second) (descends : path.Descends names)
    (apart : IsApart names) (opens : first.Opens (root.join path)) :
    second.Opens (root.join path) := by
  refine ⟨opens.noNul, opens.nonempty, opens.short, ?_⟩
  have way := opens.way
  rw [open_join_iff root descends.relative] at way ⊢
  refine ⟨alike.rootedSecond.way, ?_⟩
  have below : first.Open (names.map Step.name) (first.placeOf root) →
      second.Open (names.map Step.name) (second.placeOf root) := by
    rw [alike.placeOf_eq]
    exact open_names fun front begins => alike.look front (apart.of_prefix begins)
  rcases descends.steps with steps | steps
  · rw [steps] at way ⊢
    exact below way.2
  · rw [steps] at way ⊢
    exact ⟨alike.rootedSecond.inside, trivial, below way.2.2.2⟩

theorem find_file (alike : Alike root first second) (descends : path.Descends names)
    (apart : IsApart names) {location : Location} {bytes : ByteArray}
    (found : first.find (root.join path) = .ok (location, .file bytes)) :
    second.find (root.join path) = .ok (location, .file bytes) := by
  obtain ⟨opens, place, here, fits⟩ := (find_eq_ok_iff alike.plainFirst).mp found
  rw [descends.placeOf] at place
  refine (find_eq_ok_iff alike.plainSecond).mpr ⟨alike.opens descends apart opens, ?_, ?_, fits⟩
  · rw [descends.placeOf, alike.placeOf_eq, place]
  · rw [← look_eq_file_iff, place, alike.look names apart, ← place, look_eq_file_iff, here]

theorem find_directory (alike : Alike root first second) (descends : path.Descends names)
    (apart : IsApart names) {location : Location} {entries : Listing}
    (found : first.find (root.join path) = .ok (location, .directory entries)) :
    location = first.placeOf root ++ names ∧
      ∃ others, second.find (root.join path) = .ok (location, .directory others) := by
  obtain ⟨opens, place, here, -⟩ := (find_eq_ok_iff alike.plainFirst).mp found
  rw [descends.placeOf] at place
  have there : second.look location = some .directory := by
    rw [place, alike.look names apart, ← place, look_of_get? here]
    rfl
  obtain ⟨others, hereOther⟩ := exists_directory_of_look there
  refine ⟨place, others, (find_eq_ok_iff alike.plainSecond).mpr
    ⟨alike.opens descends apart opens, ?_, hereOther, fun _ => rfl⟩⟩
  rw [descends.placeOf, alike.placeOf_eq, place]

theorem listFiles_eq (alike : Alike root first second) (descends : path.Descends names)
    (apart : IsApart names) {extension : Text}
    (apartEntries : ∀ name, Path.nameHasExtension extension name = true → IsApart (names ++ [name]))
    {paths : List Path} (success : (first.listFiles root path extension).result = .ok paths) :
    second.listFiles root path extension = first.listFiles root path extension := by
  obtain ⟨location, entries, found⟩ := listFiles_ok_cases success
  obtain ⟨place, others, foundOther⟩ := alike.find_directory descends apart found
  have same : Listing.fileNames others extension = Listing.fileNames entries extension := by
    refine Listing.fileNames_eq fun name bytes extended => ?_
    rw [← get?_append_singleton (get?_of_find foundOther),
      ← get?_append_singleton (get?_of_find found), ← look_eq_file_iff, ← look_eq_file_iff,
      place, List.append_assoc, alike.look _ (apartEntries name extended)]
  rw [Disk.listFiles_eq alike.plainSecond foundOther, Disk.listFiles_eq alike.plainFirst found,
    same]

/-- What a generator reads below the root is apart from the artifacts. -/
theorem reads_apart (alike : Alike root first second) {generator : Generator} {path : Path}
    (asked : path ∈ generator.reads {} (first.source root)) :
    ∃ names, path.Descends names ∧ IsApart names := by
  have ofListed : path ∈ generator.listed {} (first.source root) →
      ∃ names, path.Descends names ∧ IsApart names := by
    intro listed
    obtain ⟨listing, asked, inPaths⟩ := List.mem_flatMap.mp listed
    obtain ⟨names, descends, apart, apartEntries⟩ := Generator.listings_apart asked
    split at inPaths
    · rename_i paths success
      obtain ⟨location, entries, selected, found, rfl, -, extended⟩ := listFiles_ok_names success
      obtain ⟨name, member, rfl⟩ := List.mem_map.mp inPaths
      obtain ⟨entry, hasExtension⟩ := extended name member
      have apartName := apartEntries name hasExtension
      have there := look_of_find found entry
      rw [(alike.find_directory descends apart found).1, List.append_assoc] at there
      exact ⟨_, descends.join (alike.named names name apartName there), apartName⟩
    · cases inPaths
  cases generator with
  | boardFragments => exact ofListed asked
  | shellCommands => exact ofListed asked
  | applications => cases asked
  | registerIdentifiers =>
    obtain rfl := List.mem_singleton.mp asked
    exact ⟨["regfile.c"], by decide, by decide⟩

/-- Disks that are alike have the same for each generator. -/
theorem agrees (alike : Alike root first second) (generator : Generator) :
    Generator.Agrees {} generator (first.source root) (second.source root) := by
  constructor
  · intro listing asked paths success
    obtain ⟨names, descends, apart, apartEntries⟩ := Generator.listings_apart asked
    exact alike.listFiles_eq descends apart apartEntries success
  · intro path asked text read
    obtain ⟨names, descends, apart⟩ := alike.reads_apart asked
    obtain ⟨location, bytes, found, valid⟩ :=
      readText_eq_ok_iff.mp (source_read_eq_ok_iff.mp read)
    exact source_read_eq_ok_iff.mpr
      (readText_eq_ok_iff.mpr ⟨location, bytes, alike.find_file descends apart found, valid⟩)

end Alike

end Disk

/-! ### Where a generator has succeeded -/

/-- The artifacts of a generator can be written below a root, as far as their directory is
concerned: the way there is open, and it is there unless it is that of the fragments. -/
structure Disk.Ready (disk : Disk) (root : Path) (generator : Generator) : Prop where
  rooted : disk.Rooted root
  way : disk.Open (generator.outputFolder.map Step.name) (disk.placeOf root)
  there : disk.look (disk.placeOf root ++ generator.outputFolder) = some .directory ∨
    generator = .boardFragments

namespace Generator

variable {disk : Disk} {root : Path} {generator : Generator} {artifacts : List Artifact}

/-- A directory that has been listed is there, and the way there is open. -/
theorem opens_of_list {path : Path} {extension : Text} {paths : List Path} (plain : disk.IsPlain)
    (success : ((disk.source root).list path extension).result = .ok paths) :
    disk.Opens (root.join path) ∧ disk.look (disk.placeOf (root.join path)) = some .directory := by
  obtain ⟨location, entries, found⟩ := Disk.listFiles_ok_cases success
  obtain ⟨opens, rfl, here, -⟩ := (Disk.find_eq_ok_iff plain).mp found
  exact ⟨opens, Disk.look_of_get? here⟩

/-- Each generator lists or reads something below the root. -/
theorem exists_opens (plain : disk.IsPlain)
    (success : (generator.generate {} (disk.source root)).result = .ok artifacts) :
    ∃ path, path.isAbsolute = false ∧ path.steps ≠ [] ∧ disk.Opens (root.join path) := by
  cases generator with
  | boardFragments =>
    obtain ⟨headers, listed, -⟩ := Outcome.bind_ok_cases success
    exact ⟨"hal/hw", by decide, by decide, (opens_of_list plain listed).1⟩
  | shellCommands =>
    obtain ⟨text, collected, -⟩ := Outcome.bind_ok_cases success
    obtain ⟨part, others, scanned, -⟩ := Outcome.collect_cons_ok_cases collected
    obtain ⟨files, listed, -⟩ := Outcome.bind_ok_cases scanned
    exact ⟨".", by decide, by decide, (opens_of_list plain listed).1⟩
  | applications =>
    obtain ⟨files, listed, -⟩ := Outcome.bind_ok_cases success
    exact ⟨"app", by decide, by decide, (opens_of_list plain listed).1⟩
  | registerIdentifiers =>
    obtain ⟨table, read, -⟩ := Outcome.bind_ok_cases success
    obtain ⟨location, bytes, found, -⟩ :=
      Disk.readText_eq_ok_iff.mp (Disk.source_read_eq_ok_iff.mp read)
    exact ⟨"regfile.c", by decide, by decide, ((Disk.find_eq_ok_iff plain).mp found).1⟩

/-- The way to a path below the root leads over the root. -/
theorem open_of_opens {path : Path} (relative : path.isAbsolute = false)
    (opens : disk.Opens (root.join path)) :
    disk.Open root.steps (Disk.startOf root disk.here) ∧
      disk.Open path.steps (disk.placeOf root) :=
  (Disk.open_join_iff root relative).mp opens.way

/-- Where a generator has succeeded, the root is a directory. -/
theorem rooted_of_generate (plain : disk.IsPlain)
    (success : (generator.generate {} (disk.source root)).result = .ok artifacts) :
    disk.Rooted root := by
  obtain ⟨path, relative, nonempty, opens⟩ := exists_opens plain success
  obtain ⟨way, below⟩ := open_of_opens relative opens
  refine ⟨way, ?_⟩
  obtain ⟨step, rest, steps⟩ := List.exists_cons_of_ne_nil nonempty
  rw [steps] at below
  exact below.1

/-- Where a generator has succeeded, the way to its directory is open, and the directory is there
unless it is that of the fragments. -/
theorem ready_of_generate (plain : disk.IsPlain)
    (success : (generator.generate {} (disk.source root)).result = .ok artifacts) :
    disk.Ready root generator := by
  have rooted := rooted_of_generate plain success
  have inside := rooted.inside
  cases generator with
  | boardFragments =>
    obtain ⟨headers, listed, -⟩ := Outcome.bind_ok_cases success
    obtain ⟨-, here, fits, below, -⟩ := open_of_opens (by decide) (opens_of_list plain listed).1
    have short : (Text.bytes "mk").length ≤ Disk.longestName := by decide
    exact ⟨rooted, ⟨here, fits, below, short, trivial⟩, .inr rfl⟩
  | shellCommands => exact ⟨rooted, trivial, .inl (by rwa [outputFolder, List.append_nil])⟩
  | applications =>
    obtain ⟨files, listed, -⟩ := Outcome.bind_ok_cases success
    obtain ⟨opens, there⟩ := opens_of_list plain listed
    have place := (descends_outputDirectory .applications).placeOf disk root
    exact ⟨rooted, (open_of_opens (by decide) opens).2, .inl (place ▸ there)⟩
  | registerIdentifiers => exact ⟨rooted, trivial, .inl (by rwa [outputFolder, List.append_nil])⟩

end Generator

end Prebuild
