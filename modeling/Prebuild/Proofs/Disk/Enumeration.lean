/-
This file proves that a listing is exact, and that it does not depend on the order in which a
directory gives its entries.

Names in a directory differ, so which entry has a name is no matter of their order, and a disk
with a directory enumerated in another order is the same tree. A listing of a directory then
gives the names of its files with the extension, ascending by their bytes. These three, which
names, each once, and in what order, leave no choice.
-/

import Mathlib.Logic.Relation
import Prebuild.Generator
import Prebuild.Proofs.Disk.SameTree
import Prebuild.Proofs.FileName

namespace Prebuild

/-! ### Directories in another order -/

namespace Listing

theorem get?_eq_some_iff_mem {entries : Listing} (distinct : (entries.map Prod.fst).Nodup)
    {name : Name} {node : Node} : get? entries name = some node ↔ (name, node) ∈ entries := by
  induction entries with
  | nil =>
    constructor
    · intro impossible
      cases impossible
    · intro impossible
      cases impossible
  | cons entry entries inductionHypothesis =>
    rw [List.map_cons, List.nodup_cons] at distinct
    rw [get?_cons, List.mem_cons]
    by_cases same : entry.1 = name
    · subst same
      have elsewhere : (entry.1, node) ∉ entries := fun member =>
        distinct.1 (List.mem_map.mpr ⟨_, member, rfl⟩)
      rw [if_pos rfl, or_iff_left elsewhere, Option.some_inj]
      exact ⟨fun equal => Prod.ext rfl equal.symm, fun equal => (congrArg Prod.snd equal).symm⟩
    · rw [if_neg same, inductionHypothesis distinct.2]
      exact (or_iff_right fun equal => same (congrArg Prod.fst equal).symm).symm

/-- In whatever order a directory gives its entries, each name has the same node. -/
theorem get?_of_perm {entries others : Listing} (distinct : (entries.map Prod.fst).Nodup)
    (reordered : entries.Perm others) (name : Name) : get? others name = get? entries name := by
  have distinctOthers : (others.map Prod.fst).Nodup :=
    (reordered.map Prod.fst).nodup_iff.mp distinct
  refine Option.ext fun node => ?_
  rw [get?_eq_some_iff_mem distinct, get?_eq_some_iff_mem distinctOthers]
  exact reordered.mem_iff.symm

end Listing

namespace Node

theorem set_cons_of_get? {entries : Listing} {name : Name} {child : Node}
    (here : Listing.get? entries name = some child) (location : Location) (new : Node) :
    (directory entries).set (name :: location) new =
      directory (Listing.set entries name (child.set location new)) := by
  rcases List.eq_nil_or_concat location with rfl | ⟨front, last, rfl⟩
  · rw [set]
    rfl
  · rw [List.concat_eq_append]
    exact set_cons_append_singleton here front last new

/-- Putting a directory with the same entries in the place of one changes nothing. -/
theorem look_set_directory {node : Node} {location : Location} {entries others : Listing}
    (here : node.get? location = some (directory entries))
    (same : ∀ name, Listing.get? others name = Listing.get? entries name) (place : Location) :
    (node.set location (directory others)).look place = node.look place := by
  induction location generalizing node place with
  | nil =>
    obtain rfl := Option.some.inj ((get?_nil node).symm.trans here)
    cases place with
    | nil => rfl
    | cons name rest =>
      show (directory others).look _ = _
      rw [look_cons, look_cons, same]
  | cons name location inductionHypothesis =>
    obtain ⟨siblings, rfl⟩ := exists_directory_of_get?_cons here
    rw [get?_cons] at here
    obtain ⟨child, found, below⟩ := Option.bind_eq_some_iff.mp here
    rw [set_cons_of_get? found]
    cases place with
    | nil => rfl
    | cons first rest =>
      rw [look_set_cons]
      split
      · rename_i equal
        rw [inductionHypothesis below, look_cons, equal, found]
        rfl
      · rfl

end Node

namespace Disk

/-- One disk is another with one of its directories in another order. Names in the directory
differ. -/
def Reorders (first second : Disk) : Prop :=
  ∃ location entries others, first.get? location = some (.directory entries) ∧
    (entries.map Prod.fst).Nodup ∧ entries.Perm others ∧
      second = first.set location (.directory others)

theorem Reorders.sameTree {first second : Disk} (reorders : Reorders first second) :
    SameTree first second := by
  obtain ⟨location, entries, others, here, distinct, reordered, rfl⟩ := reorders
  exact ⟨rfl, Node.look_set_directory here (Listing.get?_of_perm distinct reordered)⟩

/-- Disks of which any directories are in another order are the same tree. -/
theorem sameTree_of_reorders {first second : Disk}
    (reordered : Relation.ReflTransGen Reorders first second) : SameTree first second := by
  induction reordered with
  | refl => exact SameTree.refl first
  | tail _ step same => exact same.trans step.sameTree

/-! ### Listings -/

/-- A listing is exact and does not depend on the order in which directories give their entries.
Where there are no links, the listing of a directory with an extension gives a path for each name
of a file that is directly in the directory and is a text that ends in a full stop and the
extension, and for no other name, ascending by the bytes of the names. Where no directory is found,
be it that none is there or that its path is refused, the directory is a missing input. On a disk
of which any directories give their entries in another order, each listing comes to the same, and
so does each generator, with the same notes, artifacts and failures. -/
theorem listing_is_exact_in_any_order {first second : Disk} (plain : first.IsPlain)
    (reordered : Relation.ReflTransGen Reorders first second) (root : Path) :
    (∀ directory extension location entries,
      first.find (root.join directory) = .ok (location, .directory entries) →
        ∃ names : List Name,
          first.listFiles root directory extension =
            ⟨[.listed directory names.length extension],
              .ok (names.map fun name => directory.join ⟨name⟩)⟩ ∧
          names.Pairwise (· < ·) ∧
          ∀ name, name ∈ names ↔
            (∃ bytes, first.get? (location ++ [name]) = some (.file bytes)) ∧
              ∃ start : Text, name = Text.bytes (start ++ '.' :: extension)) ∧
    (∀ directory extension,
      (∀ location entries,
        first.find (root.join directory) ≠ .ok (location, .directory entries)) →
      first.listFiles root directory extension = .fail (.missingInput directory)) ∧
    (∀ directory extension,
      second.listFiles root directory extension = first.listFiles root directory extension) ∧
    ∀ (settings : Settings) (generator : Generator),
      generator.generate settings (second.source root) =
        generator.generate settings (first.source root) := by
  have same := sameTree_of_reorders reordered
  refine ⟨fun directory extension location entries found => ?_,
    fun directory extension => listFiles_of_no_directory,
    listFiles_eq_of_sameTree same root, fun settings generator => ?_⟩
  · have here := get?_of_find found
    refine ⟨Listing.fileNames entries extension, listFiles_eq plain found, ?_, fun name => ?_⟩
    · exact (Listing.pairwise_names entries).filter _
    · rw [Listing.mem_fileNames, get?_append_singleton here, Path.nameHasExtension_iff]
  · rw [source_eq_of_sameTree same]

/-- A name that ends as that of an application does, but is no text. -/
def strangeName : Name := [0xFF, 0x2E, 0x63]

/-- A directory of applications that holds more than these, and gives its entries in no particular
order. -/
def crowdedEntries : Listing :=
  [("zeta.c", .file ByteArray.empty), ("alpha.c", .file ByteArray.empty),
    ("nested", .directory [("deep.c", .file ByteArray.empty)]), ("dir.c", .directory []),
    (strangeName, .file ByteArray.empty), ("notes.txt", .file ByteArray.empty),
    (".c", .file ByteArray.empty)]

/-- A disk with one directory. -/
def crowdedDisk (entries : Listing) : Disk where
  top := .directory [("app", .directory entries)]
  here := []

theorem isPlain_crowdedDisk : (crowdedDisk crowdedEntries).IsPlain :=
  isPlain_of_holdsNoLink rfl rfl

theorem listing_is_exact_in_any_order_crowded :
    let first := crowdedDisk crowdedEntries
    let second := crowdedDisk crowdedEntries.reverse
    let listing : Outcome (List Path) :=
      ⟨[.listed "app" 3 "c"], .ok ["app/.c", "app/alpha.c", "app/zeta.c"]⟩
    first.IsPlain ∧ Relation.ReflTransGen Reorders first second ∧
      (∃ names : List Name, names.length = 3 ∧ Text.bytes "alpha.c" ∈ names ∧
        strangeName ∉ names ∧ listing.result = .ok (names.map fun name => Path.join "app" ⟨name⟩)) ∧
      first.listFiles "" "app" "c" = listing ∧ second.listFiles "" "app" "c" = listing ∧
      first.listFiles "" "lib" "c" = .fail (.missingInput "lib") := by
  intro first second listing
  have reorders : Reorders first second :=
    ⟨["app"], crowdedEntries, crowdedEntries.reverse, rfl, by decide +kernel,
      (List.reverse_perm _).symm, rfl⟩
  have reordered := Relation.ReflTransGen.single reorders
  have listed : first.listFiles "" "app" "c" = listing := rfl
  have found : first.find (Path.join "" "app") = .ok (["app"], .directory crowdedEntries) := rfl
  have lost : first.find (Path.join "" "lib") = .error .notFound := rfl
  obtain ⟨exact, absent, same, -⟩ :=
    listing_is_exact_in_any_order isPlain_crowdedDisk reordered ""
  obtain ⟨names, whole, -, members⟩ := exact "app" "c" ["app"] crowdedEntries found
  obtain ⟨notes, paths⟩ := Outcome.mk.inj (listed.symm.trans whole)
  refine ⟨isPlain_crowdedDisk, reordered, ⟨names, ?_, ?_, ?_, paths⟩, listed,
    (same "app" "c").trans listed, absent "lib" "c" fun location entries there => ?_⟩
  · simpa using (congrArg List.length (Except.ok.inj paths)).symm
  · exact (members (Text.bytes "alpha.c")).mpr ⟨⟨_, rfl⟩, "alpha", rfl⟩
  · intro inside
    obtain ⟨-, start, isText⟩ := (members strangeName).mp inside
    have noText : strangeName.text? = none := rfl
    rw [isText, Bytes.text?_bytes] at noText
    cases noText
  · cases lost.symm.trans there

/-- The path of the directory of applications with so many slashes at its end that it has more
bytes than a path may have. -/
def longDirectory : Path := ⟨"app" ++ List.replicate 4100 Path.slash⟩

theorem find_longDirectory (disk : Disk) :
    disk.find (Path.join "." longDirectory) = .error .nameTooLong := by
  have bytes : (Path.join "." longDirectory).bytes = "./app" ++ List.replicate 4100 Path.slash :=
    rfl
  refine find_of_too_long ?_ ?_ ?_
  · rw [bytes, List.contains_eq_mem, decide_eq_false_iff_not, List.mem_append, not_or]
    exact ⟨by decide, fun member => absurd (List.eq_of_mem_replicate member) (by decide)⟩
  · rw [bytes]
    exact List.append_ne_nil_of_left_ne_nil (List.cons_ne_nil _ _) _
  · rw [bytes, List.length_append, List.length_replicate]
    decide

/-- Not every file in a directory whose name ends in a full stop and the extension is listed: one
is left out if its name is no text, and all are if the path of the directory is too long. -/
theorem listing_leaves_out_files :
    let disk := crowdedDisk crowdedEntries
    disk.IsPlain ∧ Text.bytes ".c" <:+ strangeName ∧
      disk.get? ["app", strangeName] = some (.file ByteArray.empty) ∧
      disk.listFiles "." "app" "c" =
        ⟨[.listed "app" 3 "c"], .ok ["app/.c", "app/alpha.c", "app/zeta.c"]⟩ ∧
      disk.get? (disk.placeOf (Path.join "." longDirectory)) =
        some (.directory crowdedEntries) ∧
      disk.listFiles "." longDirectory "c" = .fail (.missingInput longDirectory) := by
  intro disk
  have steps : (Path.join "." longDirectory).steps = (Path.mk "./app").steps :=
    Path.steps_append_slashes "./app" 4100
  refine ⟨isPlain_crowdedDisk, ⟨[0xFF], rfl⟩, rfl, rfl, ?_, ?_⟩
  · rw [placeOf, steps]
    rfl
  · refine listFiles_of_no_directory fun location others found => ?_
    cases (find_longDirectory disk).symm.trans found

end Disk

end Prebuild
