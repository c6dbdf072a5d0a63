/-
This file says how work on a disk fails, with or without links: reading an input, listing a
directory, writing an artifact, and comparing one with what is there. For each kind of work there
is a relation that has one rule for each way to fail, and the work fails with a failure exactly if
that is related to it. Only reading and listing have a rule for an input that is missing.

A listing visits the entries of a directory in the order of their names and fails at the first
that it cannot visit, whatever its name. Only a link cannot be visited. So what a listing fails
with does not depend on the extension that it asks for.
-/

import Prebuild.Proofs.Disk.Inputs
import Prebuild.Proofs.Disk.SameTree

namespace Prebuild.Disk

variable {disk : Disk} {root directory path full : Path} {location : Location} {entries : Listing}
  {extension : Text} {name : Name} {names : List Name} {artifact : Artifact} {failure : Failure}

/-! ### Reading -/

/-- The failures of reading the file at a place as an input that is known under a path. -/
inductive ReadingFails (disk : Disk) (place path : Path) : Failure → Prop where
  | missing (lost : disk.find place = .error .notFound) :
      ReadingFails disk place path (.missingInput path)
  | io {fault : Fault} (other : fault ≠ .notFound) (failed : disk.readText place = .error fault) :
      ReadingFails disk place path (.io path (.fault fault))

theorem readingFails_iff {place : Path} :
    ReadingFails disk place path failure ↔
      ∃ fault, disk.readText place = .error fault ∧ failure = Failure.ofFault path fault := by
  constructor
  · rintro (lost | ⟨other, failed⟩)
    · exact ⟨.notFound, readText_eq_notFound_iff.mpr lost, rfl⟩
    · exact ⟨_, failed, (Failure.ofFault_eq_io_iff.mpr ⟨other, rfl, rfl⟩).symm⟩
  · rintro ⟨fault, failed, rfl⟩
    by_cases lost : fault = .notFound
    · subst lost
      exact .missing (readText_eq_notFound_iff.mp failed)
    · rw [Failure.ofFault_eq_io_iff.mpr ⟨lost, rfl, rfl⟩]
      exact .io lost failed

/-! ### Listing -/

/-- The failures of visiting the entry with a name in the directory that a path leads to. -/
inductive VisitingFails (disk : Disk) (full : Path) (location : Location) (entries : Listing)
    (name : Name) : Failure → Prop where
  | missing {target : Path} (link : Listing.get? entries name = some (.link target))
      (lost : disk.find (full.join ⟨name⟩) = .error .notFound) :
      VisitingFails disk full location entries name (.missingInput (full.join ⟨name⟩))
  | io {target : Path} {fault : Fault} (link : Listing.get? entries name = some (.link target))
      (other : fault ≠ .notFound) (failed : disk.find (full.join ⟨name⟩) = .error fault) :
      VisitingFails disk full location entries name
        (.io (full.join ⟨name⟩) (.visiting (full.join ⟨name⟩) fault))
  | loop {target : Path} {node : Node} (link : Listing.get? entries name = some (.link target))
      (back : disk.find (full.join ⟨name⟩) = .ok (location, node)) :
      VisitingFails disk full location entries name
        (.io (full.join ⟨name⟩) (.loop (full.join ⟨name⟩) full))

/-- The failures of listing a directory below the root. -/
inductive ListingFails (disk : Disk) (root directory : Path) : Failure → Prop where
  | directory (absent : disk.isDirectory (root.join directory) = false) :
      ListingFails disk root directory (.missingInput directory)
  /-- The first entry, in the order of names, that cannot be visited. -/
  | entry {location : Location} {entries : Listing} {name : Name} {failure : Failure}
      (found : disk.find (root.join directory) = .ok (location, .directory entries))
      (fails : VisitingFails disk (root.join directory) location entries name failure)
      (first : ∀ earlier, earlier < name →
        ∀ other, ¬ VisitingFails disk (root.join directory) location entries earlier other) :
      ListingFails disk root directory failure

/-- Only an entry that is there cannot be visited. -/
theorem VisitingFails.mem_names
    (fails : VisitingFails disk full location entries name failure) :
    name ∈ Listing.names entries := by
  rcases fails with ⟨link, -⟩ | ⟨link, -, -⟩ | ⟨link, -⟩ <;>
    exact Listing.mem_names.mpr ⟨_, link⟩

theorem visit_eq_error_iff (found : disk.find full = .ok (location, .directory entries)) :
    disk.visit full location entries name = .error failure ↔
      VisitingFails disk full location entries name failure := by
  constructor
  · intro failed
    unfold visit at failed
    split at failed
    · cases failed
    · rename_i target link
      dsimp only at failed
      split at failed
      · cases failed
      · rename_i node _ back
        split at failed
        · rename_i same
          cases failed
          exact .loop link (same ▸ back)
        · cases failed
      · rename_i lost
        cases failed
        exact .missing link lost
      · rename_i fault other reached
        cases failed
        exact .io link other reached
    · cases failed
  · rintro (⟨link, lost⟩ | ⟨link, other, failed⟩ | ⟨link, back⟩)
    · simp only [visit, link, lost]
    · simp only [visit, link, failed]
    · -- What is at the place of the directory is the directory, and no file.
      obtain rfl := Option.some.inj ((get?_of_find back).symm.trans (get?_of_find found))
      simp only [visit, link, back, if_true]

theorem selectFiles_cons_of_error {rest : List Name}
    (visited : disk.visit full location entries name = .error failure) :
    disk.selectFiles full location entries extension (name :: rest) = .error failure := by
  rw [selectFiles, visited]
  rfl

theorem selectFiles_cons_of_ok {isFile : Bool} {rest : List Name}
    (visited : disk.visit full location entries name = .ok isFile) :
    disk.selectFiles full location entries extension (name :: rest) = .error failure ↔
      disk.selectFiles full location entries extension rest = .error failure := by
  rw [selectFiles, visited]
  cases disk.selectFiles full location entries extension rest with
  | error cause => exact Iff.rfl
  | ok selected =>
    constructor <;>
      · intro impossible
        cases impossible

/-- Selecting fails exactly if some entry cannot be visited, with the failure of the first. -/
theorem selectFiles_eq_error_iff (ascending : names.Pairwise (· < ·)) :
    disk.selectFiles full location entries extension names = .error failure ↔
      ∃ name ∈ names, disk.visit full location entries name = .error failure ∧
        ∀ earlier ∈ names, earlier < name →
          ∀ other, disk.visit full location entries earlier ≠ .error other := by
  induction names with
  | nil => exact ⟨nofun, nofun⟩
  | cons name rest inductionHypothesis =>
    obtain ⟨least, restAscending⟩ := List.pairwise_cons.mp ascending
    cases visited : disk.visit full location entries name with
    | error cause =>
      rw [selectFiles_cons_of_error visited, Except.error.injEq]
      constructor
      · rintro rfl
        refine ⟨name, List.mem_cons_self, visited, fun earlier member below => ?_⟩
        rcases List.mem_cons.mp member with rfl | inRest
        · exact absurd below (List.lt_irrefl _)
        · exact absurd below (List.lt_asymm (least earlier inRest))
      · rintro ⟨failing, member, failed, first⟩
        rcases List.mem_cons.mp member with rfl | inRest
        · exact Except.error.inj (visited.symm.trans failed)
        · exact absurd visited (first name List.mem_cons_self (least failing inRest) cause)
    | ok isFile =>
      rw [selectFiles_cons_of_ok visited, inductionHypothesis restAscending]
      constructor
      · rintro ⟨failing, member, failed, first⟩
        refine ⟨failing, List.mem_cons_of_mem _ member, failed, ?_⟩
        refine List.forall_mem_cons.mpr ⟨fun _ other unvisited => ?_, first⟩
        cases visited.symm.trans unvisited
      · rintro ⟨failing, member, failed, first⟩
        rcases List.mem_cons.mp member with rfl | inRest
        · cases visited.symm.trans failed
        · exact ⟨failing, inRest, failed, fun earlier inRest =>
            first earlier (List.mem_cons_of_mem _ inRest)⟩

theorem isDirectory_eq_true_iff :
    disk.isDirectory path = true ↔
      ∃ location entries, disk.find path = .ok (location, .directory entries) := by
  rw [isDirectory]
  cases disk.find path with
  | error fault => simp
  | ok found =>
    obtain ⟨location, node⟩ := found
    cases node <;> simp [Node.isDirectory]

/-- Where the path leads to a directory, a listing fails as its first entry that cannot be visited
does. -/
theorem listFiles_of_find_eq_error_iff
    (found : disk.find (root.join directory) = .ok (location, .directory entries)) :
    (disk.listFiles root directory extension).result = .error failure ↔
      disk.selectFiles (root.join directory) location entries extension (Listing.names entries) =
        .error failure := by
  rw [listFiles, found]
  dsimp only
  cases disk.selectFiles (root.join directory) location entries extension
      (Listing.names entries) with
  | error cause =>
    show Except.error cause = _ ↔ _
    rw [Except.error.injEq, Except.error.injEq]
  | ok selected =>
    constructor <;>
      · intro impossible
        cases impossible

/-- A listing fails where there is no directory, or as its first entry that cannot be visited does,
and the extension makes no difference to that. -/
theorem listFiles_eq_error_iff :
    (disk.listFiles root directory extension).result = .error failure ↔
      ListingFails disk root directory failure := by
  by_cases there : disk.isDirectory (root.join directory) = true
  · obtain ⟨location, entries, found⟩ := isDirectory_eq_true_iff.mp there
    rw [listFiles_of_find_eq_error_iff found,
      selectFiles_eq_error_iff (Listing.pairwise_names entries)]
    simp only [visit_eq_error_iff found, ne_eq]
    constructor
    · rintro ⟨name, -, fails, first⟩
      refine .entry found fails fun earlier below other unvisited => ?_
      exact first earlier unvisited.mem_names below other unvisited
    · rintro (absent | ⟨foundAgain, fails, first⟩)
      · cases there.symm.trans absent
      · obtain ⟨rfl, same⟩ := Prod.mk.inj (Except.ok.inj (found.symm.trans foundAgain))
        obtain rfl := Node.directory.inj same
        exact ⟨_, fails.mem_names, fails, fun earlier _ => first earlier⟩
  · have absent := Bool.eq_false_iff.mpr there
    rw [listFiles_of_no_directory fun location entries found =>
      there (isDirectory_eq_true_iff.mpr ⟨location, entries, found⟩)]
    constructor
    · intro failed
      obtain rfl : Failure.missingInput directory = failure := Except.error.inj failed
      exact .directory absent
    · rintro (_ | ⟨found, -⟩)
      · rfl
      · exact absurd (isDirectory_eq_true_iff.mpr ⟨_, _, found⟩) there

/-! ### Writing and comparing -/

/-- The failures of writing an artifact below the root: the directory that it would lie in cannot
be made, or the file cannot be written. -/
inductive WritingFails (disk : Disk) (root : Path) (artifact : Artifact) : Failure → Prop where
  | parent {parent : Path} {fault : Fault}
      (lies : (root.join artifact.path).parent? = some parent)
      (failed : (disk.makeDirectories parent.ancestors).1 = .error fault) :
      WritingFails disk root artifact (.io parent (.fault fault))
  | file {made : Disk} {fault : Fault}
      (parents : disk.makeParent (root.join artifact.path) = (.ok (), made))
      (failed : made.writeBytes (root.join artifact.path) (Text.toBytes artifact.contents) =
        .error fault) :
      WritingFails disk root artifact (.io artifact.path (.fault fault))

/-- The failures of comparing an artifact with what is there below the root. -/
inductive ComparingFails (disk : Disk) (root : Path) (artifact : Artifact) : Failure → Prop where
  | file {fault : Fault} (other : fault ≠ .notFound)
      (failed : disk.readBytes (root.join artifact.path) = .error fault) :
      ComparingFails disk root artifact (.io artifact.path (.fault fault))

theorem makeParent_fst_eq_error_iff :
    (disk.makeParent path).1 = .error failure ↔
      ∃ parent fault, path.parent? = some parent ∧
        (disk.makeDirectories parent.ancestors).1 = .error fault ∧
          failure = .io parent (.fault fault) := by
  rw [makeParent]
  cases path.parent? with
  | none => simp
  | some parent =>
    dsimp only
    cases made : disk.makeDirectories parent.ancestors with
    | mk outcome next => cases outcome <;> simp [made, eq_comm]

theorem write_fst_eq_error_iff :
    (disk.write root artifact).1 = .error failure ↔ WritingFails disk root artifact failure := by
  constructor
  · intro failed
    rw [write] at failed
    split at failed
    · rename_i cause made parents
      obtain ⟨parent, fault, lies, unmade, rfl⟩ :=
        makeParent_fst_eq_error_iff.mp (congrArg Prod.fst parents)
      obtain rfl := Except.error.inj failed
      exact .parent lies unmade
    · rename_i made parents
      split at failed
      · cases failed
      · rename_i fault unwritten
        obtain rfl := Except.error.inj failed
        exact .file parents unwritten
  · rintro (⟨lies, unmade⟩ | ⟨parents, unwritten⟩)
    · have stopped := makeParent_fst_eq_error_iff.mpr ⟨_, _, lies, unmade, rfl⟩
      rw [write]
      cases parents : disk.makeParent (root.join artifact.path) with
      | mk outcome made =>
        rw [parents] at stopped
        obtain rfl := stopped
        rfl
    · simp only [write, parents, unwritten]

theorem isCurrent_eq_error_iff :
    disk.isCurrent root artifact = .error failure ↔ ComparingFails disk root artifact failure := by
  constructor
  · intro failed
    rw [isCurrent] at failed
    split at failed
    · cases failed
    · cases failed
    · rename_i fault other read
      obtain rfl := Except.error.inj failed
      exact .file other read
  · rintro ⟨other, failed⟩
    simp only [isCurrent, failed]

theorem isCurrent_of_not_found (lost : disk.find (root.join artifact.path) = .error .notFound) :
    disk.isCurrent root artifact = .ok false := by
  rw [isCurrent, readBytes_eq_notFound_iff.mpr lost]

end Prebuild.Disk
