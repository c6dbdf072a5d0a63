/-
This file says what a listing of a directory comes to on a disk that holds no links:
the names of its files with the extension, in ascending order. As such a list is
determined by its members, a listing is the same on a disk that has grown, unless a
file was written directly in the directory under a name with the extension.
-/

import Mathlib.Data.List.Sort
import Mathlib.Data.Set.List
import Prebuild.Disk.Source
import Prebuild.Proofs.Disk.Growth

namespace Prebuild

/-! ### Names of a directory -/

namespace Listing

theorem mem_insertName {name other : Name} {names : List Name} :
    other ∈ insertName name names ↔ other = name ∨ other ∈ names := by
  induction names with
  | nil => exact List.mem_cons
  | cons first rest inductionHypothesis =>
    rw [insertName]
    split
    · exact List.mem_cons
    · split
      · rename_i same
        rw [same, List.mem_cons, or_self_left]
      · rw [List.mem_cons, inductionHypothesis, List.mem_cons, or_left_comm]

/-- Adding a name to strictly ascending names leaves them strictly ascending. -/
theorem pairwise_insertName {name : Name} {names : List Name}
    (ascending : names.Pairwise (· < ·)) : (insertName name names).Pairwise (· < ·) := by
  induction names with
  | nil => exact List.pairwise_singleton _ name
  | cons first rest inductionHypothesis =>
    obtain ⟨least, restAscending⟩ := List.pairwise_cons.mp ascending
    rw [insertName]
    split
    · rename_i below
      refine List.pairwise_cons.mpr ⟨fun other member => ?_, ascending⟩
      rcases List.mem_cons.mp member with rfl | inRest
      · exact below
      · exact List.lt_trans below (least other inRest)
    · split
      · exact ascending
      · rename_i notBelow different
        have above : first < name := by
          by_contra notAbove
          exact different (Std.Trichotomous.trichotomous name first notBelow notAbove)
        refine List.pairwise_cons.mpr ⟨fun other member => ?_, inductionHypothesis restAscending⟩
        rcases mem_insertName.mp member with rfl | inRest
        · exact above
        · exact least other inRest

theorem mem_names {entries : Listing} {name : Name} :
    name ∈ names entries ↔ ∃ node, get? entries name = some node := by
  induction entries with
  | nil =>
    constructor
    · intro impossible
      cases impossible
    · rintro ⟨node, impossible⟩
      cases impossible
  | cons entry entries inductionHypothesis =>
    rw [names, List.foldr_cons, mem_insertName, ← names, inductionHypothesis, get?_cons]
    by_cases same : entry.1 = name
    · rw [if_pos same]
      exact ⟨fun _ => ⟨_, rfl⟩, fun _ => .inl same.symm⟩
    · rw [if_neg same]
      exact or_iff_right fun equal => same equal.symm

theorem pairwise_names (entries : Listing) : (names entries).Pairwise (· < ·) := by
  induction entries with
  | nil => exact List.Pairwise.nil
  | cons entry entries inductionHypothesis => exact pairwise_insertName inductionHypothesis

/-- Whether a directory has a file with a name. -/
def hasFile (entries : Listing) (name : Name) : Bool :=
  match get? entries name with
  | some (.file _) => true
  | _ => false

theorem hasFile_eq_true_iff {entries : Listing} {name : Name} :
    hasFile entries name = true ↔ ∃ bytes, get? entries name = some (.file bytes) := by
  rw [hasFile]
  constructor
  · intro isFile
    split at isFile
    · rename_i bytes found
      exact ⟨bytes, found⟩
    · cases isFile
  · rintro ⟨bytes, found⟩
    rw [found]

/-- The names of the files of a directory with an extension. -/
def fileNames (entries : Listing) (extension : Text) : List Name :=
  (names entries).filter fun name => hasFile entries name && Path.nameHasExtension extension name

theorem mem_fileNames {entries : Listing} {extension : Text} {name : Name} :
    name ∈ fileNames entries extension ↔
      (∃ bytes, get? entries name = some (.file bytes)) ∧
        Path.nameHasExtension extension name = true := by
  rw [fileNames, List.mem_filter, Bool.and_eq_true, hasFile_eq_true_iff, mem_names]
  exact ⟨fun both => both.2, fun both => ⟨⟨_, both.1.choose_spec⟩, both⟩⟩

/-- Two directories with the same files among the names with an extension have the same list of
these names. -/
theorem fileNames_eq {first second : Listing} {extension : Text}
    (same : ∀ name bytes, Path.nameHasExtension extension name = true →
      (get? second name = some (.file bytes) ↔ get? first name = some (.file bytes))) :
    fileNames second extension = fileNames first extension := by
  refine ((pairwise_names second).filter _).eq_of_mem_iff ((pairwise_names first).filter _)
    fun name => mem_fileNames.trans (Iff.trans ?_ mem_fileNames.symm)
  exact and_congr_left fun extended => exists_congr fun bytes => same name bytes extended

end Listing

/-! ### Listings -/

namespace Disk

variable {before after disk : Disk} {root directory : Path} {extension : Text}

/-- Where there are no links, all names can be visited, and the files are selected. -/
theorem selectFiles_eq {full : Path} {location : Location} {entries : Listing}
    (plain : disk.IsPlain) (here : disk.get? location = some (.directory entries))
    (names : List Name) :
    disk.selectFiles full location entries extension names =
      .ok (names.filter fun name =>
        Listing.hasFile entries name && Path.nameHasExtension extension name) := by
  induction names with
  | nil => rfl
  | cons name rest inductionHypothesis =>
    have visited : disk.visit full location entries name = .ok (Listing.hasFile entries name) := by
      rw [visit, Listing.hasFile]
      have child := get?_append_singleton here name
      cases found : Listing.get? entries name with
      | none => rfl
      | some node =>
        cases node with
        | file bytes => rfl
        | directory below => rfl
        | link target => exact absurd (child.trans found) (look_of_noLink plain)
    rw [selectFiles, visited, inductionHypothesis, List.filter_cons]
    show Except.ok _ = Except.ok _
    rfl

/-- Where there are no links, the listing of a directory gives the names of its files with the
extension, in ascending order. -/
theorem listFiles_eq {location : Location} {entries : Listing} (plain : disk.IsPlain)
    (found : disk.find (root.join directory) = .ok (location, .directory entries)) :
    disk.listFiles root directory extension =
      ⟨[.listed directory (Listing.fileNames entries extension).length extension],
        .ok ((Listing.fileNames entries extension).map fun name => directory.join ⟨name⟩)⟩ := by
  have here := ((find_eq_ok_iff plain).mp found).2.2.1
  rw [listFiles, found]
  dsimp only
  rw [selectFiles_eq plain here]
  rfl

/-- Only a directory is listed. -/
theorem listFiles_ok_cases {paths : List Path}
    (success : (disk.listFiles root directory extension).result = .ok paths) :
    ∃ location entries, disk.find (root.join directory) = .ok (location, .directory entries) := by
  rw [listFiles] at success
  split at success
  · rename_i location entries found
    exact ⟨location, entries, found⟩
  · cases success

/-- Among the names of a directory only names with the extension are selected. -/
theorem selectFiles_ok_cases {full : Path} {location : Location} {entries : Listing}
    {names selected : List Name}
    (success : disk.selectFiles full location entries extension names = .ok selected) :
    selected.Sublist names ∧
      ∀ name ∈ selected, Path.nameHasExtension extension name = true := by
  induction names generalizing selected with
  | nil =>
    obtain rfl := Except.ok.inj success
    exact ⟨List.Sublist.refl _, nofun⟩
  | cons name rest inductionHypothesis =>
    rw [selectFiles] at success
    cases visited : disk.visit full location entries name with
    | error failure =>
      rw [visited] at success
      cases success
    | ok isFile =>
      cases further : disk.selectFiles full location entries extension rest with
      | error failure =>
        rw [visited, further] at success
        cases success
      | ok others =>
        obtain ⟨within, extended⟩ := inductionHypothesis further
        rw [visited, further] at success
        obtain rfl := Except.ok.inj success
        split
        · rename_i chosen
          exact ⟨within.cons_cons name, List.forall_mem_cons.mpr
            ⟨(Bool.and_eq_true_iff.mp chosen).2, extended⟩⟩
        · exact ⟨within.cons name, extended⟩

/-- A listing gives names of a directory with the extension, in ascending order. -/
theorem listFiles_ok_names {paths : List Path}
    (success : (disk.listFiles root directory extension).result = .ok paths) :
    ∃ (location : Location) (entries : Listing) (names : List Name),
      disk.find (root.join directory) = .ok (location, .directory entries) ∧
        paths = names.map (fun name => directory.join ⟨name⟩) ∧
          names.Pairwise (· < ·) ∧ ∀ name ∈ names, name ∈ Listing.names entries ∧
            Path.nameHasExtension extension name = true := by
  obtain ⟨location, entries, found⟩ := listFiles_ok_cases success
  rw [listFiles, found] at success
  dsimp only at success
  cases selection : disk.selectFiles (root.join directory) location entries extension
      (Listing.names entries) with
  | error failure =>
    rw [selection] at success
    cases success
  | ok names =>
    rw [selection] at success
    obtain ⟨within, extended⟩ := selectFiles_ok_cases selection
    exact ⟨location, entries, names, found, (Except.ok.inj success).symm,
      (Listing.pairwise_names entries).sublist within,
      fun name member => ⟨within.subset member, extended name member⟩⟩

/-- Names with an extension are stems, each with a full stop and the extension after it. -/
theorem exists_stems {names : List Name}
    (extended : ∀ name ∈ names, Path.nameHasExtension extension name = true) :
    ∃ stems : List Text, names = stems.map fun stem => Text.bytes (stem ++ '.' :: extension) := by
  have within : names ∈
      Set.range (List.map fun stem : Text => Text.bytes (stem ++ '.' :: extension)) := by
    rw [Set.range_list_map]
    intro name member
    obtain ⟨stem, rfl⟩ := Path.nameHasExtension_iff.mp (extended name member)
    exact ⟨stem, rfl⟩
  obtain ⟨stems, same⟩ := within
  exact ⟨stems, same.symm⟩

/-- If the entries of a directory have proper names, a listing of it gives files under proper names
with the extension, all different. -/
theorem exists_stems_of_listFiles
    (named : ∀ location entries,
      disk.find (root.join directory) = .ok (location, .directory entries) →
        ∀ name ∈ Listing.names entries, Path.IsName name)
    {paths : List Path} (success : (disk.listFiles root directory extension).result = .ok paths) :
    ∃ stems : List Text,
      paths = stems.map (fun stem => directory.join (.ofText (stem ++ '.' :: extension))) ∧
      stems.Nodup ∧ ∀ stem ∈ stems, Path.IsName (Text.bytes (stem ++ '.' :: extension)) := by
  obtain ⟨location, entries, names, found, rfl, ascending, extended⟩ := listFiles_ok_names success
  obtain ⟨stems, rfl⟩ := exists_stems fun name member => (extended name member).2
  refine ⟨stems, ?_, ?_, fun stem member => ?_⟩
  · rw [List.map_map]
    rfl
  · refine List.Nodup.of_map _ (ascending.imp fun below same => ?_)
    exact List.lt_irrefl _ (same ▸ below)
  · exact named location entries found _ (extended _ (List.mem_map_of_mem member)).1

/-- A listing stays the same if no file is written directly in the directory under a name with
the extension. -/
theorem listFiles_of_grows {written : Location → Prop} (growth : Grows written before after)
    (plain : before.IsPlain) {paths : List Path}
    (apart : ∀ location name, before.Denotes (root.join directory) location →
      Path.nameHasExtension extension name = true → ¬written (location ++ [name]))
    (success : (before.listFiles root directory extension).result = .ok paths) :
    after.listFiles root directory extension = before.listFiles root directory extension := by
  obtain ⟨location, entries, found⟩ := listFiles_ok_cases success
  obtain ⟨others, foundAfter⟩ := growth.find_directory plain found
  have plainAfter := growth.isPlain plain
  have here := ((find_eq_ok_iff plain).mp found).2.2.1
  have hereAfter := ((find_eq_ok_iff plainAfter).mp foundAfter).2.2.1
  have same : Listing.fileNames others extension = Listing.fileNames entries extension := by
    refine Listing.fileNames_eq fun name bytes extended => ?_
    rw [← get?_append_singleton hereAfter, ← get?_append_singleton here,
      ← look_eq_file_iff, ← look_eq_file_iff]
    exact growth.files _ bytes (apart location name ⟨_, found⟩ extended)
  rw [listFiles_eq plainAfter foundAfter, listFiles_eq plain found, same]

end Disk

end Prebuild
