/-
This file proves that every application is registered once, and by the name of its file alone.

Whether a name has the extension is decided twice, once when a directory is listed and once when
the extension is taken off, by two rules that are put differently: one looks for a full stop
before the extension, the other takes off the full stop and the extension together. They accept
the same names, whatever the extension is, so no application that has been listed is left out of
the header. A file is never read for this, so the header is the same for any two source trees
whose listings are the same.
-/

import Prebuild.ApplicationHeader
import Prebuild.Proofs.Disk.Enumeration

namespace Prebuild

/-- The two rules on extensions accept the same names. -/
theorem Path.nameHasExtension_eq_isSome (extension : Text) (name : Name) :
    nameHasExtension extension name =
      (name.text?.bind (Text.beforeEnd? ('.' :: extension))).isSome := by
  rw [Bool.eq_iff_iff, nameHasExtension_iff, Option.isSome_iff_exists]
  simp only [Option.bind_eq_some_iff, Bytes.text?_eq_some_iff, Text.beforeEnd?_eq_some_iff]
  exact exists_congr fun start => by simp

namespace ApplicationHeader

variable {settings : ApplicationSettings} {file : Path} {stem : Text}

/-! ### Names of applications -/

/-- A file holds an application if its name is that of the application, a full stop and the
extension. -/
theorem stem?_eq_some_iff :
    stem? settings file = some stem ↔
      file.fileName? = some (Text.bytes (stem ++ '.' :: settings.sourceExtension)) := by
  rw [stem?, Option.bind_eq_some_iff]
  simp only [Path.nameText?_eq_some_iff, Text.beforeEnd?_eq_some_iff, exists_eq_right]

theorem ofFile_eq_nil_iff : ofFile settings file = [] ↔ stem? settings file = none := by
  rw [ofFile]
  cases stem? settings file with
  | none => simp
  | some stem => simp [registration, Text.endLine]

/-- The header for applications in order, one line for each: the macro, called with the name in
upper case. -/
def header (settings : ApplicationSettings) (stems : List Text) : Text :=
  Text.ofLines (stems.map fun stem =>
    settings.macroName ++ '(' :: Text.upperCase stem ++ [')'])

theorem flatMap_ofFile (files : List Path) :
    files.flatMap (ofFile settings) = header settings (files.filterMap (stem? settings)) := by
  induction files with
  | nil => rfl
  | cons file rest inductionHypothesis =>
    rw [List.flatMap_cons, inductionHypothesis, ofFile]
    cases found : stem? settings file with
    | none =>
      rw [List.filterMap_cons_none found]
      rfl
    | some stem =>
      rw [List.filterMap_cons_some found]
      rfl

/-- The generator does nothing but list a directory, and its artifact is determined by the paths
that are listed. -/
theorem generate_eq (settings : ApplicationSettings) (source : Source) :
    let listing := source.list settings.inputDirectory settings.sourceExtension
    generate settings source =
      ⟨listing.notes, listing.result.map fun files =>
        [⟨settings.output, header settings (files.filterMap (stem? settings))⟩]⟩ := by
  rw [generate]
  cases source.list settings.inputDirectory settings.sourceExtension with
  | mk notes result =>
    cases result with
    | error failure => rfl
    | ok files => simp [flatMap_ofFile, Except.map]

/-! ### Listed files -/

/-- Of files under such names, if they are proper names, none is left out. -/
theorem filterMap_stem?_join (directory : Path) {stems : List Text}
    (named : ∀ stem ∈ stems, Path.IsName (Text.bytes (stem ++ '.' :: settings.sourceExtension))) :
    (stems.map fun stem =>
      directory.join (.ofText (stem ++ '.' :: settings.sourceExtension))).filterMap
        (stem? settings) = stems := by
  have each : ∀ stem ∈ stems,
      stem? settings (directory.join (.ofText (stem ++ '.' :: settings.sourceExtension))) =
        some stem :=
    fun stem member => stem?_eq_some_iff.mpr (Path.fileName?_join directory (named stem member))
  rw [List.filterMap_map]
  exact (List.filterMap_congr each).trans List.filterMap_some

/-- Files that are listed on a disk, under proper names, are all registered. -/
theorem generate_of_listFiles {disk : Disk} {root : Path}
    (named : ∀ location entries,
      disk.find (root.join settings.inputDirectory) = .ok (location, .directory entries) →
        ∀ name ∈ Listing.names entries, Path.IsName name)
    {files : List Path}
    (listed : (disk.listFiles root settings.inputDirectory settings.sourceExtension).result =
      .ok files) :
    ∃ stems : List Text, stems.Nodup ∧
      files = stems.map (fun stem =>
        settings.inputDirectory.join (.ofText (stem ++ '.' :: settings.sourceExtension))) ∧
      (generate settings (disk.source root)).result =
        .ok [⟨settings.output, header settings stems⟩] := by
  obtain ⟨stems, rfl, different, proper⟩ := Disk.exists_stems_of_listFiles named listed
  refine ⟨stems, different, rfl, ?_⟩
  rw [generate_eq]
  show (disk.listFiles root settings.inputDirectory settings.sourceExtension).result.map _ = _
  rw [listed, Except.map]
  exact congrArg (fun stems => Except.ok [Artifact.mk settings.output (header settings stems)])
    (filterMap_stem?_join settings.inputDirectory proper)

/-- Every application is registered once, by the name of its file. The rules on extensions for a
listing and for the header accept the same names. For any source tree the header is made exactly
if the directory is listed; it has a line for each listed file whose name is a stem, a full stop
and the extension, in the order of the listing, and a file is left out exactly if its name is not
of that form. So it is the same, or the failure is, for any two trees in which the listing of the
directory is, whatever their files hold. On a disk, if the entries of the directory have proper
names, none of the listed files is left out: they are stems with the extension, all different, and
the header has one line for each, in order, with the stem in upper case. -/
theorem applications_registered_once (settings : ApplicationSettings) :
    (∀ (extension : Text) (name : Name), Path.nameHasExtension extension name =
      (name.text?.bind (Text.beforeEnd? ('.' :: extension))).isSome) ∧
    (∀ source : Source,
      let listing := source.list settings.inputDirectory settings.sourceExtension
      generate settings source =
        ⟨listing.notes, listing.result.map fun files =>
          [⟨settings.output, header settings (files.filterMap (stem? settings))⟩]⟩) ∧
    (∀ file, (∀ stem, stem? settings file = some stem ↔
        file.fileName? = some (Text.bytes (stem ++ '.' :: settings.sourceExtension))) ∧
      (ofFile settings file = [] ↔
        ∀ stem, file.fileName? ≠
          some (Text.bytes (stem ++ '.' :: settings.sourceExtension)))) ∧
    (∀ first second : Source,
      (first.list settings.inputDirectory settings.sourceExtension).result =
          (second.list settings.inputDirectory settings.sourceExtension).result →
        (generate settings first).result = (generate settings second).result) ∧
    ∀ (disk : Disk) (root : Path),
      (∀ location entries,
        disk.find (root.join settings.inputDirectory) = .ok (location, .directory entries) →
          ∀ name ∈ Listing.names entries, Path.IsName name) →
      ∀ files,
        (disk.listFiles root settings.inputDirectory settings.sourceExtension).result =
          .ok files →
        ∃ stems : List Text, stems.Nodup ∧
          files = stems.map (fun stem =>
            settings.inputDirectory.join (.ofText (stem ++ '.' :: settings.sourceExtension))) ∧
          (generate settings (disk.source root)).result =
            .ok [⟨settings.output, header settings stems⟩] := by
  refine ⟨Path.nameHasExtension_eq_isSome, generate_eq settings, fun file => ⟨?_, ?_⟩, ?_, ?_⟩
  · exact fun stem => stem?_eq_some_iff
  · rw [ofFile_eq_nil_iff, Option.eq_none_iff_forall_ne_some]
    exact forall_congr' fun stem => not_congr stem?_eq_some_iff
  · intro first second same
    rw [generate_eq, generate_eq]
    exact congrArg (Except.map _) same
  · exact fun disk root named files listed => generate_of_listFiles named listed

/-- In a directory that holds more than applications, those are registered, also the one whose name
is nothing but a full stop and the extension. -/
theorem applications_registered_once_crowded :
    let disk := Disk.crowdedDisk Disk.crowdedEntries
    (disk.listFiles "" "app" "c").result = .ok ["app/.c", "app/alpha.c", "app/zeta.c"] ∧
      (∃ stems : List Text, stems.Nodup ∧ stems.length = 3 ∧
        (generate {} (disk.source "")).result = .ok [⟨"app/apdefs.h", header {} stems⟩]) ∧
      (generate {} (disk.source "")).result =
        .ok [⟨"app/apdefs.h", "APP_DEF()\nAPP_DEF(ALPHA)\nAPP_DEF(ZETA)\n"⟩] := by
  intro disk
  have listed : (disk.listFiles "" "app" "c").result =
      .ok ["app/.c", "app/alpha.c", "app/zeta.c"] := rfl
  have named : ∀ location entries,
      disk.find (Path.join "" "app") = .ok (location, .directory entries) →
        ∀ name ∈ Listing.names entries, Path.IsName name := by
    intro location entries found
    obtain ⟨-, rfl, here, -⟩ := (Disk.find_eq_ok_iff Disk.isPlain_crowdedDisk).mp found
    obtain rfl := Node.directory.inj (Option.some.inj here)
    decide +kernel
  obtain ⟨-, whole, -, -, onDisk⟩ := applications_registered_once {}
  obtain ⟨stems, different, files, made⟩ := onDisk disk "" named _ listed
  have count : stems.length = 3 := by simpa using (congrArg List.length files).symm
  refine ⟨listed, ⟨stems, different, count, made⟩, ?_⟩
  rw [whole]
  decide +kernel

end ApplicationHeader

end Prebuild
