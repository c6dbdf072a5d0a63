/-
This file proves that a generator depends on no more of a source tree than what it
lists and reads there: where it succeeds, it gives the same on any other tree in
which those listings and those files are the same.

What a generator reads may depend on what it has listed. Work that fails says
nothing about the work that would have followed it, so only the listings and the
files that were there are compared.
-/

import Prebuild.Generator
import Prebuild.Proofs.Outcome

namespace Prebuild

/-! ### Agreement -/

namespace Generator

/-- The files that a generator finds in the directories that it lists. -/
def listed (settings : Settings) (source : Source) (generator : Generator) : List Path :=
  (generator.listings settings).flatMap fun listing =>
    match (source.list listing.1 listing.2).result with
    | .ok paths => paths
    | .error _ => []

/-- The files that a generator reads in a source tree. -/
def reads (settings : Settings) (source : Source) (generator : Generator) : List Path :=
  generator.inputs settings (generator.listed settings source)

/-- A source tree has what a generator finds in another: the same listings, and the same files
of those that it reads. -/
structure Agrees (settings : Settings) (generator : Generator) (first second : Source) : Prop where
  list : ∀ listing ∈ generator.listings settings, ∀ paths,
    (first.list listing.1 listing.2).result = .ok paths →
      second.list listing.1 listing.2 = first.list listing.1 listing.2
  read : ∀ path ∈ generator.reads settings first, ∀ text, first.read path = .ok text →
    second.read path = .ok text

variable {settings : Settings} {first second : Source} {artifacts : List Artifact}

/-- A file that has been listed is among the listed files. -/
theorem mem_listed {generator : Generator} {listing : Path × Text} {paths : List Path}
    {path : Path} (asked : listing ∈ generator.listings settings)
    (success : (first.list listing.1 listing.2).result = .ok paths) (member : path ∈ paths) :
    path ∈ generator.listed settings first := by
  refine List.mem_flatMap.mpr ⟨listing, asked, ?_⟩
  rw [success]
  exact member

/-- Reading that succeeds comes to the same where the file is the same. -/
theorem bind_read_congr {Result : Type} {path : Path} {next : Text → Outcome Result}
    {result : Result}
    (same : ∀ text, first.read path = .ok text → second.read path = .ok text)
    (success : (Outcome.ofExcept (first.read path) >>= next).result = .ok result) :
    Outcome.ofExcept (second.read path) >>= next = Outcome.ofExcept (first.read path) >>= next := by
  refine Outcome.bind_congr_of_ok success (fun text read => ?_) fun _ _ _ => rfl
  rw [same text read, show first.read path = .ok text from read]

theorem boardFragments_generate_eq (agrees : Agrees settings .boardFragments first second)
    (success : (BoardFragment.generate settings.hardware first).result = .ok artifacts) :
    BoardFragment.generate settings.hardware second =
      BoardFragment.generate settings.hardware first := by
  have asked := List.mem_singleton.mpr
    (rfl : (settings.hardware.inputDirectory, settings.hardware.inputExtension) = _)
  refine Outcome.bind_congr_of_ok success (agrees.list _ asked) fun headers listed further => ?_
  refine Outcome.collect_congr_of_ok further fun header member fragments succeeded => ?_
  have same := agrees.read header (mem_listed asked listed member)
  rw [BoardFragment.ofHeader] at succeeded ⊢
  rw [BoardFragment.ofHeader]
  split at succeeded
  · rfl
  · exact bind_read_congr same succeeded

theorem shellCommands_generate_eq (agrees : Agrees settings .shellCommands first second)
    (success : (ShellHeader.generate settings.shell settings.malformed first).result =
      .ok artifacts) :
    ShellHeader.generate settings.shell settings.malformed second =
      ShellHeader.generate settings.shell settings.malformed first := by
  refine Outcome.bind_congr_of_ok success (fun text collected => ?_) fun _ _ _ => rfl
  refine Outcome.collect_congr_of_ok collected fun directory inRoots header succeeded => ?_
  have asked : (directory, settings.shell.sourceExtension) ∈
      Generator.shellCommands.listings settings := List.mem_map_of_mem inRoots
  refine Outcome.bind_congr_of_ok succeeded (agrees.list _ asked) fun files listed further => ?_
  refine Outcome.collect_congr_of_ok further fun file member text scanned => ?_
  exact bind_read_congr (agrees.read file (mem_listed asked listed member)) scanned

theorem applications_generate_eq (agrees : Agrees settings .applications first second)
    (success : (ApplicationHeader.generate settings.applications first).result = .ok artifacts) :
    ApplicationHeader.generate settings.applications second =
      ApplicationHeader.generate settings.applications first :=
  Outcome.bind_congr_of_ok success (agrees.list _ (List.mem_singleton.mpr rfl)) fun _ _ _ => rfl

theorem registerIdentifiers_generate_eq
    (agrees : Agrees settings .registerIdentifiers first second)
    (success : (RegisterHeader.generate settings.registers settings.registerPolicy first).result =
      .ok artifacts) :
    RegisterHeader.generate settings.registers settings.registerPolicy second =
      RegisterHeader.generate settings.registers settings.registerPolicy first :=
  bind_read_congr (agrees.read _ (List.mem_singleton.mpr rfl)) success

/-- A generator that succeeds on a source tree gives the same, with the same notes, on any other
that has what it finds there. -/
theorem generate_eq_of_agrees {generator : Generator}
    (agrees : Agrees settings generator first second)
    (success : (generator.generate settings first).result = .ok artifacts) :
    generator.generate settings second = generator.generate settings first := by
  cases generator with
  | boardFragments => exact boardFragments_generate_eq agrees success
  | shellCommands => exact shellCommands_generate_eq agrees success
  | applications => exact applications_generate_eq agrees success
  | registerIdentifiers => exact registerIdentifiers_generate_eq agrees success

end Generator

end Prebuild
