/-
This file proves that a missing input is always an input.

Reading and listing call an input missing if the file system does not find it; writing and
comparing never do, also where something is not found. A generator fails because a directory that
it lists or a file that it reads fails it, or at a malformed call. So in a run, whatever it does
with artifacts, a missing input is one that a generator asks for, on the disk that its turn begins
with. A command can miss its configuration file in addition.
-/

import Prebuild.Proofs.Agreement
import Prebuild.Proofs.Disk.Failures
import Prebuild.Proofs.Run.Halted
import Prebuild.Proofs.ShellFile

namespace Prebuild

/-! ### What a generator fails with -/

/-- A failure is that of a malformed call. -/
def Failure.IsMalformed : Failure → Prop
  | .malformed .. => True
  | _ => False

/-- Lines that have been read fail at malformed calls only. -/
theorem Transcript.isMalformed_of_failure {policy : Policy} {macroName : Text} {path : Path}
    {number : Nat} {readings : List (Text × Reading)} {failure : Failure}
    (failed : (ofReadings policy macroName path number readings).failure = some failure) :
    failure.IsMalformed := by
  induction readings generalizing number with
  | nil => cases failed
  | cons pair rest inductionHypothesis =>
    obtain ⟨line, reading⟩ := pair
    cases reading with
    | written text => exact inductionHypothesis failed
    | nothing => exact inductionHypothesis failed
    | malformed =>
      cases policy with
      | warn => exact inductionHypothesis failed
      | abort =>
        obtain rfl := Option.some.inj failed
        exact trivial

/-- A source file is scanned to the end, or up to a malformed call. -/
theorem ShellHeader.isMalformed_of_scan {settings : ShellSettings} {policy : Policy} {path : Path}
    {content : Text} {failure : Failure}
    (failed : (scan settings policy path content).outcome.result = .error failure) :
    failure.IsMalformed := by
  have stopped := Transcript.outcome_result_eq_error_iff.mp failed
  cases ending : (body settings policy path content).failure with
  | none =>
    rw [scan_of_failure_eq_none ending] at stopped
    cases stopped
  | some cause =>
    rw [scan_of_failure_eq_some ending] at stopped
    obtain rfl := Option.some.inj stopped
    exact Transcript.isMalformed_of_failure ending

namespace Generator

variable {settings : Settings} {source : Source} {generator : Generator} {failure : Failure}

/-- The failures that a generator can meet in a source tree: those of the directories that it lists
and of the files that it reads, and malformed calls. -/
inductive Meets (settings : Settings) (source : Source) (generator : Generator) : Failure → Prop
  where
  | list {directory : Path} {extension : Text} {failure : Failure}
      (asked : (directory, extension) ∈ generator.listings settings)
      (failed : (source.list directory extension).result = .error failure) :
      Meets settings source generator failure
  | read {path : Path} {failure : Failure} (asked : path ∈ generator.reads settings source)
      (failed : source.read path = .error failure) : Meets settings source generator failure
  | malformed {failure : Failure} (malformed : failure.IsMalformed) :
      Meets settings source generator failure

theorem boardFragments_meets
    (failed : (BoardFragment.generate settings.hardware source).result = .error failure) :
    Meets settings source .boardFragments failure := by
  have asked := List.mem_singleton.mpr
    (rfl : (settings.hardware.inputDirectory, settings.hardware.inputExtension) = _)
  rcases Outcome.bind_error_cases failed with unlisted | ⟨headers, listed, further⟩
  · exact .list asked unlisted
  · obtain ⟨header, member, failing⟩ := Outcome.collect_error_cases further
    rw [BoardFragment.ofHeader] at failing
    split at failing
    · cases failing
    · rcases Outcome.bind_error_cases failing with unread | ⟨content, -, impossible⟩
      · exact .read (mem_listed asked listed member) unread
      · cases impossible

theorem shellCommands_meets
    (failed : (ShellHeader.generate settings.shell settings.malformed source).result =
      .error failure) : Meets settings source .shellCommands failure := by
  rcases Outcome.bind_error_cases failed with uncollected | ⟨text, -, impossible⟩
  · obtain ⟨directory, inRoots, failing⟩ := Outcome.collect_error_cases uncollected
    have asked : (directory, settings.shell.sourceExtension) ∈
        Generator.shellCommands.listings settings := List.mem_map_of_mem inRoots
    rcases Outcome.bind_error_cases failing with unlisted | ⟨files, listed, further⟩
    · exact .list asked unlisted
    · obtain ⟨file, member, stopped⟩ := Outcome.collect_error_cases further
      rcases Outcome.bind_error_cases stopped with unread | ⟨content, -, unscanned⟩
      · exact .read (mem_listed asked listed member) unread
      · exact .malformed (ShellHeader.isMalformed_of_scan unscanned)
  · cases impossible

theorem applications_meets
    (failed : (ApplicationHeader.generate settings.applications source).result = .error failure) :
    Meets settings source .applications failure := by
  rcases Outcome.bind_error_cases failed with unlisted | ⟨files, -, impossible⟩
  · exact .list (List.mem_singleton.mpr rfl) unlisted
  · cases impossible

theorem registerIdentifiers_meets
    (failed : (RegisterHeader.generate settings.registers settings.registerPolicy source).result =
      .error failure) : Meets settings source .registerIdentifiers failure := by
  rcases Outcome.bind_error_cases failed with unread | ⟨table, -, further⟩
  · exact .read (List.mem_singleton.mpr rfl) unread
  · rcases Outcome.bind_error_cases further with unscanned | ⟨header, -, impossible⟩
    · exact .malformed (Transcript.isMalformed_of_failure
        (Transcript.outcome_result_eq_error_iff.mp unscanned))
    · cases impossible

/-- A generator that gives no artifacts fails with what it meets. -/
theorem meets_of_generate (failed : (generator.generate settings source).result = .error failure) :
    Meets settings source generator failure := by
  cases generator with
  | boardFragments => exact boardFragments_meets failed
  | shellCommands => exact shellCommands_meets failed
  | applications => exact applications_meets failed
  | registerIdentifiers => exact registerIdentifiers_meets failed

end Generator

/-! ### What a run misses -/

/-- A disk lacks an input that a generator asks for, which is known under a path. Either a
directory that the generator lists is none, or among the entries of one the first that cannot be
visited is a link that leads nowhere, or a file that the generator reads is not there. -/
inductive Disk.Lacks (disk : Disk) (root : Path) (settings : Settings) (generator : Generator) :
    Path → Prop where
  | directory {directory : Path} {extension : Text}
      (asked : (directory, extension) ∈ generator.listings settings)
      (absent : disk.isDirectory (root.join directory) = false) :
      Lacks disk root settings generator directory
  | entry {directory : Path} {extension : Text} {location : Location} {entries : Listing}
      {name : Name} {target : Path}
      (asked : (directory, extension) ∈ generator.listings settings)
      (found : disk.find (root.join directory) = .ok (location, .directory entries))
      (link : Listing.get? entries name = some (.link target))
      (lost : disk.find ((root.join directory).join ⟨name⟩) = .error .notFound)
      (first : ∀ earlier, earlier < name →
        ∀ other, ¬ VisitingFails disk (root.join directory) location entries earlier other) :
      Lacks disk root settings generator ((root.join directory).join ⟨name⟩)
  | file {path : Path} (asked : path ∈ generator.reads settings (disk.source root))
      (lost : disk.find (root.join path) = .error .notFound) :
      Lacks disk root settings generator path

theorem Disk.lacks_of_generate {disk : Disk} {root missing : Path} {settings : Settings}
    {generator : Generator}
    (failed : (generator.generate settings (disk.source root)).result =
      .error (.missingInput missing)) : disk.Lacks root settings generator missing := by
  rcases Generator.meets_of_generate failed with ⟨asked, unlisted⟩ | ⟨asked, unread⟩ | impossible
  · rcases listFiles_eq_error_iff.mp unlisted with absent | ⟨found, fails, first⟩
    · exact .directory asked absent
    · cases fails with
      | missing link lost => exact .entry asked found link lost first
  · obtain ⟨fault, failed, reason⟩ := source_read_eq_error_iff.mp unread
    obtain ⟨rfl, rfl⟩ := Failure.ofFault_eq_missingInput_iff.mp reason.symm
    exact .file asked (readText_eq_notFound_iff.mp failed)
  · exact impossible.elim

namespace Run

variable {root missing : Path} {settings : Settings} {mode : Mode} {generators : List Generator}
  {disk : Disk} {halt : Halt}

/-- Settling an artifact never fails for a missing input. -/
theorem settle_ne_missingInput (artifact : Artifact) :
    (settle Disk.workspace root mode artifact disk).1 ≠ .error (.missingInput missing) := by
  intro failed
  cases mode with
  | dry => cases failed
  | write =>
    have unwritten := write_error_of_settle (Prod.ext failed rfl)
    cases Disk.write_fst_eq_error_iff.mp (congrArg Prod.fst unwritten)
  | check =>
    rw [settle_check] at failed
    cases compared : disk.isCurrent root artifact with
    | error cause =>
      rw [compared] at failed
      obtain rfl : cause = .missingInput missing := Except.error.inj failed
      cases Disk.isCurrent_eq_error_iff.mp compared
    | ok current =>
      rw [compared] at failed
      cases failed

/-- A run that is halted for a missing input is halted by a generator that gives no artifacts, since
the disk that its turn begins with lacks an input that it asks for. -/
theorem lacks_of_perform
    (halted : (perform root settings mode generators disk).1.halt = some halt)
    (missed : halt.failure = .missingInput missing) :
    ∃ turns generator rest stage, generators = turns.map Turn.generator ++ generator :: rest ∧
      Completes root settings mode disk turns stage ∧
        halt = .generating generator (.missingInput missing) ∧
          stage.Lacks root settings generator missing := by
  cases performed : perform root settings mode generators disk with
  | mk report last =>
    obtain ⟨events, ending⟩ := report
    rw [performed] at halted
    obtain rfl : ending = some halt := halted
    obtain ⟨turns, generator, rest, stage, told, selected, completes, cause⟩ :=
      perform_halted_cases performed
    rcases single_halted_cases cause with ⟨failure, failed, -, rfl⟩ |
      ⟨settled, artifact, others, middle, failure, -, -, unsettled, rfl⟩
    · obtain rfl : failure = .missingInput missing := missed
      exact ⟨turns, generator, rest, stage, selected, completes, rfl, Disk.lacks_of_generate failed⟩
    · obtain rfl : failure = .missingInput missing := missed
      exact absurd (congrArg Prod.fst unsettled) (settle_ne_missingInput artifact)

end Run

/-! ### What a command misses -/

/-- What loading a configuration from a disk comes to. -/
theorem Configuration.load_disk (path : Path) (disk : Disk) :
    load Disk.workspace path disk =
      (match disk.readInput path with
        | .error failure => .error failure
        | .ok text => (parse text).mapError (Failure.configuration path), disk) := by
  have read : Disk.workspace.readText path disk = (disk.readInput path, disk) := rfl
  rw [load, Run.bind_of_eq read]
  cases disk.readInput path <;> rfl

/-- A configuration cannot be loaded if its file cannot be read, or if the text describes no
settings. -/
theorem Configuration.load_eq_error_iff {disk : Disk} {path : Path} {failure : Failure} :
    (load Disk.workspace path disk).1 = .error failure ↔
      disk.ReadingFails path path failure ∨
        ∃ text problem, disk.readText path = .ok text ∧ parse text = .error problem ∧
          failure = .configuration path problem := by
  rw [load_disk, Disk.readingFails_iff, Disk.readInput]
  cases read : disk.readText path with
  | error fault =>
    show Except.error (Failure.ofFault path fault) = _ ↔ _
    simp [eq_comm]
  | ok text =>
    show (parse text).mapError _ = _ ↔ _
    rw [mapError_eq_error_iff]
    simp

/-- A command fails at its configuration, or it is the run of its generators with some settings. -/
theorem Console.carryOut_cases (threshold : Threshold) (command : CommandLine.Command)
    (disk : Disk) :
    (∃ path failure, command.configuration = some path ∧
      (Configuration.load Disk.workspace path disk).1 = .error failure ∧
        (carryOut Disk.workspace threshold command disk).1 =
          ⟨failed, [], complaintOf failure.chain⟩) ∨
    ∃ settings, (carryOut Disk.workspace threshold command disk).1 =
      answerFor threshold command (Run.perform command.root settings
        (if command.check then .check else .write) (generatorsOf command) disk).1 := by
  cases given : command.configuration with
  | none =>
    refine .inr ⟨settingsOf command {}, ?_⟩
    rw [carryOut, given]
    rfl
  | some path =>
    rw [carryOut, given]
    dsimp only
    cases loaded : Configuration.load Disk.workspace path disk with
    | mk outcome after =>
      obtain rfl : after = disk := by
        rw [Configuration.load_disk] at loaded
        exact (Prod.mk.inj loaded).2.symm
      rw [Run.bind_of_eq loaded]
      cases outcome with
      | error failure => exact .inl ⟨path, failure, rfl, congrArg Prod.fst loaded, rfl⟩
      | ok settings => exact .inr ⟨settingsOf command settings, rfl⟩

/-- A missing input is always an input, on any disk, links included. Writing and comparing an
artifact never fail for a missing input: a file that is not found is not as it should be, and one
that cannot be written for that reason fails like any other. Reading an input below the root, or a
configuration, fails for a missing input exactly if the file system does not find it, and names the
path that was given. Listing a directory does so exactly if it is none, and names the path that was
given, or if the first of its entries that cannot be visited is a link that leads nowhere, and names
that with the root in front, whatever the extension. So a run that is halted for a missing input,
whatever it does with artifacts, is halted by a generator which lists or reads that input on a disk
that lacks it. A command fails at its configuration or comes to such a run. -/
theorem missing_input_is_an_input (disk : Disk) :
    (∀ root artifact,
      (∀ failure, (disk.write root artifact).1 = .error failure ↔
        disk.WritingFails root artifact failure) ∧
      (∀ failure, disk.isCurrent root artifact = .error failure ↔
        disk.ComparingFails root artifact failure) ∧
      (disk.find (root.join artifact.path) = .error .notFound →
        disk.isCurrent root artifact = .ok false) ∧
      ∀ missing, (disk.write root artifact).1 ≠ .error (.missingInput missing) ∧
        disk.isCurrent root artifact ≠ .error (.missingInput missing)) ∧
    (∀ root path failure, (disk.source root).read path = .error failure ↔
      disk.ReadingFails (root.join path) path failure) ∧
    (∀ path failure, (Configuration.load Disk.workspace path disk).1 = .error failure ↔
      disk.ReadingFails path path failure ∨
        ∃ text problem, disk.readText path = .ok text ∧
          Configuration.parse text = .error problem ∧ failure = .configuration path problem) ∧
    (∀ root directory extension failure,
      ((disk.source root).list directory extension).result = .error failure ↔
        disk.ListingFails root directory failure) ∧
    (∀ root settings mode generators halt missing,
      (Run.perform root settings mode generators disk).1.halt = some halt →
      halt.failure = .missingInput missing →
        ∃ turns generator rest stage,
          generators = turns.map Run.Turn.generator ++ generator :: rest ∧
            Run.Completes root settings mode disk turns stage ∧
              halt = .generating generator (.missingInput missing) ∧
                stage.Lacks root settings generator missing) ∧
    ∀ threshold command,
      (∃ path failure, command.configuration = some path ∧
        (Configuration.load Disk.workspace path disk).1 = .error failure ∧
          (Console.carryOut Disk.workspace threshold command disk).1 =
            ⟨Console.failed, [], Console.complaintOf failure.chain⟩) ∨
      ∃ settings, (Console.carryOut Disk.workspace threshold command disk).1 =
        Console.answerFor threshold command (Run.perform command.root settings
          (if command.check then .check else .write) (Console.generatorsOf command) disk).1 := by
  refine ⟨fun root artifact => ⟨fun failure => Disk.write_fst_eq_error_iff,
    fun failure => Disk.isCurrent_eq_error_iff, Disk.isCurrent_of_not_found,
    fun missing => ⟨fun unwritten => ?_, fun uncompared => ?_⟩⟩,
    fun root path failure => Disk.source_read_eq_error_iff.trans Disk.readingFails_iff.symm,
    fun path failure => Configuration.load_eq_error_iff,
    fun root directory extension failure => Disk.listFiles_eq_error_iff,
    fun root settings mode generators halt missing => Run.lacks_of_perform,
    fun threshold command => Console.carryOut_cases threshold command disk⟩
  · cases Disk.write_fst_eq_error_iff.mp unwritten
  · cases Disk.isCurrent_eq_error_iff.mp uncompared

/-- A disk with a link that leads nowhere among the applications, and with one where the register
identifiers belong. -/
def danglingDisk : Disk where
  top := .directory [("app", .directory [("servo.c", .file ByteArray.empty),
      ("notes", .link "gone")]),
    ("regdefs.h", .link "gone/regdefs.h")]
  here := []

/-- The link among the applications has no extension, and is still missed. The link in the place of
an output is not. -/
theorem missing_input_is_an_input_dangling :
    let output : Artifact := ⟨"regdefs.h", "REG_A,\n"⟩
    (danglingDisk.write "" output).1 = .error (.io "regdefs.h" (.fault .notFound)) ∧
      danglingDisk.isCurrent "" output = .ok false ∧
      (Run.perform "" {} .check [.applications] danglingDisk).1.halt =
        some (.generating .applications (.missingInput "app/notes")) ∧
      danglingDisk.Lacks "" {} .applications "app/notes" := by
  intro output
  obtain ⟨outputs, -, -, -, runs, -⟩ := missing_input_is_an_input danglingDisk
  have lost : danglingDisk.find (Path.join "" output.path) = .error .notFound :=
    Disk.readBytes_eq_notFound_iff.mp (by decide +kernel)
  have halted : (Run.perform "" {} .check [.applications] danglingDisk).1.halt =
      some (.generating .applications (.missingInput "app/notes")) := by decide +kernel
  obtain ⟨turns, generator, rest, stage, selected, completes, same, lacks⟩ :=
    runs "" {} .check [.applications] _ "app/notes" halted rfl
  refine ⟨by decide +kernel, (outputs "" output).2.2.1 lost, halted, ?_⟩
  obtain ⟨rfl, -⟩ := Halt.generating.inj same
  cases turns with
  | nil =>
    cases completes
    exact lacks
  | cons turn others =>
    exact absurd (List.cons.inj selected).2.symm (List.append_ne_nil_of_right_ne_nil _ nofun)

end Prebuild
