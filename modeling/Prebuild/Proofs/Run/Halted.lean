/-
This file says what a run that writes leaves on the disk, however it ends. A failure comes
from one generator: either it gives no artifacts, or one of its artifacts cannot be
written. Up to there the run is a course of turns like any other, so the disk is as it was
with the artifacts before the failure written on it in order, and nothing after them; only
the artifact that could not be written may have left directories.

A run of all generators does the same as runs of each by itself, one after the other, up
to the first that is halted.
-/

import Prebuild.Console
import Prebuild.Proofs.Disk.Directories
import Prebuild.Proofs.Run.Writing

namespace Prebuild.Run

variable {root : Path} {settings : Settings} {mode : Mode} {generator : Generator}
  {generators : List Generator} {disk last : Disk} {halt : Halt}

/-! ### Where a run is halted -/

/-- Settling artifacts is halted by one that cannot be settled, after those before it have been. -/
theorem settleAll_halted_cases {artifacts : List Artifact} {events : List Event}
    (halted : settleAll Disk.workspace root mode generator artifacts disk =
      (⟨events, some halt⟩, last)) :
    ∃ settled artifact rest middle failure, artifacts = settled.map Prod.fst ++ artifact :: rest ∧
      Settles root mode disk settled middle ∧
        settle Disk.workspace root mode artifact middle = (.error failure, last) ∧
          halt = .settling generator failure := by
  induction artifacts generalizing disk events with
  | nil => cases halted
  | cons artifact rest inductionHypothesis =>
    cases first : settle Disk.workspace root mode artifact disk with
    | mk outcome next =>
      cases outcome with
      | error failure =>
        rw [settleAll_cons_error first] at halted
        obtain ⟨told, rfl⟩ := Prod.mk.inj halted
        exact ⟨[], artifact, rest, disk, failure, rfl, .nil disk, first,
          (Option.some.inj (Report.mk.inj told).2).symm⟩
      | ok verdict =>
        cases others : settleAll Disk.workspace root mode generator rest next with
        | mk report after =>
          rw [settleAll_cons_ok first others] at halted
          obtain ⟨told, rfl⟩ := Prod.mk.inj halted
          obtain ⟨further, stopped⟩ := report
          obtain rfl : stopped = some halt := (Report.mk.inj told).2
          obtain ⟨settled, failed, left, middle, failure, rfl, settles, cause, same⟩ :=
            inductionHypothesis others
          exact ⟨(artifact, verdict) :: settled, failed, left, middle, failure, rfl,
            .cons first settles, cause, same⟩

/-- A turn is halted because the generator gives no artifacts, or because one of them cannot be
settled. -/
theorem single_halted_cases {events : List Event}
    (halted : single Disk.workspace root settings mode generator disk =
      (⟨events, some halt⟩, last)) :
    (∃ failure, (generator.generate settings (disk.source root)).result = .error failure ∧
      last = disk ∧ halt = .generating generator failure) ∨
    ∃ settled artifact rest middle failure,
      (generator.generate settings (disk.source root)).result =
          .ok (settled.map Prod.fst ++ artifact :: rest) ∧
        Settles root mode disk settled middle ∧
          settle Disk.workspace root mode artifact middle = (.error failure, last) ∧
            halt = .settling generator failure := by
  cases generated : generator.generate settings (disk.source root) with
  | mk notes outcome =>
    cases outcome with
    | error failure =>
      rw [single_error generated] at halted
      obtain ⟨told, rfl⟩ := Prod.mk.inj halted
      exact .inl ⟨failure, rfl, rfl, (Option.some.inj (Report.mk.inj told).2).symm⟩
    | ok artifacts =>
      cases settling : settleAll Disk.workspace root mode generator artifacts disk with
      | mk report after =>
        rw [single_ok generated settling] at halted
        obtain ⟨told, rfl⟩ := Prod.mk.inj halted
        obtain ⟨further, stopped⟩ := report
        obtain rfl : stopped = some halt := (Report.mk.inj told).2
        obtain ⟨settled, artifact, rest, middle, failure, rfl, settles, cause, same⟩ :=
          settleAll_halted_cases settling
        exact .inr ⟨settled, artifact, rest, middle, failure, rfl, settles, cause, same⟩

/-- A run is halted in one turn, after those before it have been completed. -/
theorem perform_halted_cases {events : List Event}
    (halted : perform root settings mode generators disk = (⟨events, some halt⟩, last)) :
    ∃ turns stopped rest stage told, generators = turns.map Turn.generator ++ stopped :: rest ∧
      Completes root settings mode disk turns stage ∧
        single Disk.workspace root settings mode stopped stage = (⟨told, some halt⟩, last) := by
  induction generators generalizing disk events with
  | nil => cases halted
  | cons generator rest inductionHypothesis =>
    cases first : single Disk.workspace root settings mode generator disk with
    | mk begun next =>
      obtain ⟨told, ending⟩ := begun
      cases ending with
      | some stop =>
        rw [perform_cons_some first] at halted
        obtain ⟨same, rfl⟩ := Prod.mk.inj halted
        obtain rfl : stop = halt := Option.some.inj (Report.mk.inj same).2
        exact ⟨[], generator, rest, disk, told, rfl, .nil disk, first⟩
      | none =>
        cases others : perform root settings mode rest next with
        | mk report after =>
          rw [perform_cons_none first others] at halted
          obtain ⟨same, rfl⟩ := Prod.mk.inj halted
          obtain ⟨further, ending⟩ := report
          obtain rfl : ending = some halt := (Report.mk.inj same).2
          obtain ⟨turns, stopped, left, stage, final, rfl, completes, cause⟩ :=
            inductionHypothesis others
          obtain ⟨settled, generated, rfl, settles⟩ := single_eq_iff_settles.mp first
          exact ⟨⟨generator, disk, settled⟩ :: turns, stopped, left, stage, final, rfl,
            .cons generated settles completes, cause⟩

/-! ### What a run leaves -/

theorem write_error_of_settle {artifact : Artifact} {failure : Failure}
    (failed : settle Disk.workspace root .write artifact disk = (.error failure, last)) :
    disk.write root artifact = (.error failure, last) := by
  cases written : disk.write root artifact with
  | mk outcome next =>
    rw [settle_write written] at failed
    obtain ⟨same, rfl⟩ := Prod.mk.inj failed
    cases outcome with
    | ok done => cases same
    | error cause => rw [Except.error.inj same]

/-- What a run that writes leaves on the disk, by how it ends. If it is not halted, all generators
have had their turns, and their artifacts have been written in order. If a generator gives no
artifacts, those of the generators before it have been written and nothing else. If an artifact
cannot be written, so have those of the generators before and those that its own generator has
given before it, and the disk has gained directories at most, on the way to that artifact. -/
def Leaves (root : Path) (settings : Settings) (generators : List Generator) (disk last : Disk) :
    Option Halt → Prop
  | none => ∃ turns, generators = turns.map Turn.generator ∧
      Completes root settings .write disk turns last ∧
        Disk.Writes root disk (artifactsOf turns) last
  | some (.generating generator failure) => ∃ turns rest,
      generators = turns.map Turn.generator ++ generator :: rest ∧
        Completes root settings .write disk turns last ∧
          (generator.generate settings (last.source root)).result = .error failure ∧
            Disk.Writes root disk (artifactsOf turns) last
  | some (.settling generator failure) => ∃ turns rest stage given artifact others middle,
      generators = turns.map Turn.generator ++ generator :: rest ∧
        Completes root settings .write disk turns stage ∧
          (generator.generate settings (stage.source root)).result =
              .ok (given ++ artifact :: others) ∧
            Disk.Writes root disk (artifactsOf turns ++ given) middle ∧
              middle.write root artifact = (.error failure, last) ∧
                last = (middle.makeParent (root.join artifact.path)).2 ∧
                  middle.GainsDirectories last

theorem leaves_of_perform {report : Report}
    (performed : perform root settings .write generators disk = (report, last)) :
    Leaves root settings generators disk last report.halt := by
  obtain ⟨events, ending⟩ := report
  cases ending with
  | none =>
    obtain ⟨turns, selected, -, completes⟩ := perform_eq_iff_completes.mp performed
    exact ⟨turns, selected.symm, completes, writes_of_completes completes⟩
  | some halt =>
    obtain ⟨turns, stopped, rest, stage, told, selected, completes, cause⟩ :=
      perform_halted_cases performed
    have before := writes_of_completes completes
    rcases single_halted_cases cause with ⟨failure, failed, rfl, rfl⟩ |
      ⟨settled, artifact, others, middle, failure, generated, settles, failed, rfl⟩
    · exact ⟨turns, rest, selected, completes, failed, before⟩
    · have unwritten := write_error_of_settle failed
      obtain ⟨left, gains⟩ := Disk.write_error unwritten
      exact ⟨turns, rest, stage, _, artifact, others, middle, selected, completes, generated,
        before.append (writes_of_settles settles).1, unwritten, left, gains⟩

/-! ### One generator after the other -/

/-- A run that writes, of what a word of the command line names: one generator, or all. A word
that names nothing runs nothing. -/
def runOf (root : Path) (settings : Settings) (word : Text) (disk : Disk) : Report × Disk :=
  match CommandLine.named? word with
  | some only =>
    perform root settings .write (Console.generatorsOf ⟨only, root, none, false, false⟩) disk
  | none => (⟨[], none⟩, disk)

/-- Runs one after the other, up to the first that is halted. -/
def inTurn (root : Path) (settings : Settings) : List Text → Disk → Report × Disk
  | [], disk => (⟨[], none⟩, disk)
  | word :: rest, disk =>
    match runOf root settings word disk with
    | (⟨events, some halt⟩, next) => (⟨events, some halt⟩, next)
    | (⟨events, none⟩, next) =>
      let (others, last) := inTurn root settings rest next
      (⟨events ++ others.events, others.halt⟩, last)

theorem runOf_name (generator : Generator) (disk : Disk) :
    runOf root settings generator.name disk =
      single Disk.workspace root settings .write generator disk := by
  have named : CommandLine.named? generator.name = some (some generator) := by
    cases generator <;> decide
  rw [runOf, named]
  show perform root settings .write [generator] disk = _
  cases first : single Disk.workspace root settings .write generator disk with
  | mk report next =>
    obtain ⟨events, ending⟩ := report
    cases ending with
    | some halt => exact perform_cons_some first
    | none =>
      have others : perform root settings .write [] next = (⟨[], none⟩, next) := rfl
      rw [perform_cons_none first others, List.append_nil]

/-- Runs of generators by themselves, one after the other, do what one run of them does. -/
theorem inTurn_names (generators : List Generator) (disk : Disk) :
    inTurn root settings (generators.map Generator.name) disk =
      perform root settings .write generators disk := by
  induction generators generalizing disk with
  | nil => rfl
  | cons generator rest inductionHypothesis =>
    rw [List.map_cons, inTurn, runOf_name]
    cases first : single Disk.workspace root settings .write generator disk with
    | mk report next =>
      obtain ⟨events, ending⟩ := report
      cases ending with
      | some halt => exact (perform_cons_some first).symm
      | none =>
        dsimp only
        rw [inductionHypothesis]
        exact (perform_cons_none first rfl).symm

/-- A run of all generators tells and leaves what the four runs of one generator each do, one after
the other and up to the first that is halted; and whether it is halted or not, what it leaves is
the disk with the artifacts before the failure written on it in order, and nothing after them. -/
theorem full_run_is_single_runs (root : Path) (settings : Settings) (disk : Disk) :
    runOf root settings "all" disk =
        inTurn root settings ["hw-config", "shell-registry", "app-registry", "register-ids"] disk ∧
      Leaves root settings Generator.all disk (runOf root settings "all" disk).2
        (runOf root settings "all" disk).1.halt :=
  ⟨(inTurn_names Generator.all disk).symm, leaves_of_perform rfl⟩

end Prebuild.Run
