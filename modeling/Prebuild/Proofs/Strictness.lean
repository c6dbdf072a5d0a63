/-
This file proves that a stricter policy never changes what is generated, it only
rejects more. Of two runs of generators over one source tree, whose settings differ in
the policies alone, the stricter one tells the same as the other if it succeeds; and it
succeeds if the other does without a warning.

The policy is looked at in one place, where a line turns out to be malformed. There the
strict work fails and the lenient work warns, so the first is stricter than the second
in the sense of `Outcome.Restricts`, which is carried from there through the files, the
directories and the generators to the whole run.
-/

import Prebuild.Proofs.Outcome
import Prebuild.Proofs.ShellFile
import Prebuild.Run

namespace Prebuild

/-! ### Policies -/

namespace Policy

/-- One policy is at most as strict as another if they are equal, or if it is the lenient one
and the other is the strict one. -/
theorem atMost_iff {first second : Policy} :
    first.AtMost second ↔ second = first ∨ first = .warn ∧ second = .abort := by
  cases first <;> cases second <;> simp [AtMost, stricter]

/-- The stricter of two policies is at least as strict as the stricter of two others that are at
most as strict. -/
theorem AtMost.stricter {first second firstOther secondOther : Policy}
    (atMost : first.AtMost firstOther) (also : second.AtMost secondOther) :
    (first.stricter second).AtMost (firstOther.stricter secondOther) := by
  cases first with
  | warn =>
    cases firstOther with
    | warn => exact also
    | abort => cases second <;> rfl
  | abort =>
    cases firstOther with
    | warn => cases atMost
    | abort => rfl

/-- Beside the strict policy no other matters. -/
theorem stricter_abort (policy : Policy) : policy.stricter .abort = .abort := by
  cases policy <;> rfl

end Policy

/-- Settings that equal others but for the two policies, neither of which is less strict. -/
structure Settings.AtMostAsStrict (lenient strict : Settings) : Prop where
  same : strict = { lenient with
    malformed := strict.malformed
    registers := { lenient.registers with malformed := strict.registers.malformed } }
  malformed : lenient.malformed.AtMost strict.malformed
  registers : lenient.registers.malformed.AtMost strict.registers.malformed

theorem Settings.AtMostAsStrict.registerPolicy {lenient strict : Settings}
    (atMost : lenient.AtMostAsStrict strict) :
    lenient.registerPolicy.AtMost strict.registerPolicy :=
  atMost.malformed.stricter atMost.registers

/-! ### Work under a policy -/

namespace Outcome

variable {Result : Type}

/-- Work that is stricter under the strict policy than under the lenient one is stricter under any
policy than under one that is at most as strict. -/
theorem restricts_of_atMost (work : Policy → Outcome Result) {first second : Policy}
    (restricts : Restricts (work .abort) (work .warn)) (atMost : first.AtMost second) :
    Restricts (work second) (work first) := by
  rcases Policy.atMost_iff.mp atMost with rfl | ⟨rfl, rfl⟩
  · exact Restricts.refl _
  · exact restricts

end Outcome

namespace RegisterHeader

/-- The table is read alike under both policies, up to the first malformed line. -/
theorem scan_restricts (settings : RegisterSettings) (path : Path) (table : Text) :
    Outcome.Restricts (scan settings .abort path table).outcome
      (scan settings .warn path table).outcome := by
  constructor
  · intro header success
    have unfailed := (Transcript.outcome_result_eq_ok_iff.mp success).1
    rw [scan, scan, Transcript.ofReadings_eq_of_wellFormed _
      (Transcript.wellFormed_of_failure_eq_none unfailed)]
  · intro header success clean
    have unfailed := (Transcript.outcome_result_eq_ok_iff.mp success).1
    rw [Transcript.outcome, unfailed] at clean
    rw [scan, scan, Transcript.ofReadings_eq_of_wellFormed _ (Transcript.wellFormed_of_clean clean)]

theorem generate_restricts (settings : RegisterSettings) (source : Source) :
    Outcome.Restricts (generate settings .abort source) (generate settings .warn source) :=
  (Outcome.Restricts.refl _).bind fun table =>
    (scan_restricts settings settings.input table).bind fun _ => Outcome.Restricts.refl _

theorem readings_with_malformed (settings : RegisterSettings) (own : Policy)
    (distance : UInt32) (lines : List Text) :
    readings { settings with malformed := own } distance lines =
      readings settings distance lines := by
  induction lines generalizing distance with
  | nil => rfl
  | cons line rest inductionHypothesis =>
    exact congrArg ((line, (readLine settings distance line).1) :: ·) (inductionHypothesis _)

/-- The header is made under the policy that is given, whatever policy is in the settings. -/
theorem generate_with_malformed (settings : RegisterSettings) (own policy : Policy)
    (source : Source) :
    generate { settings with malformed := own } policy source =
      generate settings policy source := by
  have same (path : Path) (table : Text) :
      scan { settings with malformed := own } policy path table =
        scan settings policy path table := by
    rw [scan, readings_with_malformed]
    rfl
  simp only [generate, same]

end RegisterHeader

namespace ShellHeader

/-- A file is scanned alike under both policies, up to the first malformed line. -/
theorem scan_restricts (settings : ShellSettings) (path : Path) (content : Text) :
    Outcome.Restricts (scan settings .abort path content).outcome
      (scan settings .warn path content).outcome := by
  have same (wellFormed : ∀ pair ∈ readings settings content, pair.2 ≠ .malformed) :
      scan settings .warn path content = scan settings .abort path content := by
    rw [scan, Transcript.ofReadings_eq_of_wellFormed .abort wellFormed]
    rfl
  constructor
  · intro text success
    rw [same (Transcript.wellFormed_of_failure_eq_none (failure_body_of_outcome_ok success))]
  · intro text success clean
    rw [scan_of_failure_eq_none (failure_body_of_outcome_ok success)] at clean
    rw [same (Transcript.wellFormed_of_clean fun note member =>
      clean note (List.mem_append_left _ member))]

theorem generate_restricts (settings : ShellSettings) (source : Source) :
    Outcome.Restricts (generate settings .abort source) (generate settings .warn source) := by
  have file (path : Path) : Outcome.Restricts (ofFile settings .abort source path)
      (ofFile settings .warn source path) :=
    (Outcome.Restricts.refl _).bind fun content => scan_restricts settings path content
  have directory (path : Path) : Outcome.Restricts (ofDirectory settings .abort source path)
      (ofDirectory settings .warn source path) :=
    (Outcome.Restricts.refl _).bind fun files => Outcome.Restricts.collect file files
  exact (Outcome.Restricts.collect directory settings.roots).bind fun _ =>
    Outcome.Restricts.refl _

end ShellHeader

namespace Generator

variable {lenient strict : Settings}

/-- A generator is stricter under settings that are at least as strict, and differs in nothing
else. -/
theorem generate_restricts (atMost : lenient.AtMostAsStrict strict) (source : Source)
    (generator : Generator) :
    Outcome.Restricts (generator.generate strict source) (generator.generate lenient source) := by
  have registers := atMost.registerPolicy
  obtain ⟨same, malformed, -⟩ := atMost
  cases generator with
  | boardFragments =>
    rw [same]
    exact Outcome.Restricts.refl _
  | shellCommands =>
    have shell : strict.shell = lenient.shell := by rw [same]
    rw [generate, generate, shell]
    exact Outcome.restricts_of_atMost (ShellHeader.generate lenient.shell · source)
      (ShellHeader.generate_restricts lenient.shell source) malformed
  | applications =>
    rw [same]
    exact Outcome.Restricts.refl _
  | registerIdentifiers =>
    have sections : strict.registers =
        { lenient.registers with malformed := strict.registers.malformed } := by rw [same]
    rw [generate, generate, sections, RegisterHeader.generate_with_malformed]
    exact Outcome.restricts_of_atMost (RegisterHeader.generate lenient.registers · source)
      (RegisterHeader.generate_restricts lenient.registers source) registers

end Generator

/-! ### Whole runs -/

theorem Report.notes_append (first second : List Event) (halt : Option Halt) :
    Report.notes ⟨first ++ second, halt⟩ =
      Report.notes ⟨first, halt⟩ ++ Report.notes ⟨second, halt⟩ :=
  List.filterMap_append

theorem Report.notes_noted (notes : List Note) (halt : Option Halt) :
    Report.notes ⟨notes.map Event.noted, halt⟩ = notes := by
  rw [Report.notes, List.filterMap_map]
  exact List.filterMap_some

namespace Run

variable {root : Path} {lenient strict settings : Settings} {source : Source}
  {generator : Generator} {generators rest : List Generator} {notes : List Note}

/-- Runs generators over a source tree alone, where nothing is written or compared. -/
def rehearse (root : Path) (settings : Settings) (source : Source)
    (generators : List Generator) : Report :=
  sequence source.workspace root settings .dry generators

/-- The turn of one generator in a rehearsal. -/
def rehearseOne (root : Path) (settings : Settings) (source : Source) (generator : Generator) :
    Report :=
  single source.workspace root settings .dry generator

/-- What is told of a generator that gives artifacts, in a rehearsal. -/
def rehearsed (generator : Generator) (notes : List Note) (artifacts : List Artifact) :
    List Event :=
  .started generator :: notes.map Event.noted ++
    artifacts.map fun artifact => .settled generator artifact .generated

theorem settleAll_dry (artifacts : List Artifact) :
    settleAll source.workspace root .dry generator artifacts =
      (⟨artifacts.map fun artifact => .settled generator artifact .generated, none⟩ : Report) := by
  induction artifacts with
  | nil => rfl
  | cons artifact rest inductionHypothesis =>
    exact congrArg (fun others : Report =>
      Report.mk (.settled generator artifact .generated :: others.events) others.halt)
      inductionHypothesis

theorem rehearseOne_eq : rehearseOne root settings source generator =
    match (generator.generate settings source).result with
    | .error failure => ⟨.started generator ::
        (generator.generate settings source).notes.map Event.noted,
          some (.generating generator failure)⟩
    | .ok artifacts =>
      ⟨rehearsed generator (generator.generate settings source).notes artifacts, none⟩ := by
  have settled (artifacts : List Artifact) :
      settleAll source.workspace root .dry generator artifacts = (⟨_, _⟩ : Report) :=
    settleAll_dry artifacts
  rw [rehearseOne, single]
  show (match (generator.generate settings source).result with
    | .error failure => ⟨_, _⟩
    | .ok artifacts =>
      ⟨_ ++ (settleAll source.workspace root .dry generator artifacts : Report).events,
        (settleAll source.workspace root .dry generator artifacts : Report).halt⟩ : Report) = _
  cases (generator.generate settings source).result with
  | error failure => rfl
  | ok artifacts =>
    simp only [settled]
    rfl

theorem rehearse_cons : rehearse root settings source (generator :: rest) =
    match (rehearseOne root settings source generator).halt with
    | some halt => ⟨(rehearseOne root settings source generator).events, some halt⟩
    | none => ⟨(rehearseOne root settings source generator).events ++
          (rehearse root settings source rest).events,
        (rehearse root settings source rest).halt⟩ := rfl

/-- A rehearsal that is not halted has not been halted in the first turn, nor afterwards. -/
theorem rehearse_cons_unhalted
    (unhalted : (rehearse root settings source (generator :: rest)).halt = none) :
    ∃ artifacts, (generator.generate settings source).result = .ok artifacts ∧
      (rehearse root settings source rest).halt = none ∧
      rehearse root settings source (generator :: rest) =
        ⟨rehearsed generator (generator.generate settings source).notes artifacts ++
          (rehearse root settings source rest).events, none⟩ := by
  rw [rehearse_cons, rehearseOne_eq] at unhalted ⊢
  cases generated : (generator.generate settings source).result with
  | error failure =>
    rw [generated] at unhalted
    cases unhalted
  | ok artifacts =>
    rw [generated] at unhalted
    replace unhalted : (rehearse root settings source rest).halt = none := unhalted
    exact ⟨artifacts, rfl, unhalted, by rw [unhalted]⟩

/-- What is told of a rehearsal depends on what the generators come to. -/
theorem rehearse_cons_congr
    (generated : generator.generate strict source = generator.generate lenient source)
    (others : rehearse root strict source rest = rehearse root lenient source rest) :
    rehearse root strict source (generator :: rest) =
      rehearse root lenient source (generator :: rest) := by
  rw [rehearse_cons, rehearse_cons, rehearseOne_eq, rehearseOne_eq, generated, others]

/-- A rehearsal that is not halted is told alike under settings that are at most as strict. -/
theorem rehearse_eq_of_unhalted (atMost : lenient.AtMostAsStrict strict)
    (unhalted : (rehearse root strict source generators).halt = none) :
    rehearse root strict source generators = rehearse root lenient source generators := by
  induction generators with
  | nil => rfl
  | cons generator rest inductionHypothesis =>
    obtain ⟨artifacts, generated, others, -⟩ := rehearse_cons_unhalted unhalted
    have same := (generator.generate_restricts atMost source).success artifacts generated
    exact rehearse_cons_congr same.symm (inductionHypothesis others)

theorem notes_rehearse_cons {artifacts : List Artifact} {others : Report} :
    Report.notes ⟨rehearsed generator notes artifacts ++ others.events, others.halt⟩ =
      notes ++ others.notes := by
  have unsettled : Report.notes ⟨artifacts.map fun artifact =>
      .settled generator artifact .generated, others.halt⟩ = [] := by
    simp [Report.notes]
  rw [Report.notes_append, rehearsed, Report.notes_append, unsettled, List.append_nil]
  exact congrArg (· ++ _) (Report.notes_noted notes others.halt)

/-- A rehearsal that is neither halted nor warns is told alike under settings that are at least as
strict. -/
theorem rehearse_eq_of_clean (atMost : lenient.AtMostAsStrict strict)
    (unhalted : (rehearse root lenient source generators).halt = none)
    (clean : ∀ note ∈ (rehearse root lenient source generators).notes, note.isWarning = false) :
    rehearse root strict source generators = rehearse root lenient source generators := by
  induction generators with
  | nil => rfl
  | cons generator rest inductionHypothesis =>
    obtain ⟨artifacts, generated, others, told⟩ := rehearse_cons_unhalted unhalted
    rw [told, ← others, notes_rehearse_cons] at clean
    have same := (generator.generate_restricts atMost source).clean artifacts generated
      fun note member => clean note (List.mem_append_left _ member)
    exact rehearse_cons_congr same
      (inductionHypothesis others fun note member => clean note (List.mem_append_right _ member))

/-- A stricter policy never changes what is generated, it only rejects. Take two settings that
differ in the policies alone, with neither policy less strict in the second, and any source tree.
If a run of generators succeeds under the second, it is told alike under the first: the same
artifacts and the same notes, in the same order. If it succeeds under the first without a warning,
it is told alike under the second. And as long as register definitions have the strict policy, the
policy for all macros makes no difference to the register identifiers. -/
theorem stricter_only_rejects (source : Source) (root : Path) (generators : List Generator)
    {lenient strict : Settings} (atMost : lenient.AtMostAsStrict strict) :
    let relaxed := rehearse root lenient source generators
    let strained := rehearse root strict source generators
    (strained.halt = none → relaxed = strained) ∧
    (relaxed.halt = none → (∀ note ∈ relaxed.notes, note.isWarning = false) →
      strained = relaxed) ∧
    (lenient.registers.malformed = .abort → ∀ policy,
      Generator.registerIdentifiers.generate { lenient with malformed := policy } source =
        Generator.registerIdentifiers.generate lenient source) := by
  refine ⟨fun unhalted => (rehearse_eq_of_unhalted atMost unhalted).symm,
    rehearse_eq_of_clean atMost, fun strictSection policy => ?_⟩
  have same (global : Policy) :
      Settings.registerPolicy { lenient with malformed := global } = .abort := by
    rw [Settings.registerPolicy, strictSection, Policy.stricter_abort]
  rw [Generator.generate, Generator.generate, same policy, ← same lenient.malformed]

/-- A source tree with one source file and a register table. -/
def twoFiles (content table : Text) : Source where
  list directory _ := ⟨[], .ok (if directory = "." then ["./main.c"] else [])⟩
  read path := .ok (if path = "regfile.c" then table else content)

theorem stricter_only_rejects_two_files :
    let source := twoFiles "SH_DEF(start)\n" "REG_DEF(a, b, c)\n"
    let strict : Settings := { malformed := .abort }
    let relaxed := rehearse "." {} source Generator.all
    let strained := rehearse "." strict source Generator.all
    (strained.halt = none ∧ relaxed = strained) ∧
      (relaxed.halt = none ∧ (∀ note ∈ relaxed.notes, note.isWarning = false) ∧
        strained = relaxed) ∧
      Generator.registerIdentifiers.generate strict source =
        Generator.registerIdentifiers.generate {} source := by
  intro source strict relaxed strained
  have atMost : Settings.AtMostAsStrict {} strict := ⟨rfl, rfl, rfl⟩
  have agreement := stricter_only_rejects source "." Generator.all atMost
  have unhaltedStrained : strained.halt = none := by decide +kernel
  have unhalted : relaxed.halt = none := by decide +kernel
  have clean : ∀ note ∈ relaxed.notes, note.isWarning = false := by decide +kernel
  exact ⟨⟨unhaltedStrained, agreement.1 unhaltedStrained⟩,
    ⟨unhalted, clean, agreement.2.1 unhalted clean⟩, agreement.2.2 rfl .abort⟩

/-- A malformed call makes the difference: the lenient run goes on where the strict one stops. -/
example : (rehearse "." {} (twoFiles "SH_DEF(a, b)\n" []) Generator.all).halt = none ∧
    (rehearse "." { malformed := .abort } (twoFiles "SH_DEF(a, b)\n" []) Generator.all).halt =
      some (.generating .shellCommands (.malformed "./main.c" 1 "SH_DEF" "SH_DEF(a, b)")) := by
  decide +kernel

end Run

end Prebuild
