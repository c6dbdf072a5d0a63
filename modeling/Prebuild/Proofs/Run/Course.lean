/-
This file takes a run over a disk apart into turns, one for each generator: the disk
at which the turn begins, the artifacts that the generator gives there, and what
becomes of each. A run that is not halted is such a course of turns, each beginning
at the disk that the one before has left, and every such course is a run.
-/

import Prebuild.Run

namespace Prebuild

namespace Run

/-- A run over a disk: what is told of it, and the disk that it leaves. -/
def perform (root : Path) (settings : Settings) (mode : Mode) (generators : List Generator)
    (disk : Disk) : Report × Disk :=
  sequence Disk.workspace root settings mode generators disk

/-- The turn of a generator in a run: the disk that it starts from, and the artifacts that it
gives with what becomes of them. -/
structure Turn where
  generator : Generator
  stage : Disk
  settled : List (Artifact × Verdict)

/-- What is told of the artifacts of a turn. -/
def Turn.settledEvents (turn : Turn) : List Event :=
  turn.settled.map fun entry => .settled turn.generator entry.1 entry.2

/-- What is told of a turn. -/
def Turn.events (root : Path) (settings : Settings) (turn : Turn) : List Event :=
  .started turn.generator ::
    (turn.generator.generate settings (turn.stage.source root)).notes.map Event.noted ++
    turn.settledEvents

/-- Artifacts are settled one after the other, without a failure, from one disk to another. -/
inductive Settles (root : Path) (mode : Mode) : Disk → List (Artifact × Verdict) → Disk → Prop where
  | nil (disk : Disk) : Settles root mode disk [] disk
  | cons {disk next last : Disk} {artifact : Artifact} {verdict : Verdict}
      {rest : List (Artifact × Verdict)}
      (first : settle Disk.workspace root mode artifact disk = (.ok verdict, next))
      (others : Settles root mode next rest last) :
      Settles root mode disk ((artifact, verdict) :: rest) last

/-- Generators take their turns one after the other, without a failure, from one disk to
another. -/
inductive Completes (root : Path) (settings : Settings) (mode : Mode) :
    Disk → List Turn → Disk → Prop where
  | nil (disk : Disk) : Completes root settings mode disk [] disk
  | cons {disk next last : Disk} {generator : Generator} {settled : List (Artifact × Verdict)}
      {rest : List Turn}
      (generated : (generator.generate settings (disk.source root)).result =
        .ok (settled.map Prod.fst))
      (settles : Settles root mode disk settled next)
      (others : Completes root settings mode next rest last) :
      Completes root settings mode disk (⟨generator, disk, settled⟩ :: rest) last

variable {root : Path} {settings : Settings} {mode : Mode}

/-! ### One step of a run -/

/-- Work on a disk, once it is known what it comes to, goes on with that. -/
theorem bind_of_eq {First Second : Type} {work : StateM Disk First}
    {next : First → StateM Disk Second} {before after : Disk} {value : First}
    (worked : work before = (value, after)) : (work >>= next) before = next value after := by
  show next (work before).1 (work before).2 = _
  rw [worked]

theorem settleAll_cons_ok {generator : Generator} {artifact : Artifact} {rest : List Artifact}
    {disk next last : Disk} {verdict : Verdict} {report : Report}
    (first : settle Disk.workspace root mode artifact disk = (.ok verdict, next))
    (others : settleAll Disk.workspace root mode generator rest next = (report, last)) :
    settleAll Disk.workspace root mode generator (artifact :: rest) disk =
      (⟨.settled generator artifact verdict :: report.events, report.halt⟩, last) := by
  rw [settleAll, bind_of_eq first]
  exact bind_of_eq others

theorem settleAll_cons_error {generator : Generator} {artifact : Artifact}
    {rest : List Artifact} {disk next : Disk} {failure : Failure}
    (first : settle Disk.workspace root mode artifact disk = (.error failure, next)) :
    settleAll Disk.workspace root mode generator (artifact :: rest) disk =
      (⟨[], some (.settling generator failure)⟩, next) := by
  rw [settleAll, bind_of_eq first]
  rfl

theorem single_ok {generator : Generator} {disk last : Disk} {notes : List Note}
    {artifacts : List Artifact} {report : Report}
    (generated : generator.generate settings (disk.source root) = ⟨notes, .ok artifacts⟩)
    (settled : settleAll Disk.workspace root mode generator artifacts disk = (report, last)) :
    single Disk.workspace root settings mode generator disk =
      (⟨.started generator :: notes.map Event.noted ++ report.events, report.halt⟩, last) := by
  have source : Disk.workspace.source root settings generator disk = (disk.source root, disk) := rfl
  rw [single, bind_of_eq source]
  simp only [generated]
  exact bind_of_eq settled

theorem single_error {generator : Generator} {disk : Disk} {notes : List Note}
    {failure : Failure}
    (generated : generator.generate settings (disk.source root) = ⟨notes, .error failure⟩) :
    single Disk.workspace root settings mode generator disk =
      (⟨.started generator :: notes.map Event.noted, some (.generating generator failure)⟩,
        disk) := by
  have source : Disk.workspace.source root settings generator disk = (disk.source root, disk) := rfl
  rw [single, bind_of_eq source]
  simp only [generated]
  rfl

theorem perform_cons_none {generator : Generator} {rest : List Generator}
    {disk next last : Disk} {events : List Event} {report : Report}
    (first : single Disk.workspace root settings mode generator disk = (⟨events, none⟩, next))
    (others : perform root settings mode rest next = (report, last)) :
    perform root settings mode (generator :: rest) disk =
      (⟨events ++ report.events, report.halt⟩, last) := by
  rw [perform, sequence, bind_of_eq first]
  exact bind_of_eq others

theorem perform_cons_some {generator : Generator} {rest : List Generator} {disk next : Disk}
    {events : List Event} {halt : Halt}
    (first : single Disk.workspace root settings mode generator disk =
      (⟨events, some halt⟩, next)) :
    perform root settings mode (generator :: rest) disk = (⟨events, some halt⟩, next) := by
  rw [perform, sequence, bind_of_eq first]
  rfl

/-! ### Runs and courses -/

/-- Settling artifacts is not halted exactly if each of them can be settled in its turn. -/
theorem settleAll_eq_iff_settles {generator : Generator} {artifacts : List Artifact}
    {disk last : Disk} {events : List Event} :
    settleAll Disk.workspace root mode generator artifacts disk = (⟨events, none⟩, last) ↔
      ∃ settled, settled.map Prod.fst = artifacts ∧
        events = settled.map (fun entry => .settled generator entry.1 entry.2) ∧
          Settles root mode disk settled last := by
  constructor
  · intro finished
    induction artifacts generalizing disk events with
    | nil =>
      obtain ⟨told, rfl⟩ := Prod.mk.inj (finished : (_, disk) = _)
      obtain rfl := (Report.mk.inj told).1
      exact ⟨[], rfl, rfl, .nil disk⟩
    | cons artifact rest inductionHypothesis =>
      cases first : settle Disk.workspace root mode artifact disk with
      | mk outcome next =>
        cases outcome with
        | error failure =>
          rw [settleAll_cons_error first] at finished
          cases finished
        | ok verdict =>
          cases others : settleAll Disk.workspace root mode generator rest next with
          | mk report after =>
            rw [settleAll_cons_ok first others] at finished
            obtain ⟨told, rfl⟩ := Prod.mk.inj finished
            obtain ⟨rfl, unhalted⟩ := Report.mk.inj told
            obtain ⟨further, halt⟩ := report
            obtain rfl : halt = none := unhalted
            obtain ⟨settled, rfl, rfl, settles⟩ := inductionHypothesis others
            exact ⟨(artifact, verdict) :: settled, rfl, rfl, .cons first settles⟩
  · rintro ⟨settled, rfl, rfl, settles⟩
    induction settles with
    | nil disk => rfl
    | cons first others inductionHypothesis => exact settleAll_cons_ok first inductionHypothesis

/-- A turn is not halted exactly if the generator gives artifacts that can be settled. -/
theorem single_eq_iff_settles {generator : Generator} {disk last : Disk} {events : List Event} :
    single Disk.workspace root settings mode generator disk = (⟨events, none⟩, last) ↔
      ∃ settled,
        (generator.generate settings (disk.source root)).result = .ok (settled.map Prod.fst) ∧
          events = Turn.events root settings ⟨generator, disk, settled⟩ ∧
            Settles root mode disk settled last := by
  cases generated : generator.generate settings (disk.source root) with
  | mk notes outcome =>
    cases outcome with
    | error failure =>
      rw [single_error generated]
      constructor
      · intro impossible
        cases impossible
      · rintro ⟨settled, impossible, -⟩
        cases impossible
    | ok artifacts =>
      have told : ∀ settled, Turn.events root settings ⟨generator, disk, settled⟩ =
          .started generator :: notes.map Event.noted ++
            settled.map fun entry => .settled generator entry.1 entry.2 := by
        intro settled
        rw [Turn.events, generated]
        rfl
      constructor
      · intro finished
        cases settling : settleAll Disk.workspace root mode generator artifacts disk with
        | mk report after =>
          rw [single_ok generated settling] at finished
          obtain ⟨same, rfl⟩ := Prod.mk.inj finished
          obtain ⟨rfl, unhalted⟩ := Report.mk.inj same
          obtain ⟨further, halt⟩ := report
          obtain rfl : halt = none := unhalted
          obtain ⟨settled, rfl, rfl, settles⟩ := settleAll_eq_iff_settles.mp settling
          exact ⟨settled, rfl, (told settled).symm, settles⟩
      · rintro ⟨settled, same, rfl, settles⟩
        obtain rfl := Except.ok.inj same
        rw [single_ok generated (settleAll_eq_iff_settles.mpr ⟨settled, rfl, rfl, settles⟩), told]

/-- A run is not halted exactly if it is a course of turns, and then these tell it. -/
theorem perform_eq_iff_completes {generators : List Generator} {disk last : Disk}
    {events : List Event} :
    perform root settings mode generators disk = (⟨events, none⟩, last) ↔
      ∃ turns, turns.map Turn.generator = generators ∧
        events = turns.flatMap (Turn.events root settings) ∧
          Completes root settings mode disk turns last := by
  constructor
  · intro finished
    induction generators generalizing disk events with
    | nil =>
      obtain ⟨told, rfl⟩ := Prod.mk.inj (finished : (_, disk) = _)
      obtain rfl := (Report.mk.inj told).1
      exact ⟨[], rfl, rfl, .nil disk⟩
    | cons generator rest inductionHypothesis =>
      cases first : single Disk.workspace root settings mode generator disk with
      | mk begun next =>
        obtain ⟨told, halt⟩ := begun
        cases halt with
        | some halt =>
          rw [perform_cons_some first] at finished
          cases finished
        | none =>
          cases others : perform root settings mode rest next with
          | mk report after =>
            rw [perform_cons_none first others] at finished
            obtain ⟨same, rfl⟩ := Prod.mk.inj finished
            obtain ⟨rfl, unhalted⟩ := Report.mk.inj same
            obtain ⟨further, halt⟩ := report
            obtain rfl : halt = none := unhalted
            obtain ⟨turns, rfl, rfl, completes⟩ := inductionHypothesis others
            obtain ⟨settled, generated, rfl, settles⟩ := single_eq_iff_settles.mp first
            exact ⟨⟨generator, disk, settled⟩ :: turns, rfl, rfl, .cons generated settles completes⟩
  · rintro ⟨turns, rfl, rfl, completes⟩
    induction completes with
    | nil disk => rfl
    | cons generated settles others inductionHypothesis =>
      exact perform_cons_none (single_eq_iff_settles.mpr ⟨_, generated, rfl, settles⟩)
        inductionHypothesis

/-- A run that is not halted is a course of turns. -/
theorem completes_of_unhalted {generators : List Generator} {disk : Disk}
    (unhalted : (perform root settings mode generators disk).1.halt = none) :
    ∃ turns last, turns.map Turn.generator = generators ∧
      perform root settings mode generators disk =
        (⟨turns.flatMap (Turn.events root settings), none⟩, last) ∧
          Completes root settings mode disk turns last := by
  cases performed : perform root settings mode generators disk with
  | mk report last =>
    obtain ⟨events, halt⟩ := report
    rw [performed] at unhalted
    obtain rfl : halt = none := unhalted
    obtain ⟨turns, selected, rfl, completes⟩ := perform_eq_iff_completes.mp performed
    exact ⟨turns, last, selected, rfl, completes⟩

/-! ### What is told of a course -/

theorem settled_append (first second : List Event) (halt : Option Halt) :
    Report.settled ⟨first ++ second, halt⟩ =
      Report.settled ⟨first, halt⟩ ++ Report.settled ⟨second, halt⟩ :=
  List.filterMap_append

theorem settled_events (turn : Turn) (halt : Option Halt) :
    Report.settled ⟨turn.events root settings, halt⟩ =
      turn.settled.map fun entry => (turn.generator, entry.1, entry.2) := by
  have unsettled : ∀ notes : List Note,
      Report.settled ⟨.started turn.generator :: notes.map Event.noted, halt⟩ = [] := by
    intro notes
    simp [Report.settled, List.filterMap_map]
  rw [Turn.events, settled_append, unsettled, List.nil_append, Report.settled, Turn.settledEvents,
    List.filterMap_map]
  exact congrFun List.filterMap_eq_map turn.settled

/-- The artifacts settled in a course are those of its turns, in order. -/
theorem settled_flatMap_events (turns : List Turn) (halt : Option Halt) :
    Report.settled ⟨turns.flatMap (Turn.events root settings), halt⟩ =
      turns.flatMap fun turn =>
        turn.settled.map fun entry => (turn.generator, entry.1, entry.2) := by
  induction turns with
  | nil => rfl
  | cons turn rest inductionHypothesis =>
    rw [List.flatMap_cons, List.flatMap_cons, settled_append, settled_events,
      inductionHypothesis]

/-- Each turn of a course has the artifacts that its generator gives there. -/
theorem Completes.generated {disk last : Disk} {turns : List Turn}
    (completes : Completes root settings mode disk turns last) :
    ∀ turn ∈ turns, (turn.generator.generate settings (turn.stage.source root)).result =
      .ok (turn.settled.map Prod.fst) := by
  induction completes with
  | nil disk =>
    intro turn member
    cases member
  | cons generated settles others inductionHypothesis =>
    exact List.forall_mem_cons.mpr ⟨generated, inductionHypothesis⟩

end Run

end Prebuild
