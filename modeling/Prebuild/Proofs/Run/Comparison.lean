/-
This file says what a run comes to that only compares. It changes nothing, whatever
happens in it. If it is not halted, it is told from the disk alone: each artifact is up
to date or out of date as the disk has it. So it succeeds exactly if every generator
gives artifacts at that disk and all of these are there as they should be.
-/

import Prebuild.Proofs.Run.Steady

namespace Prebuild

/-- What a comparison says of an artifact. -/
def Verdict.ofComparison (current : Bool) : Verdict := if current then .upToDate else .outOfDate

/-- Whether the file of an artifact is there as it should be. It is not if this cannot be
found out. -/
def Disk.isUpToDate (disk : Disk) (root : Path) (artifact : Artifact) : Bool :=
  match disk.isCurrent root artifact with
  | .ok current => current
  | .error _ => false

theorem Disk.isUpToDate_of_isCurrent {disk : Disk} {root : Path} {artifact : Artifact}
    {current : Bool} (compared : disk.isCurrent root artifact = .ok current) :
    disk.isUpToDate root artifact = current := by
  rw [Disk.isUpToDate, compared]

namespace Run

variable {root : Path} {settings : Settings} {disk : Disk} {generators : List Generator}

/-! ### Nothing changes -/

theorem settle_check (artifact : Artifact) :
    settle Disk.workspace root .check artifact disk =
      ((disk.isCurrent root artifact).map Verdict.ofComparison, disk) := by
  have compared : Disk.workspace.isCurrent root artifact disk =
      (disk.isCurrent root artifact, disk) := rfl
  simp only [settle]
  rw [bind_of_eq compared]
  cases disk.isCurrent root artifact with
  | error failure => rfl
  | ok current => cases current <;> rfl

theorem settleAll_check_snd (generator : Generator) (artifacts : List Artifact) :
    (settleAll Disk.workspace root .check generator artifacts disk).2 = disk := by
  induction artifacts with
  | nil => rfl
  | cons artifact rest inductionHypothesis =>
    have first : settle Disk.workspace root .check artifact disk = _ := settle_check artifact
    cases compared : disk.isCurrent root artifact with
    | error failure =>
      rw [compared] at first
      rw [settleAll_cons_error first]
    | ok current =>
      rw [compared] at first
      rw [settleAll_cons_ok first rfl]
      exact inductionHypothesis

theorem single_check_snd (generator : Generator) :
    (single Disk.workspace root settings .check generator disk).2 = disk := by
  cases generated : generator.generate settings (disk.source root) with
  | mk notes outcome =>
    cases outcome with
    | error failure => rw [single_error generated]
    | ok artifacts =>
      rw [single_ok generated rfl]
      exact settleAll_check_snd generator artifacts

/-- A run that compares leaves the disk as it is, also when it is halted. -/
theorem perform_check_snd (root : Path) (settings : Settings) (generators : List Generator)
    (disk : Disk) : (perform root settings .check generators disk).2 = disk := by
  induction generators with
  | nil => rfl
  | cons generator rest inductionHypothesis =>
    have unchanged : (single Disk.workspace root settings .check generator disk).2 = disk :=
      single_check_snd generator
    cases first : single Disk.workspace root settings .check generator disk with
    | mk begun next =>
      rw [first] at unchanged
      obtain rfl : next = disk := unchanged
      obtain ⟨told, halt⟩ := begun
      cases halt with
      | some halt => rw [perform_cons_some first]
      | none =>
        rw [perform_cons_none first rfl]
        exact inductionHypothesis

/-! ### What is found -/

/-- The verdict on an artifact, from the disk alone. -/
def comparison (root : Path) (disk : Disk) (artifact : Artifact) : Verdict :=
  .ofComparison (disk.isUpToDate root artifact)

theorem comparison_eq_outOfDate_iff (artifact : Artifact) :
    comparison root disk artifact = .outOfDate ↔ disk.isUpToDate root artifact = false := by
  rw [comparison, Verdict.ofComparison]
  cases disk.isUpToDate root artifact <;> simp

theorem settles_check_cases {settled : List (Artifact × Verdict)} {last : Disk}
    (settles : Settles root .check disk settled last) :
    last = disk ∧ ∀ entry ∈ settled,
      settle Disk.workspace root .check entry.1 disk =
        (.ok (comparison root disk entry.1), disk) := by
  induction settles with
  | nil disk => exact ⟨rfl, fun _ member => nomatch member⟩
  | @cons disk next last artifact verdict rest first others inductionHypothesis =>
    have compared := (settle_check artifact).symm.trans first
    obtain ⟨outcome, rfl⟩ := Prod.mk.inj compared
    obtain ⟨rfl, further⟩ := inductionHypothesis
    refine ⟨rfl, List.forall_mem_cons.mpr ⟨?_, further⟩⟩
    cases current : last.isCurrent root artifact with
    | error failure =>
      rw [current] at outcome
      cases outcome
    | ok found =>
      rw [settle_check, current, comparison, Disk.isUpToDate_of_isCurrent current]
      rfl

theorem isSteady_of_completes_check {turns : List Turn} {last : Disk}
    (completes : Completes root settings .check disk turns last) :
    IsSteady root settings .check disk (comparison root disk) (turns.map Turn.generator) := by
  induction completes with
  | nil disk => exact fun _ member => nomatch member
  | @cons disk next last generator settled rest generated settles others inductionHypothesis =>
    obtain ⟨rfl, found⟩ := settles_check_cases settles
    refine List.forall_mem_cons.mpr ⟨⟨_, generated, fun artifact member => ?_⟩,
      inductionHypothesis⟩
    obtain ⟨entry, inSettled, rfl⟩ := List.mem_map.mp member
    exact found entry inSettled

/-- A run that compares and is not halted is steady. -/
theorem isSteady_of_check_unhalted
    (unhalted : (perform root settings .check generators disk).1.halt = none) :
    IsSteady root settings .check disk (comparison root disk) generators := by
  obtain ⟨turns, last, rfl, -, completes⟩ := completes_of_unhalted unhalted
  exact isSteady_of_completes_check completes

/-- At a disk every generator gives artifacts, and all of them can be compared. -/
def IsComparable (root : Path) (settings : Settings) (disk : Disk)
    (generators : List Generator) : Prop :=
  ∀ generator ∈ generators, ∃ artifacts,
    (generator.generate settings (disk.source root)).result = .ok artifacts ∧
      ∀ artifact ∈ artifacts, ∃ current, disk.isCurrent root artifact = .ok current

theorem isSteady_of_isComparable (comparable : IsComparable root settings disk generators) :
    IsSteady root settings .check disk (comparison root disk) generators := by
  intro generator selected
  obtain ⟨artifacts, given, compared⟩ := comparable generator selected
  refine ⟨artifacts, given, fun artifact member => ?_⟩
  obtain ⟨current, found⟩ := compared artifact member
  rw [settle_check, found, comparison, Disk.isUpToDate_of_isCurrent found]
  rfl

/-! ### When a comparison succeeds -/

/-- At a disk every generator gives artifacts, and all of them are there as they should be. -/
def IsUpToDate (root : Path) (settings : Settings) (disk : Disk) (generators : List Generator) :
    Prop :=
  ∀ generator ∈ generators, ∃ artifacts,
    (generator.generate settings (disk.source root)).result = .ok artifacts ∧
      ∀ artifact ∈ artifacts, disk.isCurrent root artifact = .ok true

theorem mem_generated {generator : Generator} {artifacts : List Artifact} {artifact : Artifact}
    (selected : generator ∈ generators)
    (given : (generator.generate settings (disk.source root)).result = .ok artifacts)
    (member : artifact ∈ artifacts) : artifact ∈ generated root settings disk generators :=
  List.mem_flatMap.mpr ⟨generator, selected, by rwa [Generator.artifacts_of_ok given]⟩

/-- A run that compares succeeds exactly where everything is up to date. -/
theorem check_succeeds_iff :
    (perform root settings .check generators disk).1.Succeeds ↔
      IsUpToDate root settings disk generators := by
  constructor
  · intro succeeds generator selected
    have steady := isSteady_of_check_unhalted succeeds.unhalted
    obtain ⟨artifacts, given, settled⟩ := steady generator selected
    refine ⟨artifacts, given, fun artifact member => ?_⟩
    have fresh := succeeds.fresh
    rw [perform_of_isSteady steady, stale_turnsAt, List.filter_eq_nil_iff] at fresh
    have current := fresh artifact (mem_generated selected given member)
    rw [decide_eq_true_iff, comparison_eq_outOfDate_iff, Bool.not_eq_false] at current
    have verdict := (settle_check artifact).symm.trans (settled artifact member)
    cases compared : disk.isCurrent root artifact with
    | error failure =>
      rw [compared] at verdict
      cases verdict
    | ok found => rw [← current, Disk.isUpToDate_of_isCurrent compared]
  · intro upToDate
    have steady : IsSteady root settings .check disk (fun _ => .upToDate) generators := by
      intro generator selected
      obtain ⟨artifacts, given, current⟩ := upToDate generator selected
      refine ⟨artifacts, given, fun artifact member => ?_⟩
      rw [settle_check, current artifact member]
      rfl
    rw [perform_of_isSteady steady]
    exact succeeds_turnsAt fun _ impossible => by cases impossible

end Run

end Prebuild
