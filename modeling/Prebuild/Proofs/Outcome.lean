/-
This file treats work that takes notes by what it comes to. What is asked of it is
mostly that it succeeds: then everything that it consists of has succeeded, and each
part may be replaced by a part that comes to the same. If it fails, one of its parts
has failed in the same way.

Work that is stricter than other work may fail where the other goes on with a warning,
and differs in nothing else. That is a relation between the two which is kept when
both go on with work that is so related.
-/

import Prebuild.Journal

namespace Prebuild.Outcome

variable {First Second : Type}

/-! ### Work that succeeds -/

theorem bind_ok_cases {work : Outcome First} {next : First → Outcome Second} {result : Second}
    (success : (work >>= next).result = .ok result) :
    ∃ first, work.result = .ok first ∧ (next first).result = .ok result := by
  obtain ⟨notes, outcome⟩ := work
  cases outcome with
  | error failure => cases success
  | ok first => exact ⟨first, rfl, success⟩

/-- Work that succeeds may be replaced by work that comes to the same, and so may what
follows it. -/
theorem bind_congr_of_ok {work others : Outcome First} {next nextOthers : First → Outcome Second}
    {result : Second} (success : (work >>= next).result = .ok result)
    (same : ∀ first, work.result = .ok first → others = work)
    (sameNext : ∀ first, work.result = .ok first → (next first).result = .ok result →
      nextOthers first = next first) :
    others >>= nextOthers = work >>= next := by
  obtain ⟨first, worked, further⟩ := bind_ok_cases success
  rw [same first worked]
  obtain ⟨notes, outcome⟩ := work
  obtain rfl : outcome = .ok first := worked
  rw [bind_ok, bind_ok, sameNext first rfl further]

/-- Pieces of work that all succeed may be replaced by pieces that come to the same. -/
theorem collect_congr_of_ok {work others : First → Outcome (List Second)} {pieces : List First}
    {results : List Second} (success : (collect work pieces).result = .ok results)
    (same : ∀ piece ∈ pieces, ∀ result, (work piece).result = .ok result →
      others piece = work piece) :
    collect others pieces = collect work pieces := by
  induction pieces generalizing results with
  | nil => rfl
  | cons piece rest inductionHypothesis =>
    rw [collect] at success ⊢
    rw [collect]
    refine bind_congr_of_ok success (same piece List.mem_cons_self) fun first _ further => ?_
    obtain ⟨remaining, collected, -⟩ := bind_ok_cases further
    rw [inductionHypothesis collected fun other member =>
      same other (List.mem_cons_of_mem _ member)]

/-- Pieces of work that all succeed come to what the first comes to and then to what the others
come to. -/
theorem collect_cons_ok_cases {work : First → Outcome (List Second)} {piece : First}
    {rest : List First} {results : List Second}
    (success : (collect work (piece :: rest)).result = .ok results) :
    ∃ part others, (work piece).result = .ok part ∧ (collect work rest).result = .ok others ∧
      results = part ++ others := by
  rw [collect] at success
  obtain ⟨part, worked, further⟩ := bind_ok_cases success
  obtain ⟨others, collected, joined⟩ := bind_ok_cases further
  exact ⟨part, others, worked, collected, (Except.ok.inj joined).symm⟩

theorem collect_map {Third : Type} (work : Second → Outcome (List Third)) (of : First → Second)
    (pieces : List First) :
    collect work (pieces.map of) = collect (fun piece => work (of piece)) pieces := by
  induction pieces with
  | nil => rfl
  | cons piece rest inductionHypothesis => rw [List.map_cons, collect, collect, inductionHypothesis]

/-- If each piece of work that succeeds comes to what is given for some value, pieces that all
succeed come to what is given for one value each, in order. -/
theorem collect_ok_cases {Value : Type} {work : First → Outcome (List Second)}
    {holds : First → Value → Prop} {given : First → Value → List Second} {pieces : List First}
    (each : ∀ piece ∈ pieces, ∀ part, (work piece).result = .ok part →
      ∃ value, holds piece value ∧ part = given piece value)
    {results : List Second} (success : (collect work pieces).result = .ok results) :
    ∃ values : List (First × Value), values.map Prod.fst = pieces ∧
      (∀ pair ∈ values, holds pair.1 pair.2) ∧
        results = values.flatMap fun pair => given pair.1 pair.2 := by
  induction pieces generalizing results with
  | nil => exact ⟨[], rfl, nofun, (Except.ok.inj success).symm⟩
  | cons piece rest inductionHypothesis =>
    obtain ⟨here, further⟩ := List.forall_mem_cons.mp each
    obtain ⟨part, others, worked, collected, rfl⟩ := collect_cons_ok_cases success
    obtain ⟨value, held, rfl⟩ := here part worked
    obtain ⟨values, rfl, all, rfl⟩ := inductionHypothesis further collected
    exact ⟨(piece, value) :: values, rfl, List.forall_mem_cons.mpr ⟨held, all⟩, rfl⟩

/-! ### Work that fails -/

theorem bind_error_cases {work : Outcome First} {next : First → Outcome Second}
    {failure : Failure} (failed : (work >>= next).result = .error failure) :
    work.result = .error failure ∨
      ∃ first, work.result = .ok first ∧ (next first).result = .error failure := by
  obtain ⟨notes, outcome⟩ := work
  cases outcome with
  | error cause => exact .inl (congrArg Except.error (Except.error.inj failed))
  | ok first => exact .inr ⟨first, rfl, failed⟩

/-- If pieces of work fail, one of them does, in the same way. -/
theorem collect_error_cases {work : First → Outcome (List Second)} {pieces : List First}
    {failure : Failure} (failed : (collect work pieces).result = .error failure) :
    ∃ piece ∈ pieces, (work piece).result = .error failure := by
  induction pieces with
  | nil => cases failed
  | cons piece rest inductionHypothesis =>
    rw [collect] at failed
    rcases bind_error_cases failed with here | ⟨first, -, further⟩
    · exact ⟨piece, List.mem_cons_self, here⟩
    · rcases bind_error_cases further with there | ⟨others, -, impossible⟩
      · obtain ⟨other, member, failing⟩ := inductionHypothesis there
        exact ⟨other, List.mem_cons_of_mem _ member, failing⟩
      · cases impossible

/-! ### Work that is stricter than other work -/

/-- Some work is stricter than other work and differs in nothing else: where it succeeds, the
other comes to the same, and where the other succeeds without a warning, so does it. -/
structure Restricts (strict lenient : Outcome First) : Prop where
  success : ∀ result, strict.result = .ok result → lenient = strict
  clean : ∀ result, lenient.result = .ok result →
    (∀ note ∈ lenient.notes, note.isWarning = false) → strict = lenient

theorem Restricts.refl (work : Outcome First) : Restricts work work :=
  ⟨fun _ _ => rfl, fun _ _ _ => rfl⟩

/-- Work followed by work: if both parts are stricter, the whole is. -/
theorem Restricts.bind {strict lenient : Outcome First}
    {strictNext lenientNext : First → Outcome Second} (first : Restricts strict lenient)
    (next : ∀ result, Restricts (strictNext result) (lenientNext result)) :
    Restricts (strict >>= strictNext) (lenient >>= lenientNext) := by
  constructor
  · intro result success
    exact bind_congr_of_ok success first.success fun value _ => (next value).success result
  · intro result success clean
    obtain ⟨value, worked, further⟩ := bind_ok_cases success
    obtain ⟨notes, outcome⟩ := lenient
    obtain rfl : outcome = .ok value := worked
    rw [bind_ok] at clean success ⊢
    rw [first.clean value rfl fun note member => clean note (List.mem_append_left _ member),
      bind_ok, (next value).clean result further fun note member =>
        clean note (List.mem_append_right _ member)]

theorem Restricts.collect {strict lenient : First → Outcome (List Second)}
    (each : ∀ piece, Restricts (strict piece) (lenient piece)) (pieces : List First) :
    Restricts (Outcome.collect strict pieces) (Outcome.collect lenient pieces) := by
  induction pieces with
  | nil => exact Restricts.refl _
  | cons piece rest inductionHypothesis =>
    exact (each piece).bind fun _ => inductionHypothesis.bind fun _ => Restricts.refl _

end Prebuild.Outcome
