/-
This file proves that a run that compares and a run that writes agree on a disk that
holds no links. A comparison that succeeds promises that writing succeeds as well and
changes nothing. The other way round, writing that succeeds and changes nothing has
found everything up to date, provided that its artifacts denote different files: of
two artifacts in one file, the later would hide what the earlier has done.
-/

import Prebuild.Console
import Prebuild.Proofs.Run.Writing

namespace Prebuild

namespace Disk

variable {root : Path} {disk last : Disk} {artifacts : List Artifact}

/-- Writing artifacts that are all there as they should be changes nothing. -/
theorem Writes.eq_of_isCurrent (plain : disk.IsPlain) (writes : Writes root disk artifacts last)
    (current : ∀ artifact ∈ artifacts, disk.isCurrent root artifact = .ok true) : last = disk := by
  induction writes with
  | nil disk => rfl
  | @cons disk next last artifact rest written others inductionHypothesis =>
    obtain ⟨first, further⟩ := List.forall_mem_cons.mp current
    obtain rfl : next = disk :=
      (Prod.mk.inj (written.symm.trans (write_of_isCurrent plain first))).2
    exact inductionHypothesis plain further

end Disk

namespace Run

variable {root : Path} {settings : Settings} {disk last : Disk} {generators : List Generator}
  {turns : List Turn}

/-! ### Writing what is up to date -/

theorem isSteady_write_of_isUpToDate (plain : disk.IsPlain)
    (upToDate : IsUpToDate root settings disk generators) :
    IsSteady root settings .write disk (fun _ => .written) generators := by
  intro generator selected
  obtain ⟨artifacts, given, current⟩ := upToDate generator selected
  refine ⟨artifacts, given, fun artifact member => ?_⟩
  exact settle_write (Disk.write_of_isCurrent plain (current artifact member))

/-- Where everything is up to date, a run that writes succeeds and changes nothing. -/
theorem write_of_isUpToDate (plain : disk.IsPlain)
    (upToDate : IsUpToDate root settings disk generators) :
    (perform root settings .write generators disk).1.Succeeds ∧
      (perform root settings .write generators disk).2 = disk := by
  rw [perform_of_isSteady (isSteady_write_of_isUpToDate plain upToDate)]
  exact ⟨succeeds_turnsAt (fun _ impossible => by cases impossible), rfl⟩

/-! ### Writing that changes nothing -/

/-- In a run whose artifacts are all there as they should be from the beginning, every turn
begins at the same disk. -/
theorem stage_eq_of_isCurrent (plain : disk.IsPlain)
    (completes : Completes root settings .write disk turns last)
    (current : ∀ artifact ∈ artifactsOf turns, disk.isCurrent root artifact = .ok true) :
    ∀ turn ∈ turns, turn.stage = disk := by
  induction completes with
  | nil disk => exact fun _ member => nomatch member
  | @cons disk next last generator settled rest generated settles others inductionHypothesis =>
    -- The turn writes only what is there already, so the next one begins at the same disk.
    have unchanged := (writes_of_settles settles).1.eq_of_isCurrent plain fun artifact member =>
      current artifact (List.mem_append_left _ member)
    subst unchanged
    exact List.forall_mem_cons.mpr ⟨rfl, inductionHypothesis plain fun artifact member =>
      current artifact (List.mem_append_right _ member)⟩

/-- Everything is up to date at a disk where the generators give the artifacts of a course, and
all of these are there as they should be. -/
theorem isUpToDate_of_generates
    (generates : ∀ turn ∈ turns,
      (turn.generator.generate settings (last.source root)).result =
        .ok (turn.settled.map Prod.fst))
    (current : ∀ artifact ∈ artifactsOf turns, last.isCurrent root artifact = .ok true) :
    IsUpToDate root settings last (turns.map Turn.generator) := by
  intro generator selected
  obtain ⟨turn, member, rfl⟩ := List.mem_map.mp selected
  exact ⟨_, generates turn member, fun artifact inTurn =>
    current artifact (List.mem_flatMap.mpr ⟨turn, member, inTurn⟩)⟩

/-- A run that writes, succeeds and changes nothing has found everything up to date, if its
artifacts denote different files. -/
theorem isUpToDate_of_write (plain : disk.IsPlain)
    (succeeds : (perform root settings .write generators disk).1.Succeeds)
    (unchanged : (perform root settings .write generators disk).2 = disk)
    (apart : disk.AreApart root (perform root settings .write generators disk).1.artifacts) :
    IsUpToDate root settings disk generators := by
  obtain ⟨turns, last, rfl, performed, completes⟩ := completes_of_unhalted succeeds.unhalted
  rw [performed] at unchanged apart
  obtain rfl : last = disk := unchanged
  rw [artifacts_flatMap_events] at apart
  have current := (writes_of_completes completes).isCurrent plain apart
  have stages := stage_eq_of_isCurrent plain completes current
  refine isUpToDate_of_generates (fun turn member => ?_) current
  have generated := completes.generated turn member
  rwa [stages turn member] at generated

/-! ### Agreement -/

/-- What the program says at the end of a run that compares and is not halted: how many artifacts
are up to date, how many are not, and which of these comes first. -/
theorem answerFor_check (threshold : Console.Threshold) (command : CommandLine.Command)
    (checking : command.check = true) {report : Report} (unhalted : report.halt = none) :
    let answer := Console.answerFor threshold command report
    answer.output.getLast? = some ("Up to date: " ++ Text.ofNat report.countGood ++ " files") ∧
      (answer.status = Console.failed ↔ report.stale.length ≠ 0) ∧
        answer.complaint = report.stale.head?.toList.map fun first =>
          Text.ofNat report.stale.length ++ " generated file(s) out of date, first: " ++
            first.path.shown := by
  obtain ⟨events, halt⟩ := report
  obtain rfl : halt = none := unhalted
  cases stale : Report.stale ⟨events, none⟩ with
  | nil => simp [Console.answerFor, Console.staleMessage?, stale, Console.summaryLines, checking,
      Console.failed]
  | cons first others => simp [Console.answerFor, Console.staleMessage?, stale,
      Console.summaryLines, checking]

/-- A run that compares and a run that writes agree on every disk that holds no links. Comparing
changes nothing; if it succeeds, writing succeeds and changes nothing; if writing succeeds and
changes nothing, and no two of its artifacts denote the same file, comparing succeeds. If every
generator gives artifacts and all of them can be compared, each is counted as up to date or as out
of date, the run fails exactly if there are any of the latter, and it names the first of them in
the order of generation. -/
theorem check_agrees_with_write {disk : Disk} (plain : disk.IsPlain) (root : Path)
    (settings : Settings) (generators : List Generator) :
    let checked := perform root settings .check generators disk
    let written := perform root settings .write generators disk
    checked.2 = disk ∧
    (checked.1.Succeeds → written.1.Succeeds ∧ written.2 = disk) ∧
    (written.1.Succeeds → written.2 = disk → disk.AreApart root written.1.artifacts →
      checked.1.Succeeds) ∧
    (IsComparable root settings disk generators →
      checked.1.countGood + checked.1.stale.length =
        (generated root settings disk generators).length ∧
      checked.1.stale = (generated root settings disk generators).filter
        (fun artifact => !disk.isUpToDate root artifact) ∧
      (checked.1.Succeeds ↔ checked.1.stale.length = 0) ∧
      ∀ threshold (command : CommandLine.Command), command.check = true →
        let answer := Console.answerFor threshold command checked.1
        answer.output.getLast? =
          some ("Up to date: " ++ Text.ofNat checked.1.countGood ++ " files") ∧
        (answer.status = Console.failed ↔ checked.1.stale.length ≠ 0) ∧
        answer.complaint = checked.1.stale.head?.toList.map fun first =>
          Text.ofNat checked.1.stale.length ++ " generated file(s) out of date, first: " ++
            first.path.shown) := by
  refine ⟨perform_check_snd root settings generators disk, fun succeeds => ?_,
    fun succeeds unchanged apart => ?_, fun comparable => ?_⟩
  · exact write_of_isUpToDate plain (check_succeeds_iff.mp succeeds)
  · exact check_succeeds_iff.mpr (isUpToDate_of_write plain succeeds unchanged apart)
  · have performed := perform_of_isSteady (isSteady_of_isComparable comparable)
    have unhalted : (perform root settings .check generators disk).1.halt = none := by
      rw [performed]
    refine ⟨?_, ?_, ?_, fun threshold command checking =>
      answerFor_check threshold command checking unhalted⟩
    · rw [performed]
      exact countGood_add_length_stale none
    · rw [performed, stale_turnsAt]
      refine congrArg (List.filter · _) (funext fun artifact => ?_)
      rw [Bool.eq_iff_iff, decide_eq_true_iff, comparison_eq_outOfDate_iff, Bool.not_eq_true']
    · rw [List.length_eq_zero_iff]
      exact ⟨fun succeeds => succeeds.fresh, fun fresh => ⟨unhalted, fresh⟩⟩

/-- A tree with one application and one register, in which the header of the application is up to
date and that of the register has the given text. -/
def builtDisk (identifiers : Text) : Disk where
  top := .directory [("app", .directory [("a.c", .file ByteArray.empty),
      ("apdefs.h", .file (Text.toBytes "APP_DEF(A)\n"))]),
    ("regfile.c", .file (Text.toBytes "REG_DEF(a, b, c)\n")),
    ("regdefs.h", .file (Text.toBytes identifiers))]
  here := []

theorem isPlain_builtDisk (identifiers : Text) : (builtDisk identifiers).IsPlain :=
  Disk.isPlain_of_holdsNoLink rfl rfl

theorem areApart_builtDisk : (builtDisk "ID_AB,\n").AreApart ""
    [⟨"app/apdefs.h", "APP_DEF(A)\n"⟩, ⟨"regdefs.h", "ID_AB,\n"⟩] := by
  refine List.pairwise_pair.mpr fun same => ?_
  obtain ⟨location, first, second⟩ := same
  have plain := isPlain_builtDisk "ID_AB,\n"
  exact absurd ((first.eq_placeOf plain).symm.trans (second.eq_placeOf plain)) (by decide)

theorem isComparable_builtDisk : IsComparable "" {} (builtDisk "ID_OLD,\n")
    [.applications, .registerIdentifiers] := by
  refine List.forall_mem_cons.mpr ⟨⟨[⟨"app/apdefs.h", "APP_DEF(A)\n"⟩], rfl, ?_⟩,
    List.forall_mem_singleton.mpr ⟨[⟨"regdefs.h", "ID_AB,\n"⟩], rfl, ?_⟩⟩
  · exact List.forall_mem_singleton.mpr ⟨true, rfl⟩
  · exact List.forall_mem_singleton.mpr ⟨false, rfl⟩

/-- Where both headers are up to date, comparing and writing succeed and change nothing; where one
of them is not, comparing says so. -/
theorem check_agrees_with_write_built :
    let generators : List Generator := [.applications, .registerIdentifiers]
    let built := builtDisk "ID_AB,\n"
    let stale := builtDisk "ID_OLD,\n"
    let checked := perform "" {} .check generators stale
    ((perform "" {} .check generators built).1.Succeeds ∧
      (perform "" {} .write generators built).1.Succeeds ∧
      (perform "" {} .write generators built).2 = built) ∧
    checked.2 = stale ∧ checked.1.countGood = 1 ∧
      checked.1.stale = [⟨"regdefs.h", "ID_AB,\n"⟩] ∧ ¬checked.1.Succeeds ∧
      ∀ threshold (command : CommandLine.Command), command.check = true →
        (Console.answerFor threshold command checked.1).complaint =
          [("1 generated file(s) out of date, first: regdefs.h" : Text)] := by
  intro generators built stale checked
  obtain ⟨-, writes, compares, -⟩ :=
    check_agrees_with_write (isPlain_builtDisk "ID_AB,\n") "" {} generators
  obtain ⟨kept, -, -, counts⟩ :=
    check_agrees_with_write (isPlain_builtDisk "ID_OLD,\n") "" {} generators
  have checkedBuilt : (perform "" {} .check generators built).1.Succeeds :=
    ⟨by decide +kernel, by decide +kernel⟩
  obtain ⟨written, unchanged⟩ := writes checkedBuilt
  have artifacts : (perform "" {} .write generators built).1.artifacts =
      [⟨"app/apdefs.h", "APP_DEF(A)\n"⟩, ⟨"regdefs.h", "ID_AB,\n"⟩] := by decide +kernel
  have apart : built.AreApart "" (perform "" {} .write generators built).1.artifacts :=
    artifacts ▸ areApart_builtDisk
  obtain ⟨sum, found, succeeds, answers⟩ := counts isComparable_builtDisk
  have generatedTwo : (generated "" {} stale generators).length = 2 := by decide +kernel
  have staleOne : checked.1.stale = [⟨"regdefs.h", "ID_AB,\n"⟩] := by
    rw [found]
    decide +kernel
  have one : checked.1.stale.length = 1 := congrArg List.length staleOne
  refine ⟨⟨compares written unchanged apart, written, unchanged⟩, kept, ?_, staleOne, ?_, ?_⟩
  · rw [generatedTwo] at sum
    exact Nat.add_right_cancel (one ▸ sum)
  · exact fun success => absurd (one.symm.trans (succeeds.mp success)) (by decide)
  · intro threshold command checking
    rw [(answers threshold command checking).2.2, staleOne]
    show [_ ++ Bytes.shown (Text.bytes "regdefs.h")] = _
    rw [Bytes.shown_bytes]
    rfl

end Run

end Prebuild
