/-
This file proves that the strict policy stops exactly where the lenient one first warns.

Both read the same lines, and up to the first malformed one they do the same. There the
lenient policy takes a note and goes on, so its warnings are the malformed lines in order,
and the strict one fails with what the first of these warnings says. What it has written by
then is what the lines before that one contribute, a beginning of what the lenient policy
writes in all. A guard that has been opened by then stays open.
-/

import Mathlib.Data.List.Range
import Prebuild.Proofs.RegisterTable
import Prebuild.Proofs.ShellFile

namespace Prebuild

/-! ### Numbered lines -/

section

variable {inClass : Text → Prop} [DecidablePred inClass]

/-- The lines of a text that are in a class, each with its number, counted from one. -/
def numberedLines (inClass : Text → Prop) [DecidablePred inClass] (text : Text) :
    List (Text × Nat) :=
  (text.lines.zipIdx 1).filter fun line => inClass line.1

/-- The numbers of the lines of a class ascend. -/
theorem pairwise_numberedLines (text : Text) :
    ((numberedLines inClass text).map Prod.snd).Pairwise (· < ·) := by
  refine List.Pairwise.sublist (List.filter_sublist.map Prod.snd) ?_
  rw [List.zipIdx_map_snd]
  exact List.pairwise_lt_range'

end

/-- The warning that a line with a number has been passed over. -/
def Note.passedOver (path : Path) (macroName : Text) (line : Text × Nat) : Note :=
  .skipped path line.2 macroName (Text.trim line.1)

namespace Transcript

variable {policy : Policy} {macroName : Text} {path : Path} {number : Nat}
  {readings before rest : List (Text × Reading)}

/-! ### Up to the first malformed line -/

/-- The warnings of a transcript, in order. -/
def warnings (transcript : Transcript) : List Note := transcript.notes.filter Note.isWarning

/-- A transcript of a text that is added to what has been written before. -/
def onto (written : Text) (transcript : Transcript) : Transcript :=
  { transcript with text := written ++ transcript.text }

/-- Readings of which none is malformed come to what they contribute, and those after them go
on from there. -/
theorem ofReadings_append_of_wellFormed (wellFormed : ∀ pair ∈ before, pair.2 ≠ .malformed) :
    ofReadings policy macroName path number (before ++ rest) =
      (ofReadings policy macroName path (number + before.length) rest).onto
        (before.flatMap fun pair => pair.2.contribution) := by
  rw [ofReadings_append, ofReadings_of_wellFormed wellFormed]
  rfl

/-- Among readings either none is malformed, or there is a first one. -/
theorem wellFormed_or_exists_first (readings : List (Text × Reading)) :
    (∀ pair ∈ readings, pair.2 ≠ .malformed) ∨ ∃ before line rest,
      readings = before ++ (line, .malformed) :: rest ∧ ∀ pair ∈ before, pair.2 ≠ .malformed := by
  cases found : readings.find? fun pair => pair.2 = .malformed with
  | none => exact .inl (by simpa using found)
  | some pair =>
    obtain ⟨malformed, before, rest, rfl, wellFormed⟩ := List.find?_eq_some_iff_append.mp found
    obtain ⟨line, reading⟩ := pair
    obtain rfl : reading = .malformed := of_decide_eq_true malformed
    exact .inr ⟨before, line, rest, rfl, by simpa using wellFormed⟩

/-- Under the lenient policy nothing fails. -/
theorem failure_warn : (ofReadings .warn macroName path number readings).failure = none := by
  induction readings generalizing number with
  | nil => rfl
  | cons pair rest inductionHypothesis =>
    obtain ⟨line, reading⟩ := pair
    cases reading <;> exact inductionHypothesis

/-- Only warnings are noted of the lines. -/
theorem isWarning_of_mem_notes {note : Note}
    (member : note ∈ (ofReadings policy macroName path number readings).notes) :
    note.isWarning = true := by
  induction readings generalizing number with
  | nil => cases member
  | cons pair rest inductionHypothesis =>
    obtain ⟨line, reading⟩ := pair
    cases reading with
    | written text => exact inductionHypothesis member
    | nothing => exact inductionHypothesis member
    | malformed =>
      cases policy with
      | warn =>
        rcases List.mem_cons.mp member with rfl | further
        · rfl
        · exact inductionHypothesis further
      | abort => cases member

theorem warnings_ofReadings :
    (ofReadings policy macroName path number readings).warnings =
      (ofReadings policy macroName path number readings).notes :=
  List.filter_eq_self.mpr fun _ => isWarning_of_mem_notes

/-- Under the lenient policy one warning is taken for each malformed line, with its number, and
no other note. -/
theorem notes_warn {isMalformed : Text → Prop} [DecidablePred isMalformed]
    (faithful : ∀ pair ∈ readings, pair.2 = .malformed ↔ isMalformed pair.1) :
    (ofReadings .warn macroName path number readings).notes =
      (((readings.map Prod.fst).zipIdx number).filter fun line => isMalformed line.1).map
        (Note.passedOver path macroName) := by
  induction readings generalizing number with
  | nil => rfl
  | cons pair rest inductionHypothesis =>
    obtain ⟨line, reading⟩ := pair
    obtain ⟨here, further⟩ := List.forall_mem_cons.mp faithful
    have others := @inductionHypothesis (number + 1) further
    rw [List.map_cons, List.zipIdx_cons, List.filter_cons]
    cases reading with
    | written text => simpa [ofReadings, ← here] using others
    | nothing => simpa [ofReadings, ← here] using others
    | malformed => simpa [ofReadings, ← here, Note.passedOver] using others

/-! ### Where the strict policy stops -/

/-- One transcript stops where another first warns. If the other does not warn, the two are the
same. Otherwise the first has failed with what that warning says and has taken no note, and its
text is the given one for the number of the line, with which the other's text begins. -/
structure StopsAtFirstWarning (strict lenient : Transcript) (before : Nat → Text) : Prop where
  clean : lenient.warnings = [] → strict = lenient
  stopped : ∀ path number macroName call others,
    lenient.warnings = .skipped path number macroName call :: others →
      strict = ⟨before number, [], some (.malformed path number macroName call)⟩ ∧
        before number <+: lenient.text

theorem StopsAtFirstWarning.onto {strict lenient : Transcript} {before : Nat → Text}
    (stops : StopsAtFirstWarning strict lenient before) (written : Text) :
    StopsAtFirstWarning (strict.onto written) (lenient.onto written)
      (fun number => written ++ before number) := by
  constructor
  · intro unwarned
    rw [stops.clean unwarned]
  · intro path number macroName call others warned
    obtain ⟨rfl, begins⟩ := stops.stopped path number macroName call others warned
    exact ⟨rfl, (List.prefix_append_right_inj written).mpr begins⟩

theorem stopsAtFirstWarning_ofReadings :
    StopsAtFirstWarning (ofReadings .abort macroName path number readings)
      (ofReadings .warn macroName path number readings)
      (fun line => (readings.take (line - number)).flatMap fun pair => pair.2.contribution) := by
  rcases wellFormed_or_exists_first readings with wellFormed |
    ⟨before, line, rest, rfl, wellFormed⟩
  · refine ⟨fun _ => ofReadings_eq_of_wellFormed .warn wellFormed, ?_⟩
    intro path number macroName call others warned
    rw [ofReadings_of_wellFormed wellFormed] at warned
    cases warned
  · rw [ofReadings_append_of_wellFormed wellFormed, ofReadings_append_of_wellFormed wellFormed]
    constructor
    · intro unwarned
      cases unwarned
    · intro warnedPath warnedNumber warnedName call others warned
      obtain ⟨rfl, rfl, rfl, rfl⟩ := Note.skipped.inj (List.cons.inj warned).1
      rw [Nat.add_sub_cancel_left, List.take_left]
      refine ⟨?_, List.prefix_append _ _⟩
      simp [onto, ofReadings]

end Transcript

/-! ### Source files -/

namespace ShellHeader

variable {settings : ShellSettings} {policy : Policy} {path : Path} {content : Text}

/-- A line calls the macro with arguments that do not fit. -/
def IsMalformed (settings : ShellSettings) (line : Text) : Prop :=
  MacroCall.classify settings.macroName MacroCall.bareIdentifier line = .malformed

instance (settings : ShellSettings) : DecidablePred (IsMalformed settings) :=
  fun line => inferInstanceAs (Decidable (MacroCall.classify _ _ line = _))

theorem readLine_eq_malformed_iff (line : Text) :
    readLine settings line = .malformed ↔ IsMalformed settings line := by
  rw [readLine, IsMalformed]
  cases MacroCall.classify settings.macroName MacroCall.bareIdentifier line <;> simp

/-- What has been written for a file before the line with a number: the opening guard, if the file
is that of a network driver, and the commands of the lines before. -/
def textBefore (settings : ShellSettings) (path : Path) (content : Text) (number : Nat) : Text :=
  (if isNetworkFile settings path then openingGuard settings else []) ++
    Text.ofLines ((content.lines.take (number - 1)).filterMap (commandLine? settings))

theorem flatMap_contribution_take (count : Nat) :
    (((readings settings content).take count).flatMap fun pair => pair.2.contribution) =
      Text.ofLines ((content.lines.take count).filterMap (commandLine? settings)) := by
  rw [readings, ← List.map_take, List.flatMap_map, List.filterMap_eq_flatMap_toList, Text.ofLines,
    List.flatMap_assoc]
  exact List.flatMap_congr fun line _ => contribution_readLine line

/-- The note at the end of a scan is no warning. -/
theorem warnings_scan_warn :
    (scan settings .warn path content).warnings = (body settings .warn path content).warnings := by
  rw [scan_of_failure_eq_none Transcript.failure_warn, Transcript.warnings, List.filter_append]
  exact List.append_nil _

theorem scan_stopsAtFirstWarning :
    (scan settings .abort path content).StopsAtFirstWarning (scan settings .warn path content)
      (textBefore settings path content) := by
  have stops : (body settings .abort path content).StopsAtFirstWarning
    (body settings .warn path content) _ := Transcript.stopsAtFirstWarning_ofReadings
  have unfailed : (body settings .warn path content).failure = none := Transcript.failure_warn
  constructor
  · intro unwarned
    rw [warnings_scan_warn] at unwarned
    have same := stops.clean unwarned
    rw [scan_of_failure_eq_none unfailed, scan_of_failure_eq_none (by rw [same, unfailed]), same]
  · intro warnedPath number macroName call others warned
    rw [warnings_scan_warn] at warned
    obtain ⟨same, begins⟩ := stops.stopped warnedPath number macroName call others warned
    rw [flatMap_contribution_take] at same begins
    rw [scan_of_failure_eq_some (by rw [same]), same, scan_of_failure_eq_none unfailed, guard]
    refine ⟨rfl, ?_⟩
    rw [textBefore]
    split
    · rw [List.append_assoc, List.prefix_append_right_inj]
      exact begins.trans (List.prefix_append _ _)
    · exact begins

theorem warnings_scan_eq :
    (scan settings .warn path content).warnings =
      (numberedLines (IsMalformed settings) content).map
        (Note.passedOver path settings.macroName) := by
  have faithful : ∀ pair ∈ readings settings content,
      pair.2 = .malformed ↔ IsMalformed settings pair.1 := by
    intro pair member
    obtain ⟨line, -, rfl⟩ := List.mem_map.mp member
    exact readLine_eq_malformed_iff line
  have lines : (readings settings content).map Prod.fst = content.lines := by
    rw [readings, List.map_map]
    exact List.map_id content.lines
  rw [warnings_scan_warn, body, Transcript.warnings_ofReadings, Transcript.notes_warn faithful,
    lines, numberedLines]

end ShellHeader

/-! ### Register tables -/

namespace RegisterHeader

variable {settings : RegisterSettings} {path : Path} {table : Text}

instance (settings : RegisterSettings) : DecidablePred (IsMalformed settings) :=
  fun line => inferInstanceAs (Decidable (isDirective line = false ∧ _ = _))

/-- What has been written for a table before the line with a number: what the lines before it
contribute. -/
def textBefore (settings : RegisterSettings) (table : Text) (number : Nat) : Text :=
  (table.lines.zipIdx.take (number - 1)).flatMap fun pair =>
    contribution settings table.lines pair.2 pair.1

theorem scan_stopsAtFirstWarning :
    (scan settings .abort path table).StopsAtFirstWarning (scan settings .warn path table)
      (textBefore settings table) := by
  have stops : (scan settings .abort path table).StopsAtFirstWarning
    (scan settings .warn path table) _ := Transcript.stopsAtFirstWarning_ofReadings
  have before (number : Nat) :
      (((readings settings settings.initialDistance table.lines).take (number - 1)).flatMap
        fun pair => pair.2.contribution) = textBefore settings table number := by
    rw [readings_eq, ← List.map_take, List.flatMap_map]
    exact List.flatMap_congr fun pair _ => contribution_readingAt
  simpa only [before] using stops

theorem notes_scan_eq :
    (scan settings .warn path table).notes =
      (numberedLines (IsMalformed settings) table).map
        (Note.passedOver path settings.macroName) := by
  rw [scan, Transcript.notes_warn (readings_malformed_iff settings table.lines), readings_map_fst,
    numberedLines]

end RegisterHeader

/-! ### Both kinds of files -/

/-- The strict policy stops exactly where the lenient one first warns. Under the lenient policy a
source file, scanned after anything has been written, does not fail, and it has one warning for
each malformed line, with the number of the line and its text without blanks at the ends, the
numbers ascending. Under the strict policy it comes to the same if there is no warning; and if
there is one, it fails with what the first of them says, takes no note, and leaves what had been
written before, the opening guard of a network driver, and the commands of the lines before that
one. The same is true of a register table, in which no directive is malformed. -/
theorem strict_stops_at_first_warning (path : Path) (content : Text) :
    (∀ (settings : ShellSettings) (written : Text),
      let lenient := (ShellHeader.scan settings .warn path content).onto written
      let strict := (ShellHeader.scan settings .abort path content).onto written
      let malformed := numberedLines (ShellHeader.IsMalformed settings) content
      lenient.failure = none ∧
        lenient.warnings = malformed.map (Note.passedOver path settings.macroName) ∧
        (malformed.map Prod.snd).Pairwise (· < ·) ∧
        strict.StopsAtFirstWarning lenient fun number =>
          written ++ ShellHeader.textBefore settings path content number) ∧
    ∀ settings : RegisterSettings,
      let lenient := RegisterHeader.scan settings .warn path content
      let strict := RegisterHeader.scan settings .abort path content
      let malformed := numberedLines (RegisterHeader.IsMalformed settings) content
      lenient.outcome =
          ⟨malformed.map (Note.passedOver path settings.macroName), .ok lenient.text⟩ ∧
        (malformed.map Prod.snd).Pairwise (· < ·) ∧
        (∀ line ∈ malformed, RegisterHeader.isDirective line.1 = false) ∧
        strict.StopsAtFirstWarning lenient (RegisterHeader.textBefore settings content) := by
  constructor
  · intro settings written lenient strict malformed
    have unfailed : lenient.failure = none := by
      show (ShellHeader.scan settings .warn path content).failure = none
      rw [ShellHeader.scan_of_failure_eq_none Transcript.failure_warn]
    exact ⟨unfailed, ShellHeader.warnings_scan_eq, pairwise_numberedLines content,
      ShellHeader.scan_stopsAtFirstWarning.onto written⟩
  · intro settings lenient strict malformed
    have unfailed : lenient.failure = none := Transcript.failure_warn
    refine ⟨?_, pairwise_numberedLines content, fun line member => ?_,
      RegisterHeader.scan_stopsAtFirstWarning⟩
    · rw [Transcript.outcome, unfailed, ← RegisterHeader.notes_scan_eq]
    · exact (of_decide_eq_true (List.mem_filter.mp member).2).1

/-- The opening guard and the commands before the malformed line are left, and no more. -/
example : ShellHeader.scan {} .abort "hal/epcan.c" "SH_DEF(a)\nSH_DEF(b, c)\nSH_DEF(d)\n" =
    ⟨"#ifdef HW_HAVE_NETWORK_EPCAN\nSH_DEF(a)\n", [],
      some (.malformed "hal/epcan.c" 2 "SH_DEF" "SH_DEF(b, c)")⟩ := by
  decide +kernel

end Prebuild
