/-
This file proves that texts can be processed in pieces: where a text is cut after the end of a
line, what becomes of it is what becomes of the first piece and then of the second.

Three things may pass over such a cut. Line numbers do: the second piece counts on from the lines
of the first, in its warnings and in its failure. A failure does: after one in the first piece,
the second is not looked at. And the distance to the last definition of a register does, which
decides on the directives at the beginning of the second piece. It is forgotten at the first
definition, since that sets the distance to the same value whatever it was before; so where each
directive of the second piece stands below one of its definitions, nothing is left of the first.
-/

import Prebuild.BoardFragment
import Prebuild.Proofs.FirstWarning

namespace Prebuild

/-! ### Further down -/

/-- A note on a line, taken a number of lines further down. -/
def Note.lowered (count : Nat) : Note → Note
  | .skipped path line macroName call => .skipped path (line + count) macroName call
  | note => note

/-- A failure at a line, a number of lines further down. -/
def Failure.lowered (count : Nat) : Failure → Failure
  | .malformed path line macroName call => .malformed path (line + count) macroName call
  | failure => failure

namespace Transcript

variable {policy : Policy} {macroName : Text} {path : Path} {number : Nat}
  {readings others : List (Text × Reading)}

/-- What becomes of the same lines a number of lines further down. -/
def lowered (count : Nat) (transcript : Transcript) : Transcript :=
  ⟨transcript.text, transcript.notes.map (Note.lowered count),
    transcript.failure.map (Failure.lowered count)⟩

theorem ofReadings_add (count : Nat) :
    ofReadings policy macroName path (number + count) readings =
      (ofReadings policy macroName path number readings).lowered count := by
  induction readings generalizing number with
  | nil => rfl
  | cons pair rest inductionHypothesis =>
    obtain ⟨line, reading⟩ := pair
    have further := @inductionHypothesis (number + 1)
    rw [Nat.add_right_comm] at further
    cases reading with
    | written text =>
      rw [ofReadings, further]
      rfl
    | nothing => exact further
    | malformed =>
      cases policy with
      | warn =>
        rw [ofReadings, further]
        rfl
      | abort => rfl

/-- Readings may be gone through in two pieces, each by itself. -/
theorem ofReadings_pieces (before rest : List (Text × Reading)) :
    ofReadings policy macroName path number (before ++ rest) =
      (ofReadings policy macroName path number before).followedBy
        ((ofReadings policy macroName path number rest).lowered before.length) := by
  rw [ofReadings_append, ofReadings_add]

/-! ### All but the text -/

/-- A transcript without the text. -/
def withoutText (transcript : Transcript) : Transcript := { transcript with text := [] }

theorem withoutText_followedBy (first second : Transcript) :
    (first.followedBy second).withoutText =
      first.withoutText.followedBy second.withoutText := by
  obtain ⟨text, notes, failed⟩ := first
  cases failed <;> rfl

theorem withoutText_lowered (count : Nat) (transcript : Transcript) :
    (transcript.lowered count).withoutText = transcript.withoutText.lowered count := rfl

end Transcript

/-! ### Register tables -/

namespace RegisterHeader

variable {settings : RegisterSettings} {policy : Policy} {path : Path} {table : List Text}

/-- The distance of the machine after some lines. -/
def distanceAfter (settings : RegisterSettings) (distance : UInt32) (table : List Text) : UInt32 :=
  table.foldl (fun distance line => (readLine settings distance line).2) distance

/-- The machine goes through a table in two pieces, and takes nothing but its distance from one
to the other. -/
theorem readings_append (distance : UInt32) (first second : List Text) :
    readings settings distance (first ++ second) =
      readings settings distance first ++
        readings settings (distanceAfter settings distance first) second := by
  induction first generalizing distance with
  | nil => rfl
  | cons line rest inductionHypothesis =>
    exact congrArg (_ :: ·) (inductionHypothesis _)

theorem length_readings (distance : UInt32) (table : List Text) :
    (readings settings distance table).length = table.length := by
  induction table generalizing distance with
  | nil => rfl
  | cons line rest inductionHypothesis => exact congrArg (· + 1) (inductionHypothesis _)

/-- Every directive of a table stands below one of its definitions. -/
def DirectivesFollow (settings : RegisterSettings) (table : List Text) : Prop :=
  ∀ index line, table[index]? = some line → isDirective line = true →
    ∃ above < index, definitionAt? settings table above ≠ none

theorem DirectivesFollow.head {line : Text} {rest : List Text}
    (follow : DirectivesFollow settings (line :: rest)) : isDirective line = false := by
  refine Bool.eq_false_iff.mpr fun directive => ?_
  obtain ⟨above, below, -⟩ := follow 0 line rfl directive
  exact Nat.not_lt_zero above below

theorem DirectivesFollow.tail {line : Text} {rest : List Text}
    (follow : DirectivesFollow settings (line :: rest)) (plain : definition? settings line = none) :
    DirectivesFollow settings rest := by
  intro index directive here isDirective
  obtain ⟨above, below, defined⟩ := follow (index + 1) directive here isDirective
  cases above with
  | zero => exact absurd plain defined
  | succ above => exact ⟨above, Nat.lt_of_succ_lt_succ below, defined⟩

/-- Where each directive stands below a definition, the machine reads the same from any distance:
up to the first definition nothing depends on the distance, and there it is forgotten. -/
theorem readings_eq_of_directivesFollow (follow : DirectivesFollow settings table)
    (distance other : UInt32) :
    readings settings distance table = readings settings other table := by
  induction table generalizing distance other with
  | nil => rfl
  | cons line rest inductionHypothesis =>
    have noDirective := follow.head
    have found : definition? settings line = _ := if_neg (Bool.eq_false_iff.mp noDirective)
    rw [readings, readings]
    unfold readLine
    rw [if_neg (Bool.eq_false_iff.mp noDirective), if_neg (Bool.eq_false_iff.mp noDirective)]
    cases call : MacroCall.classify settings.macroName MacroCall.registerComponents line with
    | matched components => rfl
    | notACall =>
      rw [call] at found
      exact congrArg (_ :: ·) (inductionHypothesis (follow.tail found) _ _)
    | malformed =>
      rw [call] at found
      exact congrArg (_ :: ·) (inductionHypothesis (follow.tail found) _ _)

/-- Which warnings are taken of a line, and whether it fails, does not depend on the distance. -/
theorem withoutText_readLine (number : Nat) (line : Text) (distance other : UInt32) :
    (Transcript.ofReadings policy settings.macroName path number
        [(line, (readLine settings distance line).1)]).withoutText =
      (Transcript.ofReadings policy settings.macroName path number
        [(line, (readLine settings other line).1)]).withoutText := by
  unfold readLine
  by_cases directive : isDirective line = true
  · rw [if_pos directive, if_pos directive]
    split <;> split <;> rfl
  · rw [if_neg directive, if_neg directive]
    cases MacroCall.classify settings.macroName MacroCall.registerComponents line <;> rfl

theorem withoutText_readings (number : Nat) (table : List Text) (distance other : UInt32) :
    (Transcript.ofReadings policy settings.macroName path number
        (readings settings distance table)).withoutText =
      (Transcript.ofReadings policy settings.macroName path number
        (readings settings other table)).withoutText := by
  induction table generalizing number distance other with
  | nil => rfl
  | cons line rest inductionHypothesis =>
    rw [readings, readings, Transcript.ofReadings_cons, Transcript.withoutText_followedBy,
      withoutText_readLine number line distance other, inductionHypothesis,
      ← Transcript.withoutText_followedBy, ← Transcript.ofReadings_cons]

/-- What becomes of a table that is cut after a line, the distance of the second piece being what
the first has left. -/
theorem scan_append {first : Text} (ends : first.EndsLine) (second : Text) :
    scan settings policy path (first ++ second) =
      (scan settings policy path first).followedBy
        ((Transcript.ofReadings policy settings.macroName path 1
          (readings settings (distanceAfter settings settings.initialDistance first.lines)
            second.lines)).lowered first.lines.length) := by
  rw [scan, Text.lines_append ends, readings_append, Transcript.ofReadings_pieces, length_readings]
  rfl

end RegisterHeader

/-! ### Source files -/

/-- A transcript without the notes that are no warnings. -/
def Transcript.onlyWarnings (transcript : Transcript) : Transcript :=
  { transcript with notes := transcript.warnings }

namespace ShellHeader

variable {settings : ShellSettings} {policy : Policy} {path : Path}

theorem onlyWarnings_scan (policy : Policy) (content : Text)
    (plain : isNetworkFile settings path = false) :
    (scan settings policy path content).onlyWarnings = body settings policy path content := by
  obtain ⟨closing, calm, scanned⟩ := exists_scan_eq_body policy content plain
  have silent : closing.filter Note.isWarning = [] := by simpa using calm
  have whole : (body settings policy path content).warnings = _ := Transcript.warnings_ofReadings
  rw [Transcript.warnings] at whole
  rw [scanned, Transcript.onlyWarnings, Transcript.warnings, List.filter_append, silent,
    List.append_nil, whole]
  rfl

theorem body_append {first : Text} (ends : first.EndsLine) (second : Text) :
    body settings policy path (first ++ second) =
      (body settings policy path first).followedBy
        ((body settings policy path second).lowered first.lines.length) := by
  have count : (readings settings first).length = first.lines.length := List.length_map _
  rw [body, readings, Text.lines_append ends, List.map_append, Transcript.ofReadings_pieces,
    ← readings, ← readings, count]
  rfl

end ShellHeader

/-! ### Headers of boards -/

theorem BoardFragment.text_append (flags : List FlagRule) {first : Text} (ends : first.EndsLine)
    (second : Text) : text flags (first ++ second) = text flags first ++ text flags second := by
  rw [text, Text.lines_append ends, List.flatMap_append]
  rfl

/-! ### All kinds of texts -/

/-- Texts can be processed in pieces. Let a text be cut at its beginning or after a line feed. The
fragment for it as a header is the fragment for the first piece and then that for the second. What
becomes of it as a source file of no network driver, apart from notes that are no warnings, is
what becomes of the first piece and then, unless that has failed, of the second, with the line
numbers in its warnings and in its failure raised by the number of lines of the first. The same is
true of it as a register table if in the second piece each directive stands below some definition
of that piece, whatever the window; and without this condition it is true of all but the text. -/
theorem texts_in_pieces {first : Text} (ends : first.EndsLine) (second : Text) :
    (∀ flags, BoardFragment.text flags (first ++ second) =
      BoardFragment.text flags first ++ BoardFragment.text flags second) ∧
    (∀ (settings : ShellSettings) (policy : Policy) (path : Path),
      ShellHeader.isNetworkFile settings path = false →
        (ShellHeader.scan settings policy path (first ++ second)).onlyWarnings =
          (ShellHeader.scan settings policy path first).onlyWarnings.followedBy
            ((ShellHeader.scan settings policy path second).onlyWarnings.lowered
              first.lines.length)) ∧
    ∀ (settings : RegisterSettings) (policy : Policy) (path : Path),
      let whole := RegisterHeader.scan settings policy path (first ++ second)
      let pieces := (RegisterHeader.scan settings policy path first).followedBy
        ((RegisterHeader.scan settings policy path second).lowered first.lines.length)
      whole.withoutText = pieces.withoutText ∧
        (RegisterHeader.DirectivesFollow settings second.lines → whole = pieces) := by
  refine ⟨fun flags => BoardFragment.text_append flags ends second,
    fun settings policy path plain => ?_, fun settings policy path => ⟨?_, fun follow => ?_⟩⟩
  · simp only [ShellHeader.onlyWarnings_scan policy _ plain]
    exact ShellHeader.body_append ends second
  · rw [RegisterHeader.scan_append ends, Transcript.withoutText_followedBy,
      Transcript.withoutText_followedBy, Transcript.withoutText_lowered,
      Transcript.withoutText_lowered,
      RegisterHeader.withoutText_readings 1 second.lines _ settings.initialDistance]
    rfl
  · rw [RegisterHeader.scan_append ends,
      RegisterHeader.readings_eq_of_directivesFollow follow _ settings.initialDistance]
    rfl

/-- A second piece that begins with a definition fails at the place that its line has in the
whole table, and a directive at its end is kept or not by itself. -/
theorem texts_in_pieces_failing_second :
    let first : Text := "REG_DEF(a, b, )\r\n#if A\r\n"
    let second : Text := "REG_DEF(c, d, )\n#endif\nREG_DEF(e)\n"
    first.EndsLine ∧ RegisterHeader.DirectivesFollow {} second.lines ∧
      ShellHeader.isNetworkFile {} "regfile.c" = false ∧
      RegisterHeader.scan {} .abort "regfile.c" (first ++ second) =
        ⟨"ID_AB,\n#if A\nID_CD,\n#endif\n", [],
          some (.malformed "regfile.c" 5 "REG_DEF" "REG_DEF(e)")⟩ ∧
      (ShellHeader.scan { macroName := "REG_DEF" } .warn "regfile.c" (first ++ second)).warnings =
        [.skipped "regfile.c" 1 "REG_DEF" "REG_DEF(a, b, )",
          .skipped "regfile.c" 3 "REG_DEF" "REG_DEF(c, d, )"] := by
  intro first second
  have ends : first.EndsLine := by decide +kernel
  have follow : RegisterHeader.DirectivesFollow {} second.lines := by
    have lines : second.lines =
        ["REG_DEF(c, d, )".toList, "#endif".toList, "REG_DEF(e)".toList] := by
      decide +kernel
    rw [lines]
    intro index line here directive
    match index with
    | 0 =>
      obtain rfl := Option.some.inj here
      cases directive
    | 1 => exact ⟨0, by decide, by decide +kernel⟩
    | 2 =>
      obtain rfl := Option.some.inj here
      cases directive
    | _ + 3 => cases here
  have plain : ShellHeader.isNetworkFile {} "regfile.c" = false := by decide +kernel
  obtain ⟨-, shell, register⟩ := texts_in_pieces ends second
  refine ⟨ends, follow, plain, ?_, ?_⟩
  · rw [(register {} .abort "regfile.c").2 follow]
    decide +kernel
  · have pieces := shell { macroName := "REG_DEF" } .warn "regfile.c" plain
    refine (congrArg Transcript.notes pieces).trans ?_
    decide +kernel

end Prebuild
