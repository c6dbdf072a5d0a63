/-
This file replaces the machine that reads the register table by what it computes.

The machine carries a distance in 32 bits through the lines. Whether it keeps a
directive is a statement about the table alone: how far below the last definition
the directive stands or, above all definitions, how far below the top, in numbers
without a bound. The invariant is that the distance is that number, or the greatest
number of 32 bits if it is greater; no window is wider than that, so the two agree
on what lies inside it.
-/

import Prebuild.Proofs.Reading
import Prebuild.RegisterHeader

namespace Prebuild.RegisterHeader

/-! ### The table without the machine -/

/-- The components of a definition: of a line that is no directive and calls the macro. -/
def definition? (settings : RegisterSettings) (line : Text) : Option Text :=
  if isDirective line then none
  else
    match MacroCall.classify settings.macroName MacroCall.registerComponents line with
    | .matched components => some components
    | _ => none

/-- The components of the definition at an index of the table, if there is one. -/
def definitionAt? (settings : RegisterSettings) (table : List Text) (index : Nat) : Option Text :=
  table[index]?.bind (definition? settings)

/-- A line calls the macro with arguments that do not fit, and is no directive. -/
def IsMalformed (settings : RegisterSettings) (line : Text) : Prop :=
  isDirective line = false ∧
    MacroCall.classify settings.macroName MacroCall.registerComponents line = .malformed

/-- No definition stands at an index from the first up to, but not including, the second. -/
def NoDefinitionFrom (settings : RegisterSettings) (table : List Text) (first index : Nat) : Prop :=
  ∀ between < index, first ≤ between → definitionAt? settings table between = none

instance (settings : RegisterSettings) (table : List Text) (first index : Nat) :
    Decidable (NoDefinitionFrom settings table first index) :=
  inferInstanceAs (Decidable (∀ between < index, first ≤ between → _))

/-- The last definition above an index stands at the given one. -/
def IsLastDefinition (settings : RegisterSettings) (table : List Text) (index last : Nat) : Prop :=
  definitionAt? settings table last ≠ none ∧ NoDefinitionFrom settings table (last + 1) index

instance (settings : RegisterSettings) (table : List Text) (index last : Nat) :
    Decidable (IsLastDefinition settings table index last) :=
  inferInstanceAs (Decidable (_ ∧ _))

/-- A directive at an index is kept: it stands inside the window below the last definition
above it or, if there is none above it, inside the window below the place that is the
initial distance above the top. -/
def IsKept (settings : RegisterSettings) (table : List Text) (index : Nat) : Prop :=
  (∃ last < index, IsLastDefinition settings table index last ∧
    index - last < settings.directiveWindow.toNat) ∨
  (NoDefinitionFrom settings table 0 index ∧
    settings.initialDistance.toNat + index < settings.directiveWindow.toNat)

instance (settings : RegisterSettings) (table : List Text) (index : Nat) :
    Decidable (IsKept settings table index) :=
  inferInstanceAs (Decidable (_ ∨ _))

/-- What the line at an index contributes to the header. -/
def contribution (settings : RegisterSettings) (table : List Text) (index : Nat) (line : Text) :
    Text :=
  if isDirective line then
    if IsKept settings table index then line ++ ['\n'] else []
  else
    match definition? settings line with
    | some components =>
      settings.constantPrefix ++
        Text.upperCase (components.map fun character =>
          if character = '.' then '_' else character) ++ [',', '\n']
    | none => []

/-! ### The distance without a bound -/

/-- The distance of the line at an index, counted without a bound: the number of lines since
the last definition, or the initial distance and all lines above. -/
def distanceAt (settings : RegisterSettings) (table : List Text) : Nat → Nat
  | 0 => settings.initialDistance.toNat
  | index + 1 =>
    if definitionAt? settings table index = none then distanceAt settings table index + 1 else 1

section

variable {settings : RegisterSettings} {table : List Text} {index last : Nat}

theorem noDefinitionFrom_succ {first : Nat} (absent : definitionAt? settings table index = none)
    (above : NoDefinitionFrom settings table first index) :
    NoDefinitionFrom settings table first (index + 1) := by
  intro between below after
  rcases Nat.lt_succ_iff_lt_or_eq.mp below with further | rfl
  · exact above between further after
  · exact absent

theorem noDefinitionFrom_of_succ {first : Nat}
    (above : NoDefinitionFrom settings table first (index + 1)) :
    NoDefinitionFrom settings table first index :=
  fun between below after => above between (Nat.lt_succ_of_lt below) after

theorem distanceAt_of_isLastDefinition (above : last < index)
    (isLast : IsLastDefinition settings table index last) :
    distanceAt settings table index = index - last := by
  induction index with
  | zero => exact absurd above (Nat.not_lt_zero _)
  | succ index inductionHypothesis =>
    rw [distanceAt]
    by_cases here : last = index
    · rw [if_neg (here ▸ isLast.1)]
      omega
    · have further : last < index := by omega
      have absent : definitionAt? settings table index = none :=
        isLast.2 index (Nat.lt_succ_self _) further
      rw [if_pos absent, inductionHypothesis further ⟨isLast.1, noDefinitionFrom_of_succ isLast.2⟩]
      omega

theorem distanceAt_of_noDefinition (none : NoDefinitionFrom settings table 0 index) :
    distanceAt settings table index = settings.initialDistance.toNat + index := by
  induction index with
  | zero => rfl
  | succ index inductionHypothesis =>
    rw [distanceAt, if_pos (none index (Nat.lt_succ_self _) (Nat.zero_le _)),
      inductionHypothesis (noDefinitionFrom_of_succ none), Nat.add_assoc]

/-- Above an index there is a last definition or none at all. -/
theorem exists_isLastDefinition_or (index : Nat) :
    (∃ last < index, IsLastDefinition settings table index last) ∨
      NoDefinitionFrom settings table 0 index := by
  induction index with
  | zero => exact Or.inr fun between below _ => absurd below (Nat.not_lt_zero _)
  | succ index inductionHypothesis =>
    by_cases absent : definitionAt? settings table index = none
    · rcases inductionHypothesis with ⟨last, above, isLast⟩ | noDefinition
      · exact Or.inl ⟨last, Nat.lt_succ_of_lt above, isLast.1,
          noDefinitionFrom_succ absent isLast.2⟩
      · exact Or.inr (noDefinitionFrom_succ absent noDefinition)
    · exact Or.inl ⟨index, Nat.lt_succ_self _, absent,
        fun between below after => absurd below (Nat.not_lt.mpr after)⟩

/-- A directive is kept exactly if its distance, counted without a bound, is in the window. -/
theorem isKept_iff_distanceAt_lt :
    IsKept settings table index ↔
      distanceAt settings table index < settings.directiveWindow.toNat := by
  constructor
  · rintro (⟨last, above, isLast, near⟩ | ⟨noDefinition, near⟩)
    · rwa [distanceAt_of_isLastDefinition above isLast]
    · rwa [distanceAt_of_noDefinition noDefinition]
  · intro near
    rcases exists_isLastDefinition_or index with ⟨last, above, isLast⟩ | noDefinition
    · rw [distanceAt_of_isLastDefinition above isLast] at near
      exact Or.inl ⟨last, above, isLast, near⟩
    · rw [distanceAt_of_noDefinition noDefinition] at near
      exact Or.inr ⟨noDefinition, near⟩

end

/-! ### The machine follows the distance -/

/-- The machine's distance is the distance without a bound, or the greatest number of 32 bits
where that is greater. -/
def Tracks (distance : UInt32) (unbounded : Nat) : Prop := distance.toNat = min unbounded 4294967295

theorem tracks_initialDistance (distance : UInt32) : Tracks distance distance.toNat := by
  have bound := distance.toNat_lt
  unfold Tracks
  omega

theorem tracks_advance {distance : UInt32} {unbounded : Nat} (tracks : Tracks distance unbounded) :
    Tracks (advance distance) (unbounded + 1) := by
  unfold Tracks at *
  unfold advance
  by_cases greatest : distance = 4294967295
  · rw [if_pos greatest]
    have value : distance.toNat = 4294967295 := by rw [greatest]; rfl
    omega
  · rw [if_neg greatest]
    have below : distance.toNat ≠ 4294967295 := fun same => greatest (UInt32.toNat_inj.mp same)
    have bound := distance.toNat_lt
    rw [UInt32.toNat_add, show (1 : UInt32).toNat = 1 from rfl]
    omega

/-- No window is wider than the greatest number of 32 bits, so nothing is lost below it. -/
theorem lt_window_iff_of_tracks {distance window : UInt32} {unbounded : Nat}
    (tracks : Tracks distance unbounded) : distance < window ↔ unbounded < window.toNat := by
  have bound := window.toNat_lt
  rw [UInt32.lt_iff_toNat_lt, tracks]
  omega

/-! ### The readings of a table -/

/-- What the line at an index reads as. -/
def readingAt (settings : RegisterSettings) (table : List Text) (index : Nat) (line : Text) :
    Reading :=
  if isDirective line then
    if IsKept settings table index then .written (Text.endLine line) else .nothing
  else
    match MacroCall.classify settings.macroName MacroCall.registerComponents line with
    | .matched components => .written (identifierLine settings components)
    | .notACall => .nothing
    | .malformed => .malformed

section

variable {settings : RegisterSettings} {table : List Text} {index : Nat} {line : Text}
  {distance : UInt32}

theorem definition?_eq_none_of_isDirective (directive : isDirective line = true) :
    definition? settings line = none := by
  rw [definition?, if_pos directive]

theorem distanceAt_succ_of_ne_none (here : table[index]? = some line)
    (defined : definition? settings line ≠ none) : distanceAt settings table (index + 1) = 1 := by
  rw [distanceAt, definitionAt?, here]
  exact if_neg defined

theorem distanceAt_succ_of_eq_none (here : table[index]? = some line)
    (plain : definition? settings line = none) :
    distanceAt settings table (index + 1) = distanceAt settings table index + 1 := by
  rw [distanceAt, definitionAt?, here]
  exact if_pos plain

/-- One step of the machine: it reads a line as the table says, and its distance stays the
distance without a bound. -/
theorem readLine_of_tracks (tracks : Tracks distance (distanceAt settings table index))
    (here : table[index]? = some line) :
    (readLine settings distance line).1 = readingAt settings table index line ∧
      Tracks (readLine settings distance line).2 (distanceAt settings table (index + 1)) := by
  have kept : distance < settings.directiveWindow ↔ IsKept settings table index :=
    (lt_window_iff_of_tracks tracks).trans isKept_iff_distanceAt_lt.symm
  unfold readLine readingAt
  by_cases directive : isDirective line = true
  · rw [if_pos directive, if_pos directive,
      distanceAt_succ_of_eq_none here (definition?_eq_none_of_isDirective directive)]
    by_cases inside : distance < settings.directiveWindow
    · rw [if_pos inside, if_pos (kept.mp inside)]
      exact ⟨rfl, tracks_advance tracks⟩
    · rw [if_neg inside, if_neg fun keep => inside (kept.mpr keep)]
      exact ⟨rfl, tracks_advance tracks⟩
  · rw [if_neg directive, if_neg directive]
    have found : definition? settings line =
        match MacroCall.classify settings.macroName MacroCall.registerComponents line with
        | .matched components => some components
        | _ => none := if_neg directive
    cases call : MacroCall.classify settings.macroName MacroCall.registerComponents line with
    | matched components =>
      rw [call] at found
      rw [distanceAt_succ_of_ne_none here (by rw [found]; exact Option.some_ne_none _)]
      exact ⟨rfl, tracks_advance (tracks_initialDistance 0)⟩
    | notACall =>
      rw [call] at found
      rw [distanceAt_succ_of_eq_none here found]
      exact ⟨rfl, tracks_advance tracks⟩
    | malformed =>
      rw [call] at found
      rw [distanceAt_succ_of_eq_none here found]
      exact ⟨rfl, tracks_advance tracks⟩

/-- A run of the machine over the rest of a table, from any index whose distance it has. -/
theorem readings_of_tracks {rest : List Text} (left : table.drop index = rest)
    (tracks : Tracks distance (distanceAt settings table index)) :
    readings settings distance rest =
      (rest.zipIdx index).map fun pair => (pair.1, readingAt settings table pair.2 pair.1) := by
  induction rest generalizing index distance with
  | nil => rfl
  | cons line rest inductionHypothesis =>
    have here : table[index]? = some line := by
      have head := congrArg List.head? left
      rwa [List.head?_drop] at head
    have later : table.drop (index + 1) = rest := by
      rw [← List.tail_drop, left, List.tail_cons]
    obtain ⟨reading, next⟩ := readLine_of_tracks tracks here
    rw [readings, List.zipIdx_cons, List.map_cons, ← reading, ← inductionHypothesis later next]

/-- The machine reads each line of a table as the table says. -/
theorem readings_eq (settings : RegisterSettings) (table : List Text) :
    readings settings settings.initialDistance table =
      table.zipIdx.map fun pair => (pair.1, readingAt settings table pair.2 pair.1) :=
  readings_of_tracks List.drop_zero (tracks_initialDistance settings.initialDistance)

theorem readings_map_fst (settings : RegisterSettings) (table : List Text) :
    (readings settings settings.initialDistance table).map Prod.fst = table := by
  rw [readings_eq, List.map_map]
  exact List.zipIdx_map_fst 0 table

theorem readingAt_eq_malformed_iff :
    readingAt settings table index line = .malformed ↔ IsMalformed settings line := by
  unfold readingAt IsMalformed
  by_cases directive : isDirective line = true
  · rw [if_pos directive, directive]
    split <;> simp
  · rw [if_neg directive, Bool.eq_false_iff.mpr directive]
    cases MacroCall.classify settings.macroName MacroCall.registerComponents line <;> simp

theorem readings_malformed_iff (settings : RegisterSettings) (table : List Text) :
    ∀ pair ∈ readings settings settings.initialDistance table,
      pair.2 = .malformed ↔ IsMalformed settings pair.1 := by
  intro pair member
  rw [readings_eq] at member
  obtain ⟨numbered, -, rfl⟩ := List.mem_map.mp member
  exact readingAt_eq_malformed_iff

theorem contribution_readingAt :
    (readingAt settings table index line).contribution =
      contribution settings table index line := by
  unfold readingAt contribution definition?
  by_cases directive : isDirective line = true
  · rw [if_pos directive, if_pos directive]
    split <;> rfl
  · rw [if_neg directive, if_neg directive, if_neg directive]
    cases MacroCall.classify settings.macroName MacroCall.registerComponents line with
    | matched components => simp [Reading.contribution, identifierLine, constant, Text.endLine]
    | notACall => rfl
    | malformed => rfl

end

/-- What becomes of a register table, without the machine. It succeeds exactly if the policy
is lenient or no line is malformed, with what the lines contribute, in order; and it fails
exactly if the policy is strict and a line is malformed, at the first such line, counted
from one. -/
theorem scan_eq_closed_form (settings : RegisterSettings) (policy : Policy) (path : Path)
    (table : Text) :
    (∀ header, (scan settings policy path table).outcome.result = .ok header ↔
      (policy = .warn ∨ ∀ line ∈ table.lines, ¬ IsMalformed settings line) ∧
        header = table.lines.zipIdx.flatMap fun pair =>
          contribution settings table.lines pair.2 pair.1) ∧
    (∀ failure, (scan settings policy path table).outcome.result = .error failure ↔
      policy = .abort ∧ ∃ index line, IsFirst (IsMalformed settings) table.lines index line ∧
        failure = .malformed path (index + 1) settings.macroName (Text.trim line)) := by
  have faithful := readings_malformed_iff settings table.lines
  constructor
  · intro header
    rw [Transcript.outcome_result_eq_ok_iff]
    unfold scan
    rw [Transcript.failure_eq_none_iff faithful, readings_map_fst]
    refine and_congr_right fun succeeds => ?_
    have whole : (scan settings policy path table).text = _ :=
      Transcript.text_of_failure_eq_none
        ((Transcript.failure_eq_none_iff faithful).mpr (by rwa [readings_map_fst]))
    unfold scan at whole
    rw [whole, readings_eq, List.flatMap_map]
    simp only [contribution_readingAt]
  · intro failure
    rw [Transcript.outcome_result_eq_error_iff]
    unfold scan
    rw [Transcript.failure_eq_some_iff faithful, readings_map_fst]
    simp only [Nat.add_comm 1]

/-- With a window of four lines, the third line below a definition is inside and the fourth is
not. -/
example : (scan {} .abort "regfile.c" "REG_DEF(a, b, c)\n\n\n#if A\n#if B\n").text =
    "ID_AB,\n#if A\n" := by
  decide +kernel

end Prebuild.RegisterHeader
