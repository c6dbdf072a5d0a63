/-
This file states the grammar of macro calls as decompositions of a line and proves
that the reader accepts exactly the lines that can be decomposed so.

The reader is greedy: it drops layout, it takes word characters, and never tries a
shorter piece. That finds every decomposition because the classes exclude one
another: no layout character may stand in a component, and neither a comma nor a
parenthesis is in any class, so each piece of a decomposition ends where the class
of its characters ends. The one place where nothing of that kind helps is a name
that itself begins with layout, which the reader can never find.
-/

import Prebuild.MacroCall
import Prebuild.Proofs.Text.Greedy

namespace Prebuild.MacroCall

open Text (ConsistsOf BeginsOutside greedy_cut_iff dropWhile_append_of_beginsOutside
  beginsOutside_cons beginsOutside_dropWhile afterStart?_eq_some_iff consistsOf_takeWhile)

/-! ### The classes exclude one another -/

theorem layout_cases {character : Char} (layout : isLayout character = true) :
    character = ' ' ∨ character = '\t' ∨ character = '\r' ∨ character = '\n' := by
  simpa [isLayout, or_assoc] using layout

/-- A layout character stands in no component. -/
theorem isDotted_of_layout {character : Char} (layout : isLayout character = true) :
    Text.isDotted character = false := by
  rcases layout_cases layout with rfl | rfl | rfl | rfl <;> rfl

theorem not_layout_of_dotted {character : Char} (dotted : Text.isDotted character = true) :
    isLayout character = false := by
  cases layout : isLayout character with
  | false => rfl
  | true => rw [isDotted_of_layout layout] at dotted; cases dotted

/-- A component, followed by what does not begin with layout, does not begin with layout. -/
theorem beginsOutside_layout_of_dotted {component : Text} {stop : Char} {rest : Text}
    (dotted : ConsistsOf Text.isDotted component) (outside : isLayout stop = false) :
    BeginsOutside isLayout (component ++ stop :: rest) := by
  cases component with
  | nil => exact beginsOutside_cons outside
  | cons first others => exact beginsOutside_cons (not_layout_of_dotted (dotted first
      List.mem_cons_self))

/-! ### The grammar of arguments -/

/-- A text begins with one identifier, directly followed by a closing parenthesis. -/
def IdentifierArgument (text value rest : Text) : Prop :=
  text = value ++ ')' :: rest ∧ value ≠ [] ∧ ConsistsOf Text.isWord value

/-- A text begins with two components, each followed by a comma, the second after any
layout; the value is one component after the other, and the second may be empty. -/
def ComponentArguments (text value rest : Text) : Prop :=
  ∃ first gap second : Text, text = first ++ ',' :: (gap ++ (second ++ ',' :: rest)) ∧
    first ≠ [] ∧ ConsistsOf Text.isDotted first ∧ ConsistsOf isLayout gap ∧
    ConsistsOf Text.isDotted second ∧ value = first ++ second

/-- The identifier reader gives what the grammar gives: the same value and the same rest. -/
theorem bareIdentifier_eq_some_iff {text value rest : Text} :
    bareIdentifier text = some (value, rest) ↔ IdentifierArgument text value rest := by
  have stop : Text.isWord ')' = false := rfl
  unfold bareIdentifier IdentifierArgument
  constructor
  · intro read
    split at read
    · rename_i first identifier others taken left
      obtain ⟨rfl, rfl⟩ := Prod.mk.inj (Option.some.inj read)
      obtain ⟨whole, word⟩ := (greedy_cut_iff stop).mp ⟨taken, left⟩
      exact ⟨whole, List.cons_ne_nil _ _, word⟩
    · cases read
  · rintro ⟨whole, nonempty, word⟩
    obtain ⟨taken, left⟩ := (greedy_cut_iff stop).mpr ⟨whole, word⟩
    obtain ⟨first, identifier, rfl⟩ := List.exists_cons_of_ne_nil nonempty
    simp only [taken, left]

/-- The register reader gives what the grammar gives: the same value and the same rest. -/
theorem registerComponents_eq_some_iff {text value rest : Text} :
    registerComponents text = some (value, rest) ↔ ComponentArguments text value rest := by
  have stop : Text.isDotted ',' = false := rfl
  unfold registerComponents ComponentArguments
  constructor
  · intro read
    split at read
    · rename_i head component afterFirst taken left
      obtain ⟨whole, firstDotted⟩ := (greedy_cut_iff stop).mp ⟨taken, left⟩
      dsimp only at read
      split at read
      · rename_i others secondLeft
        obtain ⟨rfl, rfl⟩ := Prod.mk.inj (Option.some.inj read)
        obtain ⟨afterGap, secondDotted⟩ := (greedy_cut_iff stop).mp ⟨rfl, secondLeft⟩
        refine ⟨_, afterFirst.takeWhile isLayout, _, ?_, List.cons_ne_nil _ _, firstDotted,
          consistsOf_takeWhile _, secondDotted, rfl⟩
        rw [← afterGap, List.takeWhile_append_dropWhile]
        exact whole
      · cases read
    · cases read
  · rintro ⟨first, gap, second, whole, nonempty, firstDotted, gapLayout, secondDotted, rfl⟩
    obtain ⟨taken, left⟩ := (greedy_cut_iff stop).mpr ⟨whole, firstDotted⟩
    obtain ⟨secondTaken, secondLeft⟩ :
        (second ++ ',' :: rest).takeWhile Text.isDotted = second ∧
          (second ++ ',' :: rest).dropWhile Text.isDotted = ',' :: rest :=
      (greedy_cut_iff stop).mpr ⟨rfl, secondDotted⟩
    have afterGap : (gap ++ (second ++ ',' :: rest)).dropWhile isLayout = second ++ ',' :: rest :=
      dropWhile_append_of_beginsOutside gapLayout (beginsOutside_layout_of_dotted secondDotted rfl)
    obtain ⟨head, component, rfl⟩ := List.exists_cons_of_ne_nil nonempty
    simp only [taken, left, afterGap, secondLeft, secondTaken]

/-! ### Arguments can be read in only one way -/

/-- A text is cut into two components, each with a comma after it, the layout before the second
component, and a rest. -/
def IsCutInto (text first gap second rest : Text) : Prop :=
  text = first ++ ',' :: (gap ++ (second ++ ',' :: rest)) ∧ first ≠ [] ∧
    ConsistsOf Text.isDotted first ∧ ConsistsOf isLayout gap ∧ ConsistsOf Text.isDotted second

theorem componentArguments_iff {text value rest : Text} :
    ComponentArguments text value rest ↔
      ∃ first gap second, IsCutInto text first gap second rest ∧ value = first ++ second := by
  simp only [ComponentArguments, IsCutInto, and_assoc]

/-- Each comma is outside the classes of what stands before it, and so is each beginning of a
component outside the class of layout, so no piece can end elsewhere. -/
theorem IsCutInto.unique {text first gap second rest first' gap' second' rest' : Text}
    (cut : IsCutInto text first gap second rest)
    (cut' : IsCutInto text first' gap' second' rest') :
    first = first' ∧ gap = gap' ∧ second = second' ∧ rest = rest' := by
  obtain ⟨whole, -, firstDotted, gapLayout, secondDotted⟩ := cut
  obtain ⟨whole', -, firstDotted', gapLayout', secondDotted'⟩ := cut'
  have comma : Text.isDotted ',' = false := rfl
  obtain ⟨rfl, afterFirst⟩ :=
    Text.stopped_run_unique comma firstDotted firstDotted' (whole.symm.trans whole')
  obtain ⟨rfl, afterGap⟩ := Text.run_unique gapLayout
    (beginsOutside_layout_of_dotted secondDotted rfl) gapLayout'
    (beginsOutside_layout_of_dotted secondDotted' rfl) afterFirst
  obtain ⟨rfl, rfl⟩ := Text.stopped_run_unique comma secondDotted secondDotted' afterGap
  exact ⟨rfl, rfl, rfl, rfl⟩

/-- The argument readers read exactly their grammars, which are unambiguous. The identifier
reader gives a value and a rest exactly if the text is the value, a closing parenthesis and the
rest; the register reader does exactly if the text is cut into two components and a rest, and
the value is the one component after the other. Either way there is at most one such
decomposition of a text. -/
theorem arguments_read_in_one_way (text : Text) :
    ((∀ value rest, bareIdentifier text = some (value, rest) ↔
        IdentifierArgument text value rest) ∧
      ∀ value rest value' rest', IdentifierArgument text value rest →
        IdentifierArgument text value' rest' → value = value' ∧ rest = rest') ∧
    ((∀ value rest, registerComponents text = some (value, rest) ↔
        ∃ first gap second, IsCutInto text first gap second rest ∧ value = first ++ second) ∧
      ∀ first gap second rest first' gap' second' rest', IsCutInto text first gap second rest →
        IsCutInto text first' gap' second' rest' →
          first = first' ∧ gap = gap' ∧ second = second' ∧ rest = rest') := by
  refine ⟨⟨fun _ _ => bareIdentifier_eq_some_iff, ?_⟩, ?_, ?_⟩
  · rintro value rest value' rest' ⟨whole, -, word⟩ ⟨whole', -, word'⟩
    exact Text.stopped_run_unique rfl word word' (whole.symm.trans whole')
  · intro value rest
    rw [registerComponents_eq_some_iff, componentArguments_iff]
  · intro _ _ _ _ _ _ _ _ cut cut'
    exact cut.unique cut'

/-- Where the second component is empty, the blanks before the second comma are layout, and no
part of a component. -/
theorem arguments_read_in_one_way_empty_second :
    registerComponents "hal.PWM, \t,0)" = some ("hal.PWM".toList, "0)".toList) ∧
      ∀ first gap second rest, IsCutInto "hal.PWM, \t,0)" first gap second rest →
        first = "hal.PWM".toList ∧ gap = " \t".toList ∧ second = [] ∧ rest = "0)".toList := by
  have cut : IsCutInto "hal.PWM, \t,0)" "hal.PWM" " \t" [] "0)" := by
    refine ⟨rfl, by decide, ?_, ?_, ?_⟩
    all_goals exact List.all_eq_true.mp (by decide)
  obtain ⟨-, reads, unique⟩ := arguments_read_in_one_way "hal.PWM, \t,0)"
  exact ⟨(reads _ _).mpr ⟨_, _, _, cut, rfl⟩,
    fun first gap second rest other => unique _ _ _ _ _ _ _ _ other cut⟩

/-! ### The grammar of calls -/

/-- A line is layout, the name and an opening parenthesis, and then the given text, which is
at least one character and has a closing parenthesis after that. -/
def Opens (name line inside : Text) : Prop :=
  ∃ layout tail : Text, ∃ first : Char, ConsistsOf isLayout layout ∧
    line = layout ++ (name ++ '(' :: inside) ∧ inside = first :: tail ∧ ')' ∈ tail

/-- A line has the shape of a call. -/
def IsCall (name line : Text) : Prop :=
  ∃ layout tail : Text, ∃ first : Char, ConsistsOf isLayout layout ∧
    line = layout ++ (name ++ '(' :: first :: tail) ∧ ')' ∈ tail

/-- A line calls the name with one identifier as argument. -/
def CallsWithIdentifier (name line value : Text) : Prop :=
  ∃ layout tail : Text, ConsistsOf isLayout layout ∧
    line = layout ++ (name ++ '(' :: (value ++ ')' :: tail)) ∧
    value ≠ [] ∧ ConsistsOf Text.isWord value

/-- A line calls the name with at least two arguments, of which the first two are
components; the value is one component after the other. -/
def CallsWithComponents (name line value : Text) : Prop :=
  ∃ layout first gap second tail : Text, ConsistsOf isLayout layout ∧ ConsistsOf isLayout gap ∧
    line = layout ++ (name ++ '(' :: (first ++ ',' :: (gap ++ (second ++ ',' :: tail)))) ∧
    first ≠ [] ∧ ConsistsOf Text.isDotted first ∧ ConsistsOf Text.isDotted second ∧
    value = first ++ second ∧ ')' ∈ tail

/-- A name begins with layout. -/
def BeginsWithLayout (name : Text) : Prop :=
  ∃ first rest, name = first :: rest ∧ isLayout first = true

theorem isCall_iff {name line : Text} : IsCall name line ↔ ∃ inside, Opens name line inside := by
  constructor
  · rintro ⟨layout, tail, first, blank, whole, closed⟩
    exact ⟨first :: tail, layout, tail, first, blank, whole, rfl, closed⟩
  · rintro ⟨inside, layout, tail, first, blank, whole, rfl, closed⟩
    exact ⟨layout, tail, first, blank, whole, closed⟩

/-- The closing parenthesis of the identifier is the one that the shape of a call asks for. -/
theorem callsWithIdentifier_iff {name line value : Text} :
    CallsWithIdentifier name line value ↔
      ∃ inside rest, Opens name line inside ∧ IdentifierArgument inside value rest := by
  constructor
  · rintro ⟨layout, tail, blank, whole, nonempty, word⟩
    obtain ⟨first, identifier, rfl⟩ := List.exists_cons_of_ne_nil nonempty
    exact ⟨_, tail, ⟨layout, identifier ++ ')' :: tail, first, blank, whole, rfl,
      List.mem_append_right _ List.mem_cons_self⟩, rfl, nonempty, word⟩
  · rintro ⟨inside, rest, ⟨layout, tail, first, blank, whole, shape, closed⟩, read, argument⟩
    exact ⟨layout, rest, blank, read ▸ whole, argument⟩

/-- No piece of two components holds a closing parenthesis, so the one that the shape of a
call asks for comes after them. -/
theorem callsWithComponents_iff {name line value : Text} :
    CallsWithComponents name line value ↔
      ∃ inside rest, Opens name line inside ∧ ComponentArguments inside value rest := by
  constructor
  · rintro ⟨layout, first, gap, second, tail, blank, gapLayout, whole, nonempty, firstDotted,
      secondDotted, joined, closed⟩
    obtain ⟨head, component, rfl⟩ := List.exists_cons_of_ne_nil nonempty
    refine ⟨_, tail, ⟨layout, component ++ ',' :: (gap ++ (second ++ ',' :: tail)), head, blank,
      whole, rfl, ?_⟩, head :: component, gap, second, rfl, nonempty, firstDotted, gapLayout,
      secondDotted, joined⟩
    simp [closed]
  · rintro ⟨inside, rest, ⟨layout, tail, head, blank, whole, shape, closed⟩, first, gap, second,
      read, nonempty, firstDotted, gapLayout, secondDotted, joined⟩
    refine ⟨layout, first, gap, second, rest, blank, gapLayout, read ▸ whole, nonempty,
      firstDotted, secondDotted, joined, ?_⟩
    have held : ')' ∈ first ++ ',' :: (gap ++ (second ++ ',' :: rest)) := by
      rw [← read, shape]
      exact List.mem_cons_of_mem _ closed
    have notDotted : Text.isDotted ')' = false := rfl
    have notLayout : isLayout ')' = false := rfl
    have outsideFirst : ')' ∉ first := fun member => by
      rw [firstDotted _ member] at notDotted
      cases notDotted
    have outsideGap : ')' ∉ gap := fun member => by
      rw [gapLayout _ member] at notLayout
      cases notLayout
    have outsideSecond : ')' ∉ second := fun member => by
      rw [secondDotted _ member] at notDotted
      cases notDotted
    simpa [outsideFirst, outsideGap, outsideSecond] using held

/-! ### Finding the opening parenthesis -/

theorem beginsOutside_of_not_beginsWithLayout {name rest : Text}
    (plain : ¬ BeginsWithLayout name) : BeginsOutside isLayout (name ++ '(' :: rest) := by
  cases name with
  | nil => exact beginsOutside_cons rfl
  | cons first others =>
    refine beginsOutside_cons ?_
    cases layout : isLayout first with
    | false => rfl
    | true => exact absurd ⟨first, others, rfl, layout⟩ plain

theorem openCall?_eq_some_iff_dropWhile {name line inside : Text} :
    openCall? name line = some inside ↔
      line.dropWhile isLayout = name ++ '(' :: inside ∧
        ∃ first tail, inside = first :: tail ∧ ')' ∈ tail := by
  have start (text : Text) :
      Text.afterStart? (name ++ ['(']) (line.dropWhile isLayout) = some text ↔
        line.dropWhile isLayout = name ++ '(' :: text := by
    rw [afterStart?_eq_some_iff, List.append_assoc]
    rfl
  unfold openCall?
  constructor
  · intro read
    split at read
    · rename_i first tail begun
      split at read
      · rename_i closed
        rw [← Option.some.inj read]
        exact ⟨(start _).mp begun, first, tail, rfl, List.contains_iff_mem.mp closed⟩
      · cases read
    · cases read
  · rintro ⟨begun, first, tail, rfl, closed⟩
    simp only [(start _).mpr begun]
    exact if_pos (List.contains_iff_mem.mpr closed)

/-- The reader finds the opening parenthesis in exactly the lines that have one in place. -/
theorem openCall?_eq_some_iff {name line inside : Text} (plain : ¬ BeginsWithLayout name) :
    openCall? name line = some inside ↔ Opens name line inside := by
  rw [openCall?_eq_some_iff_dropWhile]
  constructor
  · rintro ⟨begun, first, tail, shape, closed⟩
    refine ⟨line.takeWhile isLayout, tail, first, consistsOf_takeWhile line, ?_, shape, closed⟩
    rw [← begun, List.takeWhile_append_dropWhile]
  · rintro ⟨layout, tail, first, blank, rfl, shape, closed⟩
    exact ⟨dropWhile_append_of_beginsOutside blank (beginsOutside_of_not_beginsWithLayout plain),
      first, tail, shape, closed⟩

/-- The reader drops all layout first, and with it the beginning of a name that begins so. -/
theorem openCall?_of_beginsWithLayout {name : Text} (begins : BeginsWithLayout name)
    (line : Text) : openCall? name line = none := by
  obtain ⟨first, rest, rfl, layout⟩ := begins
  cases found : openCall? (first :: rest) line with
  | none => rfl
  | some inside =>
    have begun := (openCall?_eq_some_iff_dropWhile.mp found).1
    have outside := beginsOutside_dropWhile line first (rest ++ '(' :: inside) begun
    rw [layout] at outside
    cases outside

/-! ### The three outcomes -/

section

variable {name line value : Text} {arguments : ArgumentParser}

theorem classify_eq_notACall_iff :
    classify name arguments line = .notACall ↔ openCall? name line = none := by
  unfold classify
  cases openCall? name line with
  | none => exact ⟨fun _ => rfl, fun _ => rfl⟩
  | some inside =>
    dsimp only
    constructor
    · intro impossible
      split at impossible <;> cases impossible
    · intro impossible
      cases impossible

theorem classify_eq_matched_iff :
    classify name arguments line = .matched value ↔
      ∃ inside rest, openCall? name line = some inside ∧ arguments inside = some (value, rest) := by
  unfold classify
  cases openCall? name line with
  | none => simp
  | some inside =>
    cases read : arguments inside with
    | none => simp [read]
    | some result => simp [read, Prod.ext_iff]

/-- A line is a call with arguments that do not fit exactly if it has the shape of a call and
no value can be read from it. -/
theorem classify_eq_malformed_iff_unmatched :
    classify name arguments line = .malformed ↔
      classify name arguments line ≠ .notACall ∧
        ∀ value, classify name arguments line ≠ .matched value := by
  cases classify name arguments line <;> simp

theorem classify_eq_notACall_iff_not_isCall (plain : ¬ BeginsWithLayout name) :
    classify name arguments line = .notACall ↔ ¬ IsCall name line := by
  rw [classify_eq_notACall_iff, isCall_iff, Option.eq_none_iff_forall_ne_some, not_exists]
  exact forall_congr' fun inside => not_congr (openCall?_eq_some_iff plain)

theorem classify_bareIdentifier_eq_matched_iff (plain : ¬ BeginsWithLayout name) :
    classify name bareIdentifier line = .matched value ↔ CallsWithIdentifier name line value := by
  simp only [classify_eq_matched_iff, callsWithIdentifier_iff, openCall?_eq_some_iff plain,
    bareIdentifier_eq_some_iff]

theorem classify_registerComponents_eq_matched_iff (plain : ¬ BeginsWithLayout name) :
    classify name registerComponents line = .matched value ↔
      CallsWithComponents name line value := by
  simp only [classify_eq_matched_iff, callsWithComponents_iff, openCall?_eq_some_iff plain,
    registerComponents_eq_some_iff]

end

/-- The reader accepts exactly the grammar. For a name that does not begin with layout, a
line is no call exactly if it does not have the shape of a call; with either argument
reader it is matched with a value exactly if it can be decomposed so, and malformed in all
other cases. For a name that begins with layout no line is a call. -/
theorem classify_iff_grammar (name line : Text) :
    (¬ BeginsWithLayout name →
      (∀ arguments, classify name arguments line = .notACall ↔ ¬ IsCall name line) ∧
      (∀ value, classify name bareIdentifier line = .matched value ↔
        CallsWithIdentifier name line value) ∧
      (classify name bareIdentifier line = .malformed ↔
        IsCall name line ∧ ∀ value, ¬ CallsWithIdentifier name line value) ∧
      (∀ value, classify name registerComponents line = .matched value ↔
        CallsWithComponents name line value) ∧
      (classify name registerComponents line = .malformed ↔
        IsCall name line ∧ ∀ value, ¬ CallsWithComponents name line value)) ∧
    (BeginsWithLayout name → ∀ arguments, classify name arguments line = .notACall) := by
  constructor
  · intro plain
    refine ⟨fun _ => classify_eq_notACall_iff_not_isCall plain,
      fun _ => classify_bareIdentifier_eq_matched_iff plain, ?_,
      fun _ => classify_registerComponents_eq_matched_iff plain, ?_⟩
    · rw [classify_eq_malformed_iff_unmatched, ne_eq, classify_eq_notACall_iff_not_isCall plain,
        Classical.not_not]
      exact and_congr_right fun _ =>
        forall_congr' fun _ => not_congr (classify_bareIdentifier_eq_matched_iff plain)
    · rw [classify_eq_malformed_iff_unmatched, ne_eq, classify_eq_notACall_iff_not_isCall plain,
        Classical.not_not]
      exact and_congr_right fun _ =>
        forall_congr' fun _ => not_congr (classify_registerComponents_eq_matched_iff plain)
  · intro begins arguments
    exact classify_eq_notACall_iff.mpr (openCall?_of_beginsWithLayout begins line)

/-- A register definition with layout before its second component is matched, and a name that
begins with layout is not called even by a line that spells it out. -/
theorem classify_iff_grammar_register :
    ¬ BeginsWithLayout "REG_DEF" ∧
      classify "REG_DEF" registerComponents "\tREG_DEF(pm.probe, _speed, 0)," =
        .matched "pm.probe_speed" ∧
      BeginsWithLayout " REG_DEF" ∧
      classify " REG_DEF" registerComponents " REG_DEF(pm.probe, _speed, 0)," = .notACall := by
  have plain : ¬ BeginsWithLayout "REG_DEF" := by
    rintro ⟨first, rest, same, layout⟩
    obtain ⟨rfl, -⟩ := List.cons.inj same
    cases layout
  have begins : BeginsWithLayout " REG_DEF" := ⟨' ', "REG_DEF", rfl, rfl⟩
  refine ⟨plain, ?_, begins, (classify_iff_grammar _ _).2 begins _⟩
  refine (((classify_iff_grammar _ _).1 plain).2.2.2.1 _).mpr ?_
  refine ⟨"\t", "pm.probe", " ", "_speed", " 0),", ?_, ?_, rfl, by decide, ?_, ?_, rfl, by decide⟩
  all_goals exact List.all_eq_true.mp (by decide)

end Prebuild.MacroCall
