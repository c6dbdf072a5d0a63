/-
This file proves that the constants of a register table are fit for the compiler that reads
the header, and says when two of them clash.

The enumeration numbers its constants by position, so two registers with one constant would
not compile. What a constant forgets of its register is where the first component ends, whether
a separator was a full stop or an underscore, and the case of letters. Where the components are
ASCII that is all it forgets. Outside ASCII it can be more, since a character may become several.
-/

import Prebuild.Proofs.RegisterPositions

namespace Prebuild.RegisterHeader

open Text (ConsistsOf IsAscii SameButCase)

variable {settings : RegisterSettings}

/-- A character that may stand in a constant: a capital letter or a digit of ASCII, or an
underscore. -/
def IsConstantCharacter (character : Char) : Prop :=
  character.isUpper = true ∨ character.isDigit = true ∨ character = '_'

instance : DecidablePred IsConstantCharacter := fun _ => inferInstanceAs (Decidable (_ ∨ _))

/-- The components with an underscore for each full stop. -/
def underscored (components : Text) : Text :=
  components.map fun character => if character = '.' then '_' else character

theorem constant_eq (constantPrefix components : Text) :
    constant constantPrefix components =
      constantPrefix ++ Text.upperCase (underscored components) := rfl

theorem isAscii_underscored {components : Text} (ascii : IsAscii components) :
    IsAscii (underscored components) := by
  intro character member
  obtain ⟨original, inside, rfl⟩ := List.mem_map.mp member
  split
  · decide
  · exact ascii original inside

theorem isConstantCharacter_of_isDotted :
    ∀ character : Char, character.toNat < 128 → Text.isDotted character = true →
      IsConstantCharacter (if character = '.' then '_' else character).toUpper :=
  Text.forall_ascii (by decide +kernel)

/-- What a constant adds to the prefix consists of the characters that may stand there. -/
theorem isConstantCharacter_of_mem {components : Text} {character : Char}
    (dotted : ConsistsOf Text.isDotted components) (ascii : IsAscii components)
    (member : character ∈ Text.upperCase (underscored components)) :
    IsConstantCharacter character := by
  rw [Text.upperCase_eq_map (isAscii_underscored ascii), underscored, List.map_map] at member
  obtain ⟨original, inside, rfl⟩ := List.mem_map.mp member
  exact isConstantCharacter_of_isDotted original (ascii original inside) (dotted original inside)

theorem ne_nil_of_definition? {line components : Text}
    (defined : definition? settings line = some components) : components ≠ [] := by
  obtain ⟨_, _, first, gap, second, -, nonempty, -, -, -, rfl⟩ :=
    exists_componentArguments_of_definition? defined
  exact List.append_ne_nil_of_left_ne_nil nonempty second

theorem upperCase_underscored_ne_nil {components : Text} (nonempty : components ≠ [])
    (ascii : IsAscii components) : Text.upperCase (underscored components) ≠ [] := by
  rw [Text.upperCase_eq_map (isAscii_underscored ascii), underscored]
  simpa using nonempty

theorem contribution_of_definition? {table : List Text} {index : Nat} {line components : Text}
    (defined : definition? settings line = some components) :
    contribution settings table index line =
      constant settings.constantPrefix components ++ [',', '\n'] := by
  have noDirective : ¬ isDirective line = true := fun directive => by
    rw [definition?_eq_none_of_isDirective directive] at defined
    cases defined
  rw [contribution, if_neg noDirective, defined]
  rfl

theorem header_eq_of_scan {policy : Policy} {path : Path} {table header : Text}
    (succeeded : (scan settings policy path table).outcome.result = .ok header) :
    header = table.lines.zipIdx.flatMap fun pair =>
      contribution settings table.lines pair.2 pair.1 := by
  rw [(scan_ok_iff.mp succeeded).2, readings_eq, List.flatMap_map]
  simp only [contribution_readingAt]

/-- The constants of a register table are identifiers and clash only where they must. Let the
components of each definition of a table be ASCII. A header made from the table is what its
lines contribute, in order, and each definition contributes its constant, a comma and a line
feed. The constant is the prefix and at least one character more, all of them capital letters,
digits or underscores. Two definitions have one constant exactly if their components, with an
underscore for each full stop, are the same but for the case of letters. -/
theorem constants_are_identifiers {table : Text}
    (ascii : ∀ line ∈ table.lines, ∀ components, definition? settings line = some components →
      IsAscii components) :
    (∀ policy path header, (scan settings policy path table).outcome.result = .ok header →
      header = table.lines.zipIdx.flatMap fun pair =>
        contribution settings table.lines pair.2 pair.1) ∧
    (∀ line ∈ table.lines, ∀ components, definition? settings line = some components →
      ∃ name, constant settings.constantPrefix components = settings.constantPrefix ++ name ∧
        (∀ index, contribution settings table.lines index line =
          settings.constantPrefix ++ name ++ [',', '\n']) ∧
        name ≠ [] ∧ ∀ character ∈ name, IsConstantCharacter character) ∧
    (∀ line ∈ table.lines, ∀ components, definition? settings line = some components →
      ∀ line' ∈ table.lines, ∀ components', definition? settings line' = some components' →
        (constant settings.constantPrefix components =
            constant settings.constantPrefix components' ↔
          SameButCase (underscored components) (underscored components'))) := by
  refine ⟨fun _ _ _ => header_eq_of_scan, ?_, ?_⟩
  · intro line member components defined
    have plain := ascii line member components defined
    exact ⟨Text.upperCase (underscored components), constant_eq _ _,
      fun index => contribution_of_definition? defined,
      upperCase_underscored_ne_nil (ne_nil_of_definition? defined) plain,
      fun _ => isConstantCharacter_of_mem (consistsOf_of_definition? defined) plain⟩
  · intro line member components defined line' member' components' defined'
    have plain := isAscii_underscored (ascii line member components defined)
    have plain' := isAscii_underscored (ascii line' member' components' defined')
    rw [constant_eq, constant_eq, List.append_cancel_left_eq,
      Text.upperCase_eq_upperCase_iff plain plain']

/-- Three definitions, of which the first two clash, though their components end in different
places, and the third does not clash with them, since no separator is dropped. -/
theorem constants_are_identifiers_clash :
    let table : Text := "REG_DEF(a.b, _c, )\n#if A\nREG_DEF(A_, B.C, )\nREG_DEF(ab, c, )\n"
    (∀ line ∈ table.lines, ∀ components, definition? {} line = some components →
      IsAscii components) ∧
    table.lines.filterMap (definition? {}) =
      ["a.b_c".toList, "A_B.C".toList, "abc".toList] ∧
    constant "ID_" "a.b_c" = constant "ID_" "A_B.C" ∧
    constant "ID_" "a.b_c" ≠ constant "ID_" "abc" := by
  intro table
  have definitions : table.lines.filterMap (definition? {}) =
      ["a.b_c".toList, "A_B.C".toList, "abc".toList] := by
    decide +kernel
  have ascii : ∀ line ∈ table.lines, ∀ components, definition? {} line = some components →
      IsAscii components := by
    intro line member components defined
    have listed : components ∈ table.lines.filterMap (definition? {}) :=
      List.mem_filterMap.mpr ⟨line, member, defined⟩
    have plain : ∀ one ∈ ["a.b_c".toList, "A_B.C".toList, "abc".toList], IsAscii one := by decide
    rw [definitions] at listed
    exact plain components listed
  obtain ⟨-, -, clash⟩ := constants_are_identifiers ascii
  have first : definition? {} "REG_DEF(a.b, _c, )" = some "a.b_c".toList := by decide +kernel
  have second : definition? {} "REG_DEF(A_, B.C, )" = some "A_B.C".toList := by decide +kernel
  have third : definition? {} "REG_DEF(ab, c, )" = some "abc".toList := by decide +kernel
  refine ⟨ascii, definitions, ?_, ?_⟩
  · exact (clash _ (by decide) _ first _ (by decide) _ second).mpr (by decide)
  · exact fun same => absurd ((clash _ (by decide) _ first _ (by decide) _ third).mp same)
      (by decide)

/-- Outside ASCII, components that differ in more than case can have one constant. -/
example : constant "ID_" "straße" = constant "ID_" "strasse" := by decide +kernel

end Prebuild.RegisterHeader
