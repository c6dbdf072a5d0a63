/-
This file proves what the name of an entry says about the path that leads to it. Joined
to a directory, the name is the last part of the path, and the step to it is the last
step.

Names are bytes, and what the generators ask of a name they ask of its text. Both agree
where it matters: the slash and the full stop are bytes of their own in the form of a
text, so a text is cut at them where its form is.
-/

import Prebuild.Proofs.Parent
import Prebuild.Proofs.Text.Bytes
import Prebuild.Proofs.Text.Greedy

namespace Prebuild.Path

/-- Bytes that an entry of a directory can have as their name. -/
structure IsName (name : Name) : Prop where
  nonempty : name ≠ []
  slashFree : slash ∉ name
  notDot : name ≠ [dot]
  notDots : name ≠ [dot, dot]

instance (name : Name) : Decidable (IsName name) :=
  decidable_of_iff (name ≠ [] ∧ slash ∉ name ∧ name ≠ [dot] ∧ name ≠ [dot, dot])
    ⟨fun ⟨nonempty, slashFree, notDot, notDots⟩ => ⟨nonempty, slashFree, notDot, notDots⟩,
      fun isName => ⟨isName.nonempty, isName.slashFree, isName.notDot, isName.notDots⟩⟩

/-! ### Joining relative paths -/

theorem isAbsolute_eq_false_of_not_mem {bytes : Bytes} (slashFree : slash ∉ bytes) :
    isAbsolute ⟨bytes⟩ = false := by
  refine beq_eq_false_iff_ne.mpr fun begins => slashFree ?_
  exact List.mem_of_head? begins

theorem IsName.relative {name : Name} (isName : IsName name) : isAbsolute ⟨name⟩ = false :=
  isAbsolute_eq_false_of_not_mem isName.slashFree

/-- What comes before a relative path that is joined to a base. -/
def lead (base : Path) : Bytes :=
  if base.bytes.isEmpty || base.endsInSlash then base.bytes else base.bytes ++ [slash]

theorem join_relative (base : Path) {path : Path} (relative : path.isAbsolute = false) :
    base.join path = ⟨base.lead ++ path.bytes⟩ := by
  rw [join, lead, if_neg (by rw [relative]; exact Bool.false_ne_true)]
  split
  · rfl
  · rw [List.append_assoc]
    rfl

theorem isAbsolute_join (base : Path) {path : Path} (relative : path.isAbsolute = false) :
    (base.join path).isAbsolute = base.isAbsolute := by
  obtain ⟨bytes⟩ := base
  rw [join_relative _ relative]
  cases bytes with
  | nil => exact relative
  | cons first rest =>
    rw [lead]
    split <;> rfl

theorem lead_lead (base : Path) : lead ⟨base.lead⟩ = base.lead := by
  refine if_pos ?_
  rw [lead]
  split
  · assumption
  · simp [endsInSlash]

theorem lead_append (start : Bytes) {path : Path} (nonempty : path.bytes ≠ []) :
    lead ⟨start ++ path.bytes⟩ = start ++ path.lead := by
  have last : (Path.mk (start ++ path.bytes)).endsInSlash = path.endsInSlash := by
    rw [endsInSlash, endsInSlash, List.getLast?_append,
      List.getLast?_eq_some_getLast nonempty, Option.some_or]
  have empty : (start ++ path.bytes).isEmpty = path.bytes.isEmpty := by
    simp [List.isEmpty_eq_false_iff.mpr nonempty, nonempty]
  rw [lead, lead, last, empty]
  split
  · rfl
  · exact List.append_assoc start path.bytes [slash]

/-- It does not matter how three paths are grouped. -/
theorem join_assoc (base middle path : Path) :
    base.join (middle.join path) = (base.join middle).join path := by
  cases absolute : path.isAbsolute with
  | true => rw [join_absolute _ _ absolute, join_absolute _ _ absolute, join_absolute _ _ absolute]
  | false =>
    have inside := isAbsolute_join middle absolute
    cases above : middle.isAbsolute with
    | true => rw [join_absolute _ _ (inside.trans above), join_absolute _ _ above]
    | false =>
      have grouped : base.lead ++ middle.lead = lead ⟨base.lead ++ middle.bytes⟩ := by
        by_cases empty : middle.bytes = []
        · have bare : middle.lead = [] := by simp [lead, empty]
          rw [bare, empty, List.append_nil, lead_lead]
        · rw [lead_append _ empty]
      rw [join_relative base (inside.trans above), join_relative middle absolute,
        join_relative base above, join_relative _ absolute, ← List.append_assoc, grouped]

/-- The parts of what is joined to a base are those before it and its own. -/
theorem exists_splitAt_lead (base : Path) : ∃ front : List Bytes, stepsOf front = base.steps ∧
    ∀ bytes, Text.splitAt slash (base.lead ++ bytes) = front ++ Text.splitAt slash bytes := by
  obtain ⟨whole⟩ := base
  unfold lead
  split
  · rename_i closed
    rcases Bool.or_eq_true_iff.mp closed with empty | slashed
    · obtain rfl : whole = [] := List.isEmpty_iff.mp empty
      exact ⟨[], rfl, fun bytes => rfl⟩
    · obtain ⟨start, rfl⟩ := List.getLast?_eq_some_iff.mp (beq_iff_eq.mp slashed)
      refine ⟨Text.splitAt slash start, ?_, fun bytes => ?_⟩
      · rw [steps_eq_stepsOf, Text.splitAt_append_cons, stepsOf_append]
        exact (List.append_nil _).symm
      · rw [List.append_assoc]
        exact Text.splitAt_append_cons start bytes
  · refine ⟨Text.splitAt slash whole, rfl, fun bytes => ?_⟩
    rw [List.append_assoc]
    exact Text.splitAt_append_cons whole bytes

/-- What is joined to a base asks for the steps of the base and then for its own. -/
theorem steps_join (base : Path) {path : Path} (relative : path.isAbsolute = false) :
    (base.join path).steps = base.steps ++ path.steps := by
  obtain ⟨front, steps, parts⟩ := exists_splitAt_lead base
  rw [join_relative base relative, steps_eq_stepsOf, parts, stepsOf_append, steps]
  rfl

/-- The steps of a path without those that stay. -/
def moves (path : Path) : List Step := path.steps.filter (· ≠ .stay)

theorem moves_of_steps {path : Path} {step : Step} {rest : List Step}
    (steps : path.steps = step :: rest) (moves : step ≠ .stay) :
    path.moves = step :: rest.filter (· ≠ .stay) := by
  rw [Path.moves, steps]
  exact List.filter_cons_of_pos (decide_eq_true moves)

theorem moves_join (base : Path) {path : Path} (relative : path.isAbsolute = false) :
    (base.join path).moves = base.moves ++ path.moves := by
  rw [moves, steps_join base relative, List.filter_append]
  rfl

/-! ### The last part -/

theorem IsName.isIdle {name : Name} (isName : IsName name) : isIdle name = false :=
  Bool.or_eq_false_iff.mpr ⟨List.isEmpty_eq_false_iff.mpr isName.nonempty,
    beq_eq_false_iff_ne.mpr isName.notDot⟩

/-- A name asks for the step to it. -/
theorem steps_of_isName {name : Name} (isName : IsName name) :
    (Path.mk name).steps = [.name name] := by
  rw [steps_eq_stepsOf, Text.splitAt_of_not_mem isName.slashFree, stepsOf_cons isName.nonempty,
    Step.ofPart, if_neg (fun same => isName.notDot (beq_iff_eq.mp same)),
    if_neg (fun same => isName.notDots (beq_iff_eq.mp same))]
  rfl

theorem steps_join_name (base : Path) {name : Name} (isName : IsName name) :
    (base.join ⟨name⟩).steps = base.steps ++ [.name name] := by
  rw [steps_join base isName.relative, steps_of_isName isName]

theorem dropIdleEnd_concat {last : Bytes} (busy : isIdle last = false) (front : List Bytes) :
    dropIdleEnd (front ++ [last]) = front ++ [last] := by
  rw [dropIdleEnd, List.reverse_append, List.reverse_singleton, List.singleton_append,
    List.dropWhile_cons_of_neg (by rw [busy]; exact Bool.false_ne_true)]
  simp

/-- A name that was joined to a directory is the last part of the path. -/
theorem fileName?_join (base : Path) {name : Name} (isName : IsName name) :
    (base.join ⟨name⟩).fileName? = some name := by
  obtain ⟨front, -, parts⟩ := exists_splitAt_lead base
  have last : (dropIdleEnd (front ++ [name])).getLast? = some name := by
    rw [dropIdleEnd_concat isName.isIdle, List.getLast?_concat]
  rw [join_relative base isName.relative, fileName?, parts,
    Text.splitAt_of_not_mem isName.slashFree, last]
  exact if_neg fun same => isName.notDots (beq_iff_eq.mp same)

/-- Different parts ask for different steps. -/
theorem Step.ofPart_inj {first second : Bytes} (same : Step.ofPart first = Step.ofPart second) :
    first = second := by
  unfold Step.ofPart at same
  simp only [beq_iff_eq] at same
  split at same <;> split at same <;> grind

/-! ### The directory of a name -/

/-- Parts that ask for a step which does not stay are not all idle. -/
theorem dropIdleEnd_ne_nil {parts : List Bytes} {step : Step} (member : step ∈ stepsOf parts)
    (moves : step ≠ .stay) : dropIdleEnd parts ≠ [] := by
  intro allIdle
  obtain ⟨idle, whole, isIdle⟩ := dropIdleEnd_append parts
  rw [allIdle, List.nil_append] at whole
  rw [whole] at member
  exact moves (allStay_stepsOf isIdle step member)

theorem joinWith_dropIdleEnd_ne_nil {parts : List Bytes} (free : ∀ part ∈ parts, slash ∉ part)
    (busy : dropIdleEnd parts ≠ []) : Text.joinWith [slash] (dropIdleEnd parts) ≠ [] := by
  intro empty
  have again := Text.splitAt_joinWith busy fun part member =>
    free part (mem_of_mem_dropIdleEnd member)
  rw [empty] at again
  have last := isIdle_of_dropIdleEnd_eq (again.symm.trans (List.nil_append _).symm : _ = [] ++ [[]])
  cases last

/-- A path that is a name in a directory has a parent. The directory is not the one that the path
starts from. -/
theorem exists_parent? {base : Path} {name : Name} (isName : IsName name) {step : Step}
    (member : step ∈ base.steps) (moves : step ≠ .stay) :
    ∃ parent, (base.join ⟨name⟩).parent? = some parent ∧ parent.bytes ≠ [] := by
  obtain ⟨pieces, steps, parts⟩ := exists_splitAt_lead base
  have split : Text.splitAt slash (base.join ⟨name⟩).bytes = pieces ++ [name] := by
    rw [join_relative base isName.relative, parts, Text.splitAt_of_not_mem isName.slashFree]
  have free : ∀ part ∈ pieces, slash ∉ part := fun part inside =>
    Text.not_mem_of_mem_splitAt (split ▸ List.mem_append_left [name] inside)
  rw [← steps] at member
  unfold parent?
  split
  · have nonempty : pieces ≠ [] := by
      rintro rfl
      cases member
    rw [split, List.tail_append_of_ne_nil nonempty, dropIdleEnd_concat isName.isIdle]
    split
    · rename_i impossible
      exact absurd impossible (List.append_ne_nil_of_right_ne_nil _ (List.cons_ne_nil _ _))
    · exact ⟨_, rfl, List.cons_ne_nil _ _⟩
  · rw [split, dropIdleEnd_concat isName.isIdle]
    split
    · rename_i impossible
      exact absurd impossible (List.append_ne_nil_of_right_ne_nil _ (List.cons_ne_nil _ _))
    · refine ⟨_, rfl, ?_⟩
      have busy := dropIdleEnd_ne_nil member moves
      rw [List.dropLast_concat]
      unfold ofLeadingParts
      split
      · rename_i allIdle
        exact absurd allIdle busy
      · exact joinWith_dropIdleEnd_ne_nil free busy

/-- The parent of a name in a directory takes the steps to the directory. -/
theorem exists_parent?_steps {base : Path} {name : Name} (isName : IsName name)
    {front : List Step} {step : Step} (steps : base.steps = front ++ [step])
    (moves : step ≠ .stay) :
    ∃ parent, (base.join ⟨name⟩).parent? = some parent ∧ parent.bytes ≠ [] ∧
      parent.steps = base.steps ∧ LiesIn (base.join ⟨name⟩) parent := by
  have member : step ∈ base.steps := steps ▸ List.mem_append_right _ List.mem_cons_self
  obtain ⟨parent, found, named⟩ := exists_parent? isName member moves
  have lies := liesIn_of_parent? named found
  refine ⟨parent, found, named, ?_, lies⟩
  obtain ⟨between, last, after, whole, betweenStays, -, afterStays⟩ := lies.steps
  rw [steps_join_name base isName] at whole
  rcases List.eq_nil_or_concat after with rfl | ⟨others, final, rfl⟩
  · have leading := (List.append_inj' whole rfl).1
    rcases List.eq_nil_or_concat between with rfl | ⟨others, final, rfl⟩
    · rw [leading, List.append_nil]
    · rw [steps, List.concat_eq_append, ← List.append_assoc] at leading
      obtain rfl := List.singleton_inj.mp (List.append_inj' leading rfl).2
      exact absurd (betweenStays step (by simp)) moves
  · rw [List.concat_eq_append, ← List.cons_append, ← List.append_assoc] at whole
    have same := List.singleton_inj.mp (List.append_inj' whole rfl).2
    rw [← same] at afterStays
    cases afterStays (.name name) (by simp)

/-! ### Texts in paths -/

theorem slash_mem_bytes_iff {text : Text} : slash ∈ text.bytes ↔ '/' ∈ text :=
  Text.mem_bytes_iff (show '/'.toNat < 128 by decide)

theorem bytes_append_dot (start rest : Text) :
    (start ++ '.' :: rest).bytes = start.bytes ++ dot :: rest.bytes :=
  Text.bytes_append_cons (show '.'.toNat < 128 by decide) start rest

theorem stemOf_bytes (name : Text) : stemOf name.bytes = Text.bytes (Text.beforeLast '.' name) :=
  Text.beforeLast_bytes (show '.'.toNat < 128 by decide) name

theorem nameText?_eq_some_iff {path : Path} {text : Text} :
    path.nameText? = some text ↔ path.fileName? = some text.bytes := by
  rw [nameText?, Option.bind_eq_some_iff]
  simp only [Bytes.text?_eq_some_iff, exists_eq_right]

/-- A name has an extension if it is a text that ends in a full stop and the extension. -/
theorem nameHasExtension_iff {extension : Text} {name : Name} :
    nameHasExtension extension name = true ↔
      ∃ start : Text, name = (start ++ '.' :: extension).bytes := by
  rw [nameHasExtension]
  constructor
  · intro extended
    split at extended
    · rename_i text isText
      split at extended
      · rename_i stem found
        obtain ⟨start, rfl⟩ := List.getLast?_eq_some_iff.mp (beq_iff_eq.mp extended)
        refine ⟨start, ?_⟩
        rw [Bytes.text?_eq_some_iff.mp isText, Text.beforeEnd?_eq_some_iff.mp found,
          List.append_assoc]
        rfl
      · cases extended
    · cases extended
  · rintro ⟨start, rfl⟩
    have cut : Text.beforeEnd? extension (start ++ '.' :: extension) = some (start ++ ['.']) :=
      Text.beforeEnd?_eq_some_iff.mpr (List.append_cons start '.' extension)
    simp [cut]

end Prebuild.Path
