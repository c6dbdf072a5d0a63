/-
This file says when a name can be written in a directory on a disk that holds no links, and
exactly what that does.

The directory is there or is missing, in which case it is made first, as long as the one above
is there. Whatever else the disk holds, the two places of the name and of its directory are all
that changes.
-/

import Prebuild.Proofs.Disk.Growth

namespace Prebuild.Disk

open Prebuild.Path (Step endOf)

variable {disk : Disk} {purpose : Purpose} {slashed : Bool}
  {cross : Crossing → Except Fault Arrival}

/-! ### Walks to a vacancy -/

/-- A walk goes on from a directory to which the first of its steps lead on an open way. -/
theorem walkSteps_append {first second : List Step} {start : Location}
    (way : disk.Open first start) (inside : disk.look (endOf first start) = some .directory)
    (further : second ≠ []) :
    disk.walkSteps purpose slashed cross (first ++ second) start =
      disk.walkSteps purpose slashed cross second (endOf first start) := by
  induction first generalizing start with
  | nil => rfl
  | cons step rest inductionHypothesis =>
    obtain ⟨here, fits, onward⟩ := way
    have continued := inductionHypothesis onward inside
    have next : disk.look (step.next start) = some .directory := by
      cases rest with
      | nil => exact inside
      | cons second others => exact onward.1
    have unfinished : (rest ++ second).isEmpty = false :=
      List.isEmpty_eq_false_iff.mpr (List.append_ne_nil_of_right_ne_nil rest further)
    rw [List.cons_append, walkSteps_cons_look, here]
    cases step with
    | stay => exact continued
    | up => exact continued
    | name part =>
      dsimp only
      rw [show disk.look (start ++ [part]) = some .directory from next, unfinished,
        if_neg (Nat.not_lt.mpr fits)]
      exact continued

/-- Where the last name of an open way is missing, there is a vacancy. -/
theorem arrive_of_vacant {path : Path} {front : List Step} {name : Name}
    (allowed : purpose = .write → path.endsInSlash = false) (opens : disk.Opens path)
    (steps : path.steps = front ++ [.name name])
    (missing : disk.look (disk.placeOf path) = none) :
    disk.arrive purpose path =
      .ok ⟨.vacant (endOf front (startOf path disk.here)) name, path.endsInSlash⟩ := by
  obtain ⟨cross, walk⟩ := arrive_eq_walkSteps disk purpose opens.noNul opens.nonempty opens.short
  have way := opens.way
  rw [steps, open_append] at way
  obtain ⟨onward, inside, fits, -⟩ := way
  rw [placeOf, steps, Path.endOf_append] at missing
  have refused : ¬(true && path.endsInSlash && decide (purpose = .write)) = true := by
    intro refused
    rw [Bool.and_eq_true, Bool.true_and, decide_eq_true_iff] at refused
    rw [allowed refused.2] at refused
    exact Bool.false_ne_true refused.1
  rw [walk, steps, walkSteps_append onward inside (List.cons_ne_nil _ _), walkSteps_cons_look,
    inside]
  dsimp only [List.isEmpty_nil]
  rw [if_neg refused, if_neg (Nat.not_lt.mpr fits),
    show disk.look (_ ++ [name]) = none from missing]
  rfl

/-! ### Names in a directory -/

variable {base : Path} {name : Name}

theorem placeOf_join_name (disk : Disk) (base : Path) (isName : Path.IsName name) :
    disk.placeOf (base.join ⟨name⟩) = disk.placeOf base ++ [name] := by
  rw [placeOf_join disk base isName.relative, Path.steps_of_isName isName]
  rfl

theorem endsInSlash_join_name (base : Path) (isName : Path.IsName name) :
    (base.join ⟨name⟩).endsInSlash = false := by
  rw [Path.join_relative base isName.relative, Path.endsInSlash, List.getLast?_append,
    List.getLast?_eq_some_getLast isName.nonempty, Option.some_or, beq_eq_false_iff_ne]
  exact fun slash => isName.slashFree (Option.some.inj slash ▸ List.getLast_mem isName.nonempty)

/-- A name can be written in a directory: its path is one that a file can have, the directory is
there or missing, and the name is not that of a directory. -/
structure Admits (disk : Disk) (base : Path) (name : Name) : Prop where
  noNul : (base.join ⟨name⟩).bytes.contains 0 = false
  short : (base.join ⟨name⟩).bytes.length ≤ longestPath
  fits : name.length ≤ longestName
  parent : disk.look (disk.placeOf base) = none ∨
    disk.look (disk.placeOf base) = some .directory
  free : disk.look (disk.placeOf base ++ [name]) ≠ some .directory

/-- A path to a name is open if the way to its directory is, and that is there. -/
theorem opens_join_name (isName : Path.IsName name)
    (noNul : (base.join ⟨name⟩).bytes.contains 0 = false)
    (short : (base.join ⟨name⟩).bytes.length ≤ longestPath)
    (fits : name.length ≤ longestName)
    (way : disk.Open base.steps (startOf base disk.here))
    (inside : disk.look (disk.placeOf base) = some .directory) :
    disk.Opens (base.join ⟨name⟩) := by
  refine ⟨noNul, ?_, short, ?_⟩
  · rw [Path.join_relative base isName.relative]
    exact List.append_ne_nil_of_right_ne_nil _ isName.nonempty
  · rw [open_join_iff base isName.relative, Path.steps_of_isName isName]
    exact ⟨way, inside, fits, trivial⟩

theorem Admits.opens (admits : disk.Admits base name) (isName : Path.IsName name)
    (way : disk.Open base.steps (startOf base disk.here))
    (inside : disk.look (disk.placeOf base) = some .directory) :
    disk.Opens (base.join ⟨name⟩) :=
  opens_join_name isName admits.noNul admits.short admits.fits way inside

/-- Writing a name where its directory is there puts it there, and does nothing else. -/
theorem writeBytes_of_admits (plain : disk.IsPlain) (admits : disk.Admits base name)
    (isName : Path.IsName name) (way : disk.Open base.steps (startOf base disk.here))
    (inside : disk.look (disk.placeOf base) = some .directory) (bytes : ByteArray) :
    ∃ after, disk.writeBytes (base.join ⟨name⟩) bytes = .ok after ∧ after.here = disk.here ∧
      ∀ location, after.look location =
        if location = disk.placeOf base ++ [name] then some (.file bytes)
        else disk.look location := by
  have opens := admits.opens isName way inside
  have place := placeOf_join_name disk base isName
  have slashless := endsInSlash_join_name base isName
  refine ⟨disk.set (disk.placeOf base ++ [name]) (.file bytes), ?_, rfl, ?_⟩
  · cases there : disk.get? (disk.placeOf base ++ [name]) with
    | none =>
      have missing : disk.look (disk.placeOf (base.join ⟨name⟩)) = none := by
        rw [place, look_eq_map_get?, there]
        rfl
      rw [writeBytes, arrive_of_vacant (fun _ => slashless) opens
        (Path.steps_join_name base isName) missing, startOf_join base isName.relative]
      rfl
    | some node =>
      rw [writeBytes, arrive_of_opens plain (fun _ => slashless) opens (place ▸ there), place]
      cases node with
      | file others => rfl
      | directory entries => exact absurd (look_of_get? there) admits.free
      | link target => exact absurd there (look_of_noLink plain)
  · refine look_set inside (Node.isLeaf_file bytes) fun old there => ?_
    cases old with
    | file others => exact Node.isLeaf_file others
    | directory entries => exact absurd (look_of_get? there) admits.free
    | link target => exact absurd there (look_of_noLink plain)

/-! ### Missing directories -/

/-- A missing directory is made for a name in it, and none else is. -/
theorem makeParent_of_missing (admits : disk.Admits base name) (isName : Path.IsName name)
    {front : List Step} {last : Name} (steps : base.steps = front ++ [.name last])
    (way : disk.Open base.steps (startOf base disk.here))
    (missing : disk.look (disk.placeOf base) = none) :
    ∃ made, disk.makeParent (base.join ⟨name⟩) = (.ok (), made) ∧ made.here = disk.here ∧
      ∀ location, made.look location =
        if location = disk.placeOf base then some .directory else disk.look location := by
  obtain ⟨parent, found, named, same, lies⟩ :=
    Path.exists_parent?_steps isName steps (fun stays => Step.noConfusion stays)
  have start : startOf parent disk.here = startOf base disk.here := by
    rw [startOf, startOf, ← lies.absolute, Path.isAbsolute_join base isName.relative]
  have place : disk.placeOf parent = disk.placeOf base := by
    rw [placeOf, placeOf, same, start]
  have split : disk.placeOf base = endOf front (startOf base disk.here) ++ [last] := by
    rw [placeOf, steps, Path.endOf_append]
    rfl
  have opens : disk.Opens parent := by
    refine ⟨noNul_of_liesIn lies admits.noNul, named,
      Nat.le_trans (lies.bytes.length_le) admits.short, ?_⟩
    rw [same, start]
    exact way
  have inside : disk.look (endOf front (startOf base disk.here)) = some .directory := by
    rw [steps, open_append] at way
    exact way.2.1
  have vacant : disk.get? (disk.placeOf base) = none := by
    rwa [look_eq_map_get?, Option.map_eq_none_iff] at missing
  refine ⟨disk.set (disk.placeOf base) (.directory []), ?_, rfl, ?_⟩
  · rw [makeParent, found]
    dsimp only
    rw [Path.ancestors, Path.ancestorsUpTo, makeDirectories,
      if_neg fun empty => named (List.isEmpty_iff.mp empty), makeDirectory,
      arrive_of_vacant (fun impossible => by cases impossible) opens (same.trans steps)
        (by rw [place, missing]), start, split]
  · rw [split] at vacant ⊢
    refine look_set inside Node.isLeaf_emptyDirectory fun old there => ?_
    rw [vacant] at there
    cases there

/-! ### Artifacts -/

variable {root : Path} {artifact : Artifact}

/-- Writing an artifact as a name in a directory that admits it succeeds. The file is there
afterwards and so is the directory, and nothing else has changed. -/
theorem write_of_admits (plain : disk.IsPlain) (admits : disk.Admits base name)
    (isName : Path.IsName name) (path : root.join artifact.path = base.join ⟨name⟩)
    (way : disk.Open base.steps (startOf base disk.here))
    (ends : disk.look (disk.placeOf base) = none →
      ∃ front last, base.steps = front ++ [.name last]) :
    ∃ after, disk.write root artifact = (.ok (), after) ∧ after.here = disk.here ∧
      ∀ location, after.look location =
        if location = disk.placeOf base ++ [name] then
          some (.file (Text.toBytes artifact.contents))
        else if location = disk.placeOf base then some .directory
        else disk.look location := by
  rw [write, path]
  rcases admits.parent with missing | there
  · obtain ⟨front, last, steps⟩ := ends missing
    obtain ⟨made, parents, here, look⟩ := makeParent_of_missing admits isName steps way missing
    have plainMade : made.IsPlain := by
      have gains := makeParent_gains disk (base.join ⟨name⟩)
      rw [parents] at gains
      exact gains.grows.isPlain plain
    have place : made.placeOf base = disk.placeOf base := by rw [placeOf, placeOf, here]
    have inside : made.look (made.placeOf base) = some .directory := by
      rw [place, look, if_pos rfl]
    have free : made.look (made.placeOf base ++ [name]) ≠ some .directory := by
      rw [place, look, if_neg (by simp)]
      exact admits.free
    have wayMade : made.Open base.steps (startOf base made.here) := by
      rw [here]
      refine way.mono fun location found => ?_
      rw [look, found, ite_self]
    obtain ⟨after, written, hereAfter, lookAfter⟩ := writeBytes_of_admits plainMade
      ⟨admits.noNul, admits.short, admits.fits, .inr inside, free⟩ isName wayMade inside
      (Text.toBytes artifact.contents)
    refine ⟨after, ?_, hereAfter.trans here, fun location => ?_⟩
    · rw [parents]
      dsimp only
      rw [written]
    · rw [lookAfter, look, place]
  · obtain ⟨after, written, hereAfter, lookAfter⟩ := writeBytes_of_admits plain admits isName way
      there (Text.toBytes artifact.contents)
    refine ⟨after, ?_, hereAfter, fun location => ?_⟩
    · rw [makeParent_of_opens plain (admits.opens isName way there)]
      dsimp only
      rw [written]
    · rw [lookAfter]
      by_cases same : location = disk.placeOf base
      · rw [if_pos same, same, there]
      · rw [if_neg same]

/-- Where an artifact has been written as a name in a directory, that admits it. -/
theorem admits_of_write (plain : disk.IsPlain) {after : Disk} (isName : Path.IsName name)
    (path : root.join artifact.path = base.join ⟨name⟩)
    (written : disk.write root artifact = (.ok (), after)) : disk.Admits base name := by
  obtain ⟨growth, found⟩ := write_ok plain written
  rw [path, placeOf_join_name disk base isName] at growth found
  obtain ⟨opens, -, there, -⟩ := (find_eq_ok_iff (growth.isPlain plain)).mp found
  have way := opens.way
  rw [open_join_iff base isName.relative, Path.steps_of_isName isName] at way
  have inside : after.look (after.placeOf base) = some .directory := way.2.1
  rw [growth.placeOf_eq] at inside
  refine ⟨opens.noNul, opens.short, way.2.2.1, ?_, fun taken => ?_⟩
  · cases parent : disk.look (disk.placeOf base) with
    | none => exact .inl rfl
    | some kind =>
      cases kind with
      | directory => exact .inr rfl
      | link target => exact absurd parent (plain.noLink _ target)
      | file bytes =>
        obtain ⟨others, still⟩ := growth.kept _ bytes parent
        rw [inside] at still
        cases still
  · have still := growth.directories _ taken
    rw [look_of_get? there] at still
    cases still

end Prebuild.Disk
