/-
This file follows paths through a disk that holds no links. There the place that a
path leads to can be read off its steps, whatever the disk holds. What the disk
decides is whether the way is open, that is whether each step starts at a directory,
and what there is at the end of it.
-/

import Prebuild.Disk.Walk
import Prebuild.Proofs.Disk.View
import Prebuild.Proofs.FileName

namespace Prebuild

/-! ### Disks without links -/

namespace Node

/-- No place below the node holds a link. -/
def IsPlain (node : Node) : Prop := ∀ location target, node.look location ≠ some (.link target)

theorem isPlain_file (bytes : ByteArray) : (file bytes).IsPlain := by
  intro location target found
  cases location <;> cases found

theorem isPlain_directory {entries : Listing} (plain : ∀ entry ∈ entries, entry.2.IsPlain) :
    (directory entries).IsPlain := by
  intro location target found
  cases location with
  | nil => cases found
  | cons name location =>
    rw [look, get?_cons, Option.map_eq_some_iff] at found
    obtain ⟨node, reached, kind⟩ := found
    obtain ⟨child, named, below⟩ := Option.bind_eq_some_iff.mp reached
    obtain ⟨entry, first, rfl⟩ := Option.map_eq_some_iff.mp named
    exact plain entry (List.mem_of_find?_eq_some first) location target
      (Option.map_eq_some_iff.mpr ⟨node, below, kind⟩)

mutual

/-- Whether there is no link among a node and all that lies below it. -/
def holdsNoLink : Node → Bool
  | file _ => true
  | directory entries => noneHoldsLink entries
  | link _ => false

/-- Whether there is no link in what lies in a directory. -/
def noneHoldsLink : List (Name × Node) → Bool
  | [] => true
  | entry :: entries => entryHoldsNoLink entry && noneHoldsLink entries

/-- Whether there is no link in what has a name. -/
def entryHoldsNoLink : Name × Node → Bool
  | (_, node) => node.holdsNoLink

end

mutual

/-- A node in which no link is found holds none. -/
theorem isPlain_of_holdsNoLink : (node : Node) → node.holdsNoLink = true → node.IsPlain
  | file bytes, _ => isPlain_file bytes
  | directory entries, checked => isPlain_directory (isPlain_of_noneHoldsLink entries checked)

theorem isPlain_of_noneHoldsLink :
    (entries : List (Name × Node)) → noneHoldsLink entries = true →
      ∀ entry ∈ entries, entry.2.IsPlain
  | [], _ => nofun
  | entry :: entries, checked =>
    List.forall_mem_cons.mpr
      ⟨isPlain_of_entryHoldsNoLink entry (Bool.and_eq_true_iff.mp checked).1,
        isPlain_of_noneHoldsLink entries (Bool.and_eq_true_iff.mp checked).2⟩

theorem isPlain_of_entryHoldsNoLink :
    (entry : Name × Node) → entryHoldsNoLink entry = true → entry.2.IsPlain
  | (_, node), checked => isPlain_of_holdsNoLink node checked

end

/-- The directory that a directory lies in is one. -/
theorem look_dropLast {node : Node} {location : Location}
    (found : node.look location = some .directory) :
    node.look location.dropLast = some .directory := by
  rcases List.eq_nil_or_concat location with rfl | ⟨front, last, rfl⟩
  · exact found
  · obtain ⟨entries, here⟩ := exists_directory_of_look found
    rw [List.concat_eq_append] at here ⊢
    rw [List.dropLast_concat]
    exact look_of_append here

end Node

/-- A disk of directories and files alone: it starts with a directory and holds no link. -/
structure Disk.IsPlain (disk : Disk) : Prop where
  top : disk.look [] = some .directory
  noLink : disk.top.IsPlain

theorem Disk.isPlain_of_holdsNoLink {disk : Disk} (top : disk.look [] = some .directory)
    (checked : disk.top.holdsNoLink = true) : disk.IsPlain :=
  ⟨top, Node.isPlain_of_holdsNoLink disk.top checked⟩

/-! ### Steps -/

namespace Path.Step

/-- The place that a step leads to. -/
def next : Step → Location → Location
  | .stay, location => location
  | .up, location => location.dropLast
  | .name part, location => location ++ [part]

/-- Different parts lead from one place to different places, unless one of them stays. -/
theorem next_ofPart_inj {first second : Bytes} {location : Location}
    (firstMoves : first ≠ [dot]) (secondMoves : second ≠ [dot])
    (same : (ofPart first).next location = (ofPart second).next location) :
    first = second := by
  have unlike (part : Bytes) : location.dropLast ≠ location ++ [part] := by
    intro equal
    have lengths := congrArg List.length equal
    simp only [List.length_dropLast, List.length_append, List.length_singleton] at lengths
    omega
  simp only [ofPart, beq_iff_eq, if_neg firstMoves, if_neg secondMoves] at same
  split at same <;> split at same
  · rename_i firstUp secondUp
    exact firstUp.trans secondUp.symm
  · exact absurd same (unlike second)
  · exact absurd same.symm (unlike first)
  · exact List.singleton_inj.mp (List.append_cancel_left same)

/-- A step asks for no name that is too long. -/
def Fits : Step → Prop
  | .name part => part.length ≤ Disk.longestName
  | _ => True

end Path.Step

namespace Path

/-- The place that steps lead to. -/
def endOf : List Step → Location → Location
  | [], location => location
  | step :: rest, location => endOf rest (step.next location)

theorem endOf_append (first second : List Step) (location : Location) :
    endOf (first ++ second) location = endOf second (endOf first location) := by
  induction first generalizing location with
  | nil => rfl
  | cons step first inductionHypothesis => exact inductionHypothesis _

/-- Steps that never go up lead below the place that they start from, by names that do not depend
on it. -/
theorem exists_endOf_of_up_not_mem {steps : List Step} (down : .up ∉ steps) :
    ∃ names, ∀ location, endOf steps location = location ++ names := by
  induction steps with
  | nil => exact ⟨[], fun location => (List.append_nil location).symm⟩
  | cons step rest inductionHypothesis =>
    obtain ⟨notUp, further⟩ := not_or.mp fun up => down (List.mem_cons.mpr up)
    obtain ⟨names, below⟩ := inductionHypothesis further
    cases step with
    | stay => exact ⟨names, below⟩
    | up => exact absurd rfl notUp
    | name part =>
      refine ⟨part :: names, fun location => ?_⟩
      rw [endOf, below, Step.next, List.append_assoc]
      rfl

end Path

namespace Disk

open Prebuild.Path (Step endOf)

/-- The way that steps take is open: each of them starts at a directory and asks for no name
that is too long. -/
def Open (disk : Disk) : List Step → Location → Prop
  | [], _ => True
  | step :: rest, location =>
    disk.look location = some .directory ∧ step.Fits ∧ disk.Open rest (step.next location)

theorem open_append {disk : Disk} {first second : List Step} {location : Location} :
    disk.Open (first ++ second) location ↔
      disk.Open first location ∧ disk.Open second (endOf first location) := by
  induction first generalizing location with
  | nil => exact ⟨fun way => ⟨trivial, way⟩, fun ways => ways.2⟩
  | cons step first inductionHypothesis =>
    rw [List.cons_append, Open, Open, inductionHypothesis, and_assoc, and_assoc]
    rfl

/-- An open way stays open where directories stay directories. -/
theorem Open.mono {before after : Disk} {steps : List Step} {location : Location}
    (directories : ∀ place, before.look place = some .directory →
      after.look place = some .directory)
    (way : before.Open steps location) : after.Open steps location := by
  induction steps generalizing location with
  | nil => trivial
  | cons step rest inductionHypothesis =>
    obtain ⟨inside, fits, further⟩ := way
    exact ⟨directories location inside, fits, inductionHypothesis further⟩

/-- A step that does not stay, after some that stay, starts at a directory. -/
theorem Open.directory_of_allStay {disk : Disk} {between rest : List Step} {step : Step}
    {location : Location} (stays : Path.AllStay between)
    (way : disk.Open (between ++ step :: rest) location) :
    disk.look location = some .directory := by
  cases between with
  | nil => exact way.1
  | cons first others => exact way.1

/-- Where a walk ends, as the place that its steps lead to has it: what is there, or that
there is nothing in a directory. -/
def Holds (disk : Disk) (location : Location) : Spot → Prop
  | .taken place node => place = location ∧ disk.get? location = some node
  | .vacant directory name =>
    directory ++ [name] = location ∧ disk.look directory = some .directory ∧
      disk.get? location = none

variable {disk : Disk} {purpose : Purpose} {slashed : Bool}
  {cross : Crossing → Except Fault Arrival}

/-- A step of a walk asks for nothing but what two places hold. -/
theorem walkSteps_cons_look (step : Path.Step) (rest : List Path.Step) (location : Location) :
    disk.walkSteps purpose slashed cross (step :: rest) location =
      match disk.look location with
      | none => .error .notFound
      | some .directory =>
        match step with
        | .stay => disk.walkSteps purpose slashed cross rest location
        | .up => disk.walkSteps purpose slashed cross rest location.dropLast
        | .name name =>
          if rest.isEmpty && slashed && purpose = .write then .error .isADirectory
          else if longestName < name.length then .error .nameTooLong
          else
            match disk.look (location ++ [name]) with
            | none =>
              if rest.isEmpty then .ok ⟨.vacant location name, slashed⟩ else .error .notFound
            | some (.link target) =>
              if rest.isEmpty && purpose = .entry then
                .ok ⟨.taken (location ++ [name]) (.link target), slashed⟩
              else cross ⟨location, target, rest, slashed⟩
            | some _ => disk.walkSteps purpose slashed cross rest (location ++ [name])
      | some _ => .error .notADirectory := by
  rw [walkSteps, look_eq_map_get?]
  cases found : disk.get? location with
  | none => rfl
  | some node =>
    cases node with
    | file bytes => rfl
    | link target => rfl
    | directory entries =>
      cases step with
      | stay => rfl
      | up => rfl
      | name name =>
        simp only [Option.map_some, Node.kind]
        rw [look_eq_map_get?, get?_append_singleton found]
        cases Listing.get? entries name with
        | none => rfl
        | some child => cases child <;> rfl

theorem look_of_noLink {location : Location} {target : Path} (plain : disk.IsPlain) :
    disk.get? location ≠ some (.link target) :=
  fun found => plain.noLink location target (look_of_get? found)

/-- What one step of a walk can come to on a disk without links: it starts at a directory, and
either the walk goes on where the step leads, or the step is the last and its name is vacant. A
walk for writing does not get past a name at the end with a slash after it. -/
theorem walkSteps_cons_ok (plain : disk.IsPlain) {step : Step} {rest : List Step}
    {start : Location} {arrival : Arrival}
    (walked : disk.walkSteps purpose slashed cross (step :: rest) start = .ok arrival) :
    disk.look start = some .directory ∧ step.Fits ∧
      (∀ part, step = .name part → rest = [] → purpose = .write → slashed = false) ∧
      (disk.walkSteps purpose slashed cross rest (step.next start) = .ok arrival ∨
        ∃ part, step = .name part ∧ rest = [] ∧ disk.get? (start ++ [part]) = none ∧
          arrival = ⟨.vacant start part, slashed⟩) := by
  rw [walkSteps] at walked
  split at walked
  · cases walked
  · rename_i entries here
    have inside : disk.look start = some .directory := look_of_get? here
    cases step with
    | stay => exact ⟨inside, trivial, fun _ other => (by cases other), .inl walked⟩
    | up => exact ⟨inside, trivial, fun _ other => (by cases other), .inl walked⟩
    | name part =>
      have child := get?_append_singleton here part
      dsimp only at walked
      split at walked
      · cases walked
      · rename_i allowed
        split at walked
        · cases walked
        · rename_i fits
          refine ⟨inside, Nat.le_of_not_lt fits, fun _ _ last writing => ?_, ?_⟩
          · subst last writing
            exact Bool.eq_false_iff.mpr fun asked => allowed (by rw [asked]; rfl)
          · split at walked
            · rename_i missing
              split at walked
              · rename_i last
                exact .inr ⟨part, rfl, List.isEmpty_iff.mp last, child.trans missing,
                  (Except.ok.inj walked).symm⟩
              · cases walked
            · rename_i target found
              exact absurd (child.trans found) (look_of_noLink plain)
            · exact .inl walked
  · cases walked

/-- A walk that ends on a disk without links went an open way, to where its steps lead. -/
theorem walkSteps_ok (plain : disk.IsPlain) {steps : List Step} {start : Location}
    {arrival : Arrival}
    (walked : disk.walkSteps purpose slashed cross steps start = .ok arrival) :
    disk.Open steps start ∧ disk.Holds (endOf steps start) arrival.spot ∧
      arrival.slashed = slashed := by
  induction steps generalizing start with
  | nil =>
    rw [walkSteps] at walked
    split at walked
    · rename_i node here
      obtain rfl := Except.ok.inj walked
      exact ⟨trivial, ⟨rfl, here⟩, rfl⟩
    · cases walked
  | cons step rest inductionHypothesis =>
    obtain ⟨inside, fits, -, further | ⟨part, rfl, rfl, missing, rfl⟩⟩ :=
      walkSteps_cons_ok plain walked
    · obtain ⟨way, spot, flag⟩ := inductionHypothesis further
      exact ⟨⟨inside, fits, way⟩, spot, flag⟩
    · exact ⟨⟨inside, fits, trivial⟩, ⟨rfl, inside, missing⟩, rfl⟩

/-- A walk for writing whose path is written with a slash at its end comes to a directory. -/
theorem directory_of_walkSteps_write (plain : disk.IsPlain) {steps : List Step}
    {start : Location} {arrival : Arrival}
    (begun : steps = [] → disk.look start = some .directory)
    (walked : disk.walkSteps .write true cross steps start = .ok arrival) :
    disk.look (endOf steps start) = some .directory := by
  induction steps generalizing start with
  | nil => exact begun rfl
  | cons step rest inductionHypothesis =>
    obtain ⟨inside, -, allowed, further | ⟨part, named, last, -⟩⟩ := walkSteps_cons_ok plain walked
    · refine inductionHypothesis (fun last => ?_) further
      cases step with
      | stay => exact inside
      | up => exact Node.look_dropLast inside
      | name part => cases allowed part rfl last rfl
    · cases allowed part named last rfl

/-- A walk on an open way ends at what is where the steps lead. -/
theorem walkSteps_of_open (plain : disk.IsPlain) {steps : List Step} {start : Location}
    {node : Node} (allowed : purpose = .write → slashed = false) (way : disk.Open steps start)
    (found : disk.get? (endOf steps start) = some node) :
    disk.walkSteps purpose slashed cross steps start =
      .ok ⟨.taken (endOf steps start) node, slashed⟩ := by
  induction steps generalizing start with
  | nil =>
    have here : disk.get? start = some node := found
    rw [walkSteps, here]
    rfl
  | cons step rest inductionHypothesis =>
    obtain ⟨inside, fits, further⟩ := way
    obtain ⟨entries, here⟩ := exists_directory_of_look inside
    have continued := inductionHypothesis further found
    rw [walkSteps, here]
    cases step with
    | stay => exact continued
    | up => exact continued
    | name part =>
      have refused : ¬(rest.isEmpty && slashed && decide (purpose = .write)) = true := by
        intro refused
        rw [Bool.and_eq_true, Bool.and_eq_true, decide_eq_true_iff] at refused
        rw [allowed refused.2] at refused
        exact Bool.false_ne_true refused.1.2
      obtain ⟨child, reached⟩ : ∃ child, disk.get? (start ++ [part]) = some child := by
        cases rest with
        | nil => exact ⟨node, found⟩
        | cons second others =>
          obtain ⟨below, there⟩ := exists_directory_of_look further.1
          exact ⟨_, there⟩
      have named := (get?_append_singleton here part).symm.trans reached
      dsimp only
      rw [if_neg refused, if_neg (Nat.not_lt.mpr fits), named]
      cases child with
      | file bytes => exact continued
      | directory below => exact continued
      | link target => exact absurd reached (look_of_noLink plain)

/-! ### Paths -/

/-- The place that a path leads to where there are no links. -/
def placeOf (disk : Disk) (path : Path) : Location := endOf path.steps (startOf path disk.here)

theorem startOf_join (base : Path) {path : Path} (relative : path.isAbsolute = false)
    (location : Location) : startOf (base.join path) location = startOf base location := by
  rw [startOf, startOf, Path.isAbsolute_join base relative]

/-- What is joined to a base leads on from where the base leads. -/
theorem placeOf_join (disk : Disk) (base : Path) {path : Path}
    (relative : path.isAbsolute = false) :
    disk.placeOf (base.join path) = Path.endOf path.steps (disk.placeOf base) := by
  rw [placeOf, startOf_join base relative, Path.steps_join base relative, Path.endOf_append]
  rfl

/-- The way of what is joined to a base goes over the base. -/
theorem open_join_iff {disk : Disk} (base : Path) {path : Path}
    (relative : path.isAbsolute = false) :
    disk.Open (base.join path).steps (startOf (base.join path) disk.here) ↔
      disk.Open base.steps (startOf base disk.here) ∧
        disk.Open path.steps (disk.placeOf base) := by
  rw [Path.steps_join base relative, startOf_join base relative, open_append, placeOf]

/-- A path that a file can have, and the way that its steps take is open. -/
structure Opens (disk : Disk) (path : Path) : Prop where
  noNul : path.bytes.contains 0 = false
  nonempty : path.bytes ≠ []
  short : path.bytes.length ≤ longestPath
  way : disk.Open path.steps (startOf path disk.here)

theorem arrive_eq_walkSteps (disk : Disk) (purpose : Purpose) {path : Path}
    (noNul : path.bytes.contains 0 = false) (nonempty : path.bytes ≠ [])
    (short : path.bytes.length ≤ longestPath) :
    ∃ cross, disk.arrive purpose path =
      disk.walkSteps purpose path.endsInSlash cross path.steps (startOf path disk.here) := by
  rw [arrive, if_neg (by rw [noNul]; exact Bool.false_ne_true),
    if_neg (fun empty => nonempty (List.isEmpty_iff.mp empty)), if_neg (Nat.not_lt.mpr short)]
  exact ⟨_, rfl⟩

/-- Only a path that a file can have is walked. -/
theorem arrive_ok_cases {path : Path} {arrival : Arrival}
    (arrived : disk.arrive purpose path = .ok arrival) :
    path.bytes.contains 0 = false ∧ path.bytes ≠ [] ∧
      path.bytes.length ≤ longestPath := by
  rw [arrive] at arrived
  split at arrived
  · cases arrived
  · rename_i noNul
    split at arrived
    · cases arrived
    · rename_i nonempty
      split at arrived
      · cases arrived
      · rename_i short
        exact ⟨Bool.eq_false_iff.mpr noNul, fun empty => nonempty (List.isEmpty_iff.mpr empty),
          Nat.le_of_not_lt short⟩

/-- Where there are no links, a path ends where its steps lead. -/
theorem arrive_ok (plain : disk.IsPlain) {path : Path} {arrival : Arrival}
    (arrived : disk.arrive purpose path = .ok arrival) :
    disk.Opens path ∧ disk.Holds (disk.placeOf path) arrival.spot ∧
      arrival.slashed = path.endsInSlash := by
  obtain ⟨noNul, nonempty, short⟩ := arrive_ok_cases arrived
  obtain ⟨cross, walk⟩ := arrive_eq_walkSteps disk purpose noNul nonempty short
  obtain ⟨way, spot, flag⟩ := walkSteps_ok plain (walk.symm.trans arrived)
  exact ⟨⟨noNul, nonempty, short, way⟩, spot, flag⟩

/-- Where there are no links, a path for writing with a slash at its end leads to a
directory. -/
theorem directory_of_arrive_write (plain : disk.IsPlain) {path : Path} {arrival : Arrival}
    (slash : path.endsInSlash = true) (arrived : disk.arrive .write path = .ok arrival) :
    disk.look (disk.placeOf path) = some .directory := by
  obtain ⟨noNul, nonempty, short⟩ := arrive_ok_cases arrived
  obtain ⟨cross, walk⟩ := arrive_eq_walkSteps disk .write noNul nonempty short
  rw [slash] at walk
  refine directory_of_walkSteps_write plain (fun stepless => ?_) (walk.symm.trans arrived)
  have absolute : path.isAbsolute = true := by
    cases relative : path.isAbsolute with
    | true => rfl
    | false => exact absurd stepless (Path.steps_ne_nil relative nonempty)
  rw [startOf, if_pos absolute]
  exact plain.top

/-- A path with an open way leads to what is there. -/
theorem arrive_of_opens (plain : disk.IsPlain) {path : Path} {node : Node}
    (allowed : purpose = .write → path.endsInSlash = false) (opens : disk.Opens path)
    (found : disk.get? (disk.placeOf path) = some node) :
    disk.arrive purpose path = .ok ⟨.taken (disk.placeOf path) node, path.endsInSlash⟩ := by
  obtain ⟨cross, walk⟩ := arrive_eq_walkSteps disk purpose opens.noNul opens.nonempty
    opens.short
  rw [walk]
  exact walkSteps_of_open plain allowed opens.way found

/-- Where there are no links, a path leads to something exactly if its way is open and
something is there, which is a directory if the path asks for one. -/
theorem find_eq_ok_iff (plain : disk.IsPlain) {path : Path} {location : Location} {node : Node} :
    disk.find path = .ok (location, node) ↔
      disk.Opens path ∧ location = disk.placeOf path ∧ disk.get? location = some node ∧
        (path.endsInSlash = true → node.isDirectory = true) := by
  constructor
  · intro found
    rw [find] at found
    split at found
    · rename_i place there flag arrived
      obtain ⟨opens, ⟨same, here⟩, slash⟩ := arrive_ok plain arrived
      split at found
      · cases found
      · rename_i fits
        obtain ⟨rfl, rfl⟩ := Prod.mk.inj (Except.ok.inj found)
        refine ⟨opens, same, same ▸ here, fun asked => ?_⟩
        cases kind : there.isDirectory with
        | true => rfl
        | false =>
          refine absurd ?_ fits
          rw [kind, show flag = path.endsInSlash from slash, asked]
          rfl
    · cases found
    · cases found
  · rintro ⟨opens, rfl, here, fits⟩
    have unasked : (path.endsInSlash && !node.isDirectory) = false := by
      cases asked : path.endsInSlash with
      | false => rfl
      | true =>
        rw [fits asked]
        rfl
    rw [find, arrive_of_opens plain (fun impossible => by cases impossible) opens here]
    dsimp only
    rw [if_neg (by rw [unasked]; exact Bool.false_ne_true)]

/-- A path that is too long is refused, wherever it would lead. -/
theorem find_of_too_long (noNul : path.bytes.contains 0 = false) (nonempty : path.bytes ≠ [])
    (long : longestPath < path.bytes.length) : disk.find path = .error .nameTooLong := by
  rw [find, arrive, if_neg (by rw [noNul]; exact Bool.false_ne_true),
    if_neg fun empty => nonempty (List.isEmpty_iff.mp empty), if_pos long]

/-- If a path holds no zero, neither does that of the directory that it lies in. -/
theorem noNul_of_liesIn {path parent : Path} (lies : Path.LiesIn path parent)
    (noNul : path.bytes.contains 0 = false) : parent.bytes.contains 0 = false := by
  refine Bool.eq_false_iff.mpr fun nul => ?_
  obtain ⟨rest, whole⟩ := lies.bytes
  rw [← whole, List.contains_eq_mem, decide_eq_false_iff_not] at noNul
  exact noNul (List.mem_append_left _ (List.contains_iff_mem.mp nul))

/-- Where there are no links, the directory that a path lies in is there if the way of the
path is open. -/
theorem find_of_liesIn (plain : disk.IsPlain) {path parent : Path} (opens : disk.Opens path)
    (lies : Path.LiesIn path parent) (named : parent.bytes ≠ []) :
    ∃ entries, disk.find parent = .ok (disk.placeOf parent, .directory entries) := by
  obtain ⟨between, step, after, steps, stays, -, -⟩ := lies.steps
  have start : startOf path disk.here = startOf parent disk.here := by
    rw [startOf, startOf, lies.absolute]
  have way := opens.way
  rw [steps, start, List.append_assoc, open_append] at way
  obtain ⟨entries, here⟩ := exists_directory_of_look (way.2.directory_of_allStay stays)
  exact ⟨entries, (find_eq_ok_iff plain).mpr ⟨⟨noNul_of_liesIn lies opens.noNul, named,
    Nat.le_trans (lies.bytes.length_le) opens.short, way.1⟩, rfl, here,
    fun _ => rfl⟩⟩

/-! ### What a path denotes -/

/-- What a path leads to is at this place. -/
def Denotes (disk : Disk) (path : Path) (location : Location) : Prop :=
  ∃ node, disk.find path = .ok (location, node)

theorem Denotes.eq_placeOf (plain : disk.IsPlain) {path : Path} {location : Location}
    (denotes : disk.Denotes path location) : location = disk.placeOf path := by
  obtain ⟨node, found⟩ := denotes
  exact ((find_eq_ok_iff plain).mp found).2.1

/-- Two paths denote the same file or directory. -/
def Same (disk : Disk) (first second : Path) : Prop :=
  ∃ location, disk.Denotes first location ∧ disk.Denotes second location

end Disk

end Prebuild
