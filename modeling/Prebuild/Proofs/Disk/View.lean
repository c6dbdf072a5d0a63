/-
This file looks at a disk place by place: what each holds, without what lies below.

Putting something at a place is a function on trees, and what it does to a tree has
many cases. Seen place by place it does one thing. As long as nothing lies below
what was there, or below what is put there, one place changes and all others stay
as they are, the directories on the way included.
-/

import Prebuild.Disk.Node

namespace Prebuild

/-! ### Entries of a directory -/

namespace Listing

theorem get?_cons (entry : Name × Node) (entries : Listing) (name : Name) :
    get? (entry :: entries) name = if entry.1 = name then some entry.2 else get? entries name := by
  rw [get?, List.find?_cons]
  by_cases same : entry.1 = name
  · rw [if_pos same, beq_iff_eq.mpr same]
    rfl
  · rw [if_neg same, beq_eq_false_iff_ne.mpr same]
    rfl

theorem set_cons (entry : Name × Node) (entries : Listing) (name : Name) (node : Node) :
    set (entry :: entries) name node =
      if entry.1 = name then (name, node) :: entries else entry :: set entries name node := by
  by_cases same : entry.1 = name
  · rw [set, if_pos (beq_iff_eq.mpr same), if_pos same]
  · rw [set, if_neg (fun equal => same (beq_iff_eq.mp equal)), if_neg same]

theorem get?_set (entries : Listing) (name other : Name) (node : Node) :
    get? (set entries name node) other =
      if other = name then some node else get? entries other := by
  induction entries with
  | nil =>
    rw [set, get?_cons]
    exact ite_congr (propext eq_comm) (fun _ => rfl) fun _ => rfl
  | cons entry entries inductionHypothesis =>
    rw [set_cons]
    by_cases here : entry.1 = name
    · rw [if_pos here, get?_cons, get?_cons]
      by_cases same : other = name
      · rw [if_pos same.symm, if_pos same]
      · rw [if_neg (Ne.symm same), if_neg same,
          if_neg fun equal => same (equal.symm.trans here)]
    · rw [if_neg here, get?_cons, get?_cons, inductionHypothesis]
      by_cases same : entry.1 = other
      · rw [if_pos same, if_pos same, if_neg fun equal => here (same.trans equal)]
      · rw [if_neg same, if_neg same]

/-- Putting what has a name under that name changes nothing. -/
theorem set_of_get? {entries : Listing} {name : Name} {node : Node}
    (here : get? entries name = some node) : set entries name node = entries := by
  induction entries with
  | nil => cases here
  | cons entry entries inductionHypothesis =>
    rw [get?_cons] at here
    rw [set_cons]
    by_cases same : entry.1 = name
    · rw [if_pos same] at here
      rw [if_pos same, ← same, ← Option.some.inj here]
    · rw [if_neg same] at here
      rw [if_neg same, inductionHypothesis here]

end Listing

/-! ### Places of a node -/

/-- What a place holds, without what lies below it. -/
inductive Kind where
  | file (bytes : ByteArray)
  | directory
  | link (target : Path)

namespace Node

/-- A node without what lies below it. -/
def kind : Node → Kind
  | file bytes => .file bytes
  | directory _ => .directory
  | link target => .link target

/-- Nothing lies below the node. -/
def IsLeaf (node : Node) : Prop := ∀ name location, node.get? (name :: location) = none

theorem isLeaf_file (bytes : ByteArray) : (file bytes).IsLeaf := fun _ _ => rfl

theorem isLeaf_emptyDirectory : (directory []).IsLeaf := fun _ _ => rfl

theorem get?_nil (node : Node) : node.get? [] = some node := by
  cases node <;> rfl

theorem get?_cons (entries : Listing) (name : Name) (location : Location) :
    (directory entries).get? (name :: location) =
      (Listing.get? entries name).bind fun child => child.get? location := by
  rw [get?]
  cases Listing.get? entries name <;> rfl

/-- A node with something below it is a directory. -/
theorem exists_directory_of_get?_cons {node below : Node} {name : Name} {location : Location}
    (found : node.get? (name :: location) = some below) : ∃ entries, node = directory entries := by
  cases node with
  | file bytes => cases found
  | directory entries => exact ⟨entries, rfl⟩
  | link target => cases found

theorem get?_append (node : Node) (first second : Location) :
    node.get? (first ++ second) = (node.get? first).bind fun child => child.get? second := by
  induction first generalizing node with
  | nil =>
    rw [get?_nil]
    rfl
  | cons name first inductionHypothesis =>
    cases node with
    | file bytes => rfl
    | link target => rfl
    | directory entries =>
      rw [List.cons_append, get?_cons, get?_cons, Option.bind_assoc]
      exact Option.bind_congr fun child _ => inductionHypothesis child

/-- What a place below a node holds. -/
def look (node : Node) (location : Location) : Option Kind := (node.get? location).map kind

theorem exists_directory_of_look {node : Node} {location : Location}
    (found : node.look location = some .directory) :
    ∃ entries, node.get? location = some (directory entries) := by
  obtain ⟨below, here, kind⟩ := Option.map_eq_some_iff.mp found
  cases below with
  | file bytes => cases kind
  | directory entries => exact ⟨entries, here⟩
  | link target => cases kind

theorem get?_of_look_file {node : Node} {location : Location} {bytes : ByteArray}
    (found : node.look location = some (.file bytes)) : node.get? location = some (file bytes) := by
  obtain ⟨below, here, kind⟩ := Option.map_eq_some_iff.mp found
  cases below with
  | file others =>
    cases kind
    exact here
  | directory entries => cases kind
  | link target => cases kind

/-- The way to a place leads through directories. -/
theorem look_of_append {node below : Node} {location : Location} {name : Name} {rest : Location}
    (found : node.get? (location ++ name :: rest) = some below) :
    node.look location = some .directory := by
  rw [get?_append] at found
  obtain ⟨child, here, further⟩ := Option.bind_eq_some_iff.mp found
  obtain ⟨entries, rfl⟩ := exists_directory_of_get?_cons further
  exact Option.map_eq_some_iff.mpr ⟨_, here, rfl⟩

theorem set_singleton (entries : Listing) (name : Name) (new : Node) :
    (directory entries).set [name] new = directory (Listing.set entries name new) := rfl

theorem set_cons_append_singleton {entries : Listing} {first : Name} {child : Node}
    (here : Listing.get? entries first = some child) (location : Location) (name : Name)
    (new : Node) :
    (directory entries).set (first :: (location ++ [name])) new =
      directory (Listing.set entries first (child.set (location ++ [name]) new)) := by
  obtain ⟨next, rest, split⟩ := List.exists_cons_of_ne_nil
    (List.append_ne_nil_of_right_ne_nil location (List.cons_ne_nil name []))
  rw [split, set, here]
  intro impossible
  cases impossible

/-- Putting what is at a place at that place changes nothing. -/
theorem set_of_get? {node old : Node} {location : Location}
    (here : node.get? location = some old) : node.set location old = node := by
  induction location generalizing node with
  | nil =>
    rw [get?_nil] at here
    rw [set, Option.some.inj here]
  | cons name location inductionHypothesis =>
    obtain ⟨entries, rfl⟩ := exists_directory_of_get?_cons here
    rw [get?_cons] at here
    obtain ⟨child, found, below⟩ := Option.bind_eq_some_iff.mp here
    rcases List.eq_nil_or_concat location with rfl | ⟨front, last, rfl⟩
    · rw [get?_nil] at below
      rw [set_singleton, Listing.set_of_get? (Option.some.inj below ▸ found)]
    · rw [List.concat_eq_append] at below ⊢
      rw [set_cons_append_singleton found, ← List.concat_eq_append,
        inductionHypothesis (List.concat_eq_append ▸ below), Listing.set_of_get? found]

theorem look_nil (node : Node) : node.look [] = some node.kind := by
  rw [look, get?_nil]
  rfl

theorem look_cons (entries : Listing) (name : Name) (location : Location) :
    (directory entries).look (name :: location) =
      (Listing.get? entries name).bind fun child => child.look location := by
  rw [look, get?_cons, Option.map_bind]
  rfl

/-- A directory with an entry put into it holds that below its name, and what it has held
below all others. -/
theorem look_set_cons (entries : Listing) (name first : Name) (child : Node)
    (rest : Location) :
    (directory (Listing.set entries name child)).look (first :: rest) =
      if first = name then child.look rest else (directory entries).look (first :: rest) := by
  rw [look_cons, look_cons, Listing.get?_set]
  split <;> rfl

theorem look_of_isLeaf {node : Node} (leaf : node.IsLeaf) (location : Location) :
    node.look location = if location = [] then some node.kind else none := by
  cases location with
  | nil => exact look_nil node
  | cons name location =>
    rw [look, leaf]
    rfl

theorem look_set_singleton {entries : Listing} {name : Name} {new : Node} (leaf : new.IsLeaf)
    (free : ∀ old, Listing.get? entries name = some old → old.IsLeaf) (other : Location) :
    (directory (Listing.set entries name new)).look other =
      if other = [name] then some new.kind else (directory entries).look other := by
  cases other with
  | nil => exact (if_neg (List.cons_ne_nil _ _).symm).symm
  | cons first rest =>
    rw [look_set_cons, look_of_isLeaf leaf]
    by_cases same : first = name
    · subst same
      rw [if_pos rfl]
      by_cases last : rest = []
      · rw [if_pos last, if_pos (congrArg _ last)]
      · -- Below the name there is nothing, neither before nor after.
        have nothing : (directory entries).look (first :: rest) = none := by
          rw [look_cons]
          cases found : Listing.get? entries first with
          | none => rfl
          | some old => exact (look_of_isLeaf (free old found) rest).trans (if_neg last)
        rw [if_neg last, if_neg fun equal => last (List.cons.inj equal).2, nothing]
    · rw [if_neg same, if_neg fun equal => same (List.cons.inj equal).1]

/-- Putting a leaf into a directory, where there was nothing or a leaf, changes that place and
no other. -/
theorem look_set {node new : Node} {above : Location} {name : Name}
    (inside : node.look above = some .directory) (leaf : new.IsLeaf)
    (free : ∀ old, node.get? (above ++ [name]) = some old → old.IsLeaf) (other : Location) :
    (node.set (above ++ [name]) new).look other =
      if other = above ++ [name] then some new.kind else node.look other := by
  induction above generalizing node other with
  | nil =>
    obtain ⟨entries, here⟩ := exists_directory_of_look inside
    obtain rfl : node = directory entries := Option.some.inj ((get?_nil node).symm.trans here)
    refine look_set_singleton leaf (fun old found => free old ?_) other
    rw [List.nil_append, get?_cons, found]
    exact get?_nil old
  | cons head above inductionHypothesis =>
    obtain ⟨below, here⟩ := exists_directory_of_look inside
    obtain ⟨entries, rfl⟩ := exists_directory_of_get?_cons here
    rw [look_cons] at inside
    obtain ⟨child, found, insideChild⟩ := Option.bind_eq_some_iff.mp inside
    have freeChild : ∀ old, child.get? (above ++ [name]) = some old → old.IsLeaf := by
      intro old reached
      refine free old ?_
      rw [List.cons_append, get?_cons, found]
      exact reached
    rw [List.cons_append, set_cons_append_singleton found]
    cases other with
    | nil => exact (if_neg (List.cons_ne_nil _ _).symm).symm
    | cons first rest =>
      rw [look_set_cons]
      by_cases same : first = head
      · subst same
        rw [if_pos rfl, inductionHypothesis insideChild freeChild rest, look_cons, found]
        exact ite_congr (propext (List.cons_inj_right _).symm) (fun _ => rfl) fun _ => rfl
      · rw [if_neg same, if_neg fun equal => same (List.cons.inj equal).1]

end Node

/-! ### Places of a disk -/

namespace Disk

/-- What a place of a disk holds. -/
def look (disk : Disk) (location : Location) : Option Kind := disk.top.look location

theorem look_eq_map_get? (disk : Disk) (location : Location) :
    disk.look location = (disk.get? location).map Node.kind := rfl

theorem exists_directory_of_look {disk : Disk} {location : Location}
    (found : disk.look location = some .directory) :
    ∃ entries, disk.get? location = some (.directory entries) := Node.exists_directory_of_look found

theorem get?_of_look_file {disk : Disk} {location : Location} {bytes : ByteArray}
    (found : disk.look location = some (.file bytes)) :
    disk.get? location = some (.file bytes) := Node.get?_of_look_file found

theorem look_of_get? {disk : Disk} {location : Location} {node : Node}
    (found : disk.get? location = some node) : disk.look location = some node.kind :=
  Option.map_eq_some_iff.mpr ⟨node, found, rfl⟩

theorem look_eq_file_iff {disk : Disk} {location : Location} {bytes : ByteArray} :
    disk.look location = some (.file bytes) ↔ disk.get? location = some (.file bytes) :=
  ⟨get?_of_look_file, look_of_get?⟩

/-- Putting what is at a place at that place changes nothing. -/
theorem set_of_get? {disk : Disk} {location : Location} {node : Node}
    (here : disk.get? location = some node) : disk.set location node = disk := by
  rw [set, Node.set_of_get? here]

/-- Where nothing lies below what was there or is put there, one place changes. -/
theorem look_set {disk : Disk} {new : Node} {above : Location} {name : Name}
    (inside : disk.look above = some .directory) (leaf : new.IsLeaf)
    (free : ∀ old, disk.get? (above ++ [name]) = some old → old.IsLeaf) (other : Location) :
    (disk.set (above ++ [name]) new).look other =
      if other = above ++ [name] then some new.kind else disk.look other :=
  Node.look_set inside leaf free other

/-- The entry with a name of a directory is what is at the place with that name. -/
theorem get?_append_singleton {disk : Disk} {location : Location} {entries : Listing}
    (here : disk.get? location = some (.directory entries)) (name : Name) :
    disk.get? (location ++ [name]) = Listing.get? entries name := by
  rw [get?, Node.get?_append]
  show (disk.get? location).bind _ = _
  rw [here]
  show (Node.directory entries).get? [name] = _
  rw [Node.get?_cons]
  cases Listing.get? entries name with
  | none => rfl
  | some child => exact Node.get?_nil child

end Disk

end Prebuild
