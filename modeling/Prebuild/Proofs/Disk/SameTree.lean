/-
This file proves that the order of the entries of a directory makes no difference.

Two disks are the same tree if they hold the same at each place. A walk asks a disk for
nothing but what places hold, the place that it is at and the one that the next name leads to.
So on two disks that are the same tree every path leads to the same place or fails in the same
way, links included, and what is made of the paths, down to the source tree that a generator
sees, is the same.
-/

import Mathlib.Data.List.Sort
import Prebuild.Proofs.Disk.Listing

namespace Prebuild

/-! ### Arrivals as far as places tell -/

/-- The place where a walk ends, and what it holds. -/
def Spot.view : Spot → Location × Option Kind
  | .taken location node => (location, some node.kind)
  | .vacant directory name => (directory ++ [name], none)

/-- The end of a walk without what lies below it. -/
def Arrival.view (arrival : Arrival) : (Location × Option Kind) × Bool :=
  (arrival.spot.view, arrival.slashed)

/-- Whether what a place holds is a directory. -/
def Kind.isDirectory : Kind → Bool
  | directory => true
  | _ => false

theorem Node.isDirectory_kind (node : Node) : node.kind.isDirectory = node.isDirectory := by
  cases node <;> rfl

namespace Disk

/-! ### The same tree -/

/-- Two disks hold the same at each place. -/
structure SameTree (first second : Disk) : Prop where
  here : second.here = first.here
  look : ∀ location, second.look location = first.look location

theorem SameTree.refl (disk : Disk) : SameTree disk disk := ⟨rfl, fun _ => rfl⟩

theorem SameTree.symm {first second : Disk} (same : SameTree first second) :
    SameTree second first :=
  ⟨same.here.symm, fun location => (same.look location).symm⟩

theorem SameTree.trans {first second third : Disk} (same : SameTree first second)
    (others : SameTree second third) : SameTree first third :=
  ⟨others.here.trans same.here, fun location => (others.look location).trans (same.look location)⟩

/-! ### Walks -/

variable {disk first second : Disk} {purpose : Purpose} {slashed : Bool}
  {cross crossOther : Crossing → Except Fault Arrival}

theorem walkSteps_nil_view (location : Location) :
    (disk.walkSteps purpose slashed cross [] location).map Arrival.view =
      match disk.look location with
      | some kind => .ok ((location, some kind), slashed)
      | none => .error .notFound := by
  rw [walkSteps, look_eq_map_get?]
  cases disk.get? location <;> rfl

theorem walkSteps_view (same : SameTree first second)
    (alike : ∀ crossing, (crossOther crossing).map Arrival.view =
      (cross crossing).map Arrival.view) (steps : List Path.Step) (location : Location) :
    (second.walkSteps purpose slashed crossOther steps location).map Arrival.view =
      (first.walkSteps purpose slashed cross steps location).map Arrival.view := by
  induction steps generalizing location with
  | nil => rw [walkSteps_nil_view, walkSteps_nil_view, same.look]
  | cons step rest inductionHypothesis =>
    rw [walkSteps_cons_look, walkSteps_cons_look, same.look]
    cases first.look location with
    | none => rfl
    | some kind =>
      cases kind with
      | file bytes => rfl
      | link target => rfl
      | directory =>
        cases step with
        | stay => exact inductionHypothesis location
        | up => exact inductionHypothesis location.dropLast
        | name name =>
          dsimp only
          split
          · rfl
          · split
            · rfl
            · rw [same.look]
              cases first.look (location ++ [name]) with
              | none => rfl
              | some child =>
                cases child with
                | file bytes => exact inductionHypothesis _
                | directory => exact inductionHypothesis _
                | link target =>
                  dsimp only
                  split
                  · rfl
                  · exact alike _

theorem walk_view (same : SameTree first second) (links : Nat) (slashed : Bool)
    (steps : List Path.Step) (location : Location) :
    (second.walk purpose links slashed steps location).map Arrival.view =
      (first.walk purpose links slashed steps location).map Arrival.view := by
  induction links generalizing slashed steps location with
  | zero => exact walkSteps_view same (fun _ => rfl) steps location
  | succ links inductionHypothesis =>
    exact walkSteps_view same (fun _ => inductionHypothesis _ _ _) steps location

theorem arrive_view (same : SameTree first second) (path : Path) :
    (second.arrive purpose path).map Arrival.view =
      (first.arrive purpose path).map Arrival.view := by
  unfold arrive
  rw [same.here]
  split_ifs
  · rfl
  · rfl
  · rfl
  · exact walk_view same _ _ _ _

/-! ### What paths lead to -/

/-- A walk ends at what is at the place, if something is there. -/
theorem get?_of_walkSteps
    (crossed : ∀ crossing location node slashed,
      cross crossing = .ok ⟨.taken location node, slashed⟩ → disk.get? location = some node)
    {steps : List Path.Step} {start location : Location} {node : Node} {slashedThere : Bool}
    (arrived : disk.walkSteps purpose slashed cross steps start =
      .ok ⟨.taken location node, slashedThere⟩) : disk.get? location = some node := by
  induction steps generalizing start with
  | nil =>
    rw [walkSteps] at arrived
    split at arrived
    · rename_i found
      cases arrived
      exact found
    · cases arrived
  | cons step rest inductionHypothesis =>
    rw [walkSteps] at arrived
    split at arrived
    · cases arrived
    · rename_i entries here
      split at arrived
      · exact inductionHypothesis arrived
      · exact inductionHypothesis arrived
      · split at arrived
        · cases arrived
        · split at arrived
          · cases arrived
          · split at arrived
            · split at arrived <;> cases arrived
            · rename_i target entry
              split at arrived
              · cases arrived
                rw [get?_append_singleton here, entry]
              · exact crossed _ _ _ _ arrived
            · exact inductionHypothesis arrived
    · cases arrived

theorem get?_of_walk {links : Nat} {steps : List Path.Step} {start location : Location}
    {node : Node} {slashedThere : Bool}
    (arrived : disk.walk purpose links slashed steps start =
      .ok ⟨.taken location node, slashedThere⟩) : disk.get? location = some node := by
  induction links generalizing slashed steps start location node slashedThere with
  | zero =>
    refine get?_of_walkSteps ?_ arrived
    intro _ _ _ _ crossed
    cases crossed
  | succ links inductionHypothesis =>
    exact get?_of_walkSteps (fun _ _ _ _ => inductionHypothesis) arrived

theorem get?_of_find {path : Path} {location : Location} {node : Node}
    (found : disk.find path = .ok (location, node)) : disk.get? location = some node := by
  unfold find at found
  split at found
  · rename_i arrived
    split at found
    · cases found
    · cases found
      unfold arrive at arrived
      split_ifs at arrived
      exact get?_of_walk arrived
  · cases found
  · cases found

/-- What a path leads to, without what lies below it. -/
theorem find_view (same : SameTree first second) (path : Path) :
    (second.find path).map (Prod.map id Node.kind) =
      (first.find path).map (Prod.map id Node.kind) := by
  have view (disk : Disk) : (disk.find path).map (Prod.map id Node.kind) =
      match (disk.arrive .find path).map Arrival.view with
      | .ok ((location, some kind), slashed) =>
        if slashed && !kind.isDirectory then .error .notADirectory else .ok (location, kind)
      | .ok ((_, none), _) => .error .notFound
      | .error fault => .error fault := by
    rw [find]
    cases disk.arrive .find path with
    | error fault => rfl
    | ok arrival =>
      obtain ⟨spot, slashed⟩ := arrival
      cases spot with
      | vacant directory name => rfl
      | taken location node =>
        show Except.map _ (if slashed && !node.isDirectory then _ else _) =
          if slashed && !node.kind.isDirectory then _ else _
        rw [Node.isDirectory_kind]
        split <;> rfl
  rw [view, view, arrive_view same]

/-- A path leads to the same place on both disks, where they hold the same, or it fails in the
same way. -/
theorem find_cases (same : SameTree first second) (path : Path) :
    (∃ fault, first.find path = .error fault ∧ second.find path = .error fault) ∨
      ∃ location node other, first.find path = .ok (location, node) ∧
        second.find path = .ok (location, other) ∧ other.kind = node.kind := by
  have view := find_view same path
  cases found : first.find path with
  | error fault =>
    rw [found] at view
    cases foundOther : second.find path with
    | error faultOther =>
      rw [foundOther] at view
      exact .inl ⟨fault, rfl, congrArg Except.error (Except.error.inj view)⟩
    | ok arrived =>
      rw [foundOther] at view
      cases view
  | ok arrived =>
    rw [found] at view
    cases foundOther : second.find path with
    | error fault =>
      rw [foundOther] at view
      cases view
    | ok arrivedOther =>
      rw [foundOther] at view
      obtain ⟨location, node⟩ := arrived
      obtain ⟨locationOther, other⟩ := arrivedOther
      obtain ⟨rfl, kind⟩ := Prod.mk.inj (Except.ok.inj view)
      exact .inr ⟨_, node, other, rfl, rfl, kind⟩

/-! ### What is made of the paths -/

theorem readBytes_eq (same : SameTree first second) (path : Path) :
    second.readBytes path = first.readBytes path := by
  rw [readBytes, readBytes]
  rcases find_cases same path with
    ⟨fault, found, foundOther⟩ | ⟨location, node, other, found, foundOther, kind⟩
  · rw [found, foundOther]
  · rw [found, foundOther]
    cases node <;> cases other <;> cases kind <;> rfl

/-- What an entry of a directory is, as far as a place tells. -/
theorem visit_eq (same : SameTree first second) {directory : Path} {location : Location}
    {entries others : Listing} {name : Name}
    (entry : (Listing.get? others name).map Node.kind = (Listing.get? entries name).map Node.kind) :
    second.visit directory location others name = first.visit directory location entries name := by
  unfold visit
  cases here : Listing.get? entries name with
  | none =>
    rw [here] at entry
    rw [Option.map_eq_none_iff.mp entry]
  | some node =>
    rw [here] at entry
    obtain ⟨other, there, kind⟩ := Option.map_eq_some_iff.mp entry
    rw [there]
    cases node <;> cases other <;> cases kind
    · rfl
    · rfl
    · dsimp only
      rcases find_cases same (directory.join ⟨name⟩) with
        ⟨fault, found, foundOther⟩ | ⟨target, node, other, found, foundOther, kind⟩
      · rw [found, foundOther]
      · rw [found, foundOther]
        cases node <;> cases other <;> cases kind <;> rfl

theorem selectFiles_congr (same : SameTree first second) {directory : Path} {location : Location}
    {entries others : Listing} {extension : Text}
    (alike : ∀ name, (Listing.get? others name).map Node.kind =
      (Listing.get? entries name).map Node.kind) (names : List Name) :
    second.selectFiles directory location others extension names =
      first.selectFiles directory location entries extension names := by
  induction names with
  | nil => rfl
  | cons name rest inductionHypothesis =>
    rw [selectFiles, selectFiles, visit_eq same (alike name), inductionHypothesis]

/-- A path that leads to a directory leads to the same directory on the other disk. -/
theorem find_directory_of_sameTree (same : SameTree first second) {path : Path}
    {location : Location} {entries : Listing}
    (found : first.find path = .ok (location, .directory entries)) :
    ∃ others, second.find path = .ok (location, .directory others) ∧
      ∀ name, (Listing.get? others name).map Node.kind =
        (Listing.get? entries name).map Node.kind := by
  rcases find_cases same path with
    ⟨fault, failed, -⟩ | ⟨location, node, other, reached, foundOther, kind⟩
  · cases found.symm.trans failed
  · obtain ⟨rfl, rfl⟩ := Prod.mk.inj (Except.ok.inj (found.symm.trans reached))
    cases other with
    | file bytes => cases kind
    | link target => cases kind
    | directory others =>
      refine ⟨others, foundOther, fun name => ?_⟩
      rw [← get?_append_singleton (get?_of_find found),
        ← get?_append_singleton (get?_of_find foundOther)]
      exact same.look _

theorem listFiles_of_no_directory {root directory : Path} {extension : Text}
    (absent : ∀ location entries,
      disk.find (root.join directory) ≠ .ok (location, .directory entries)) :
    disk.listFiles root directory extension = .fail (.missingInput directory) := by
  unfold listFiles
  dsimp only
  split
  · rename_i location entries found
    exact absurd found (absent location entries)
  · rfl

/-- A listing gives the same on two disks that are the same tree, or fails in the same way. -/
theorem listFiles_eq_of_sameTree (same : SameTree first second) (root directory : Path)
    (extension : Text) :
    second.listFiles root directory extension = first.listFiles root directory extension := by
  by_cases there : ∃ location entries,
      first.find (root.join directory) = .ok (location, .directory entries)
  · obtain ⟨location, entries, found⟩ := there
    obtain ⟨others, foundOther, alike⟩ := find_directory_of_sameTree same found
    have names : Listing.names others = Listing.names entries := by
      refine (Listing.pairwise_names others).eq_of_mem_iff (Listing.pairwise_names entries)
        fun name => ?_
      rw [Listing.mem_names, Listing.mem_names, ← Option.isSome_iff_exists,
        ← Option.isSome_iff_exists, ← Option.isSome_map (f := Node.kind), alike,
        Option.isSome_map]
    rw [listFiles, listFiles, found, foundOther]
    dsimp only
    rw [names, selectFiles_congr same alike]
  · rw [listFiles_of_no_directory fun location entries found => there ⟨location, entries, found⟩,
      listFiles_of_no_directory fun location entries found => there ?_]
    obtain ⟨others, foundFirst, -⟩ := find_directory_of_sameTree same.symm found
    exact ⟨location, others, foundFirst⟩

/-- Two disks that are the same tree are the same source tree from each root. -/
theorem source_eq_of_sameTree (same : SameTree first second) (root : Path) :
    second.source root = first.source root := by
  rw [source, source, Source.mk.injEq]
  constructor
  · funext directory extension
    exact listFiles_eq_of_sameTree same root directory extension
  · funext path
    rw [readText, readText, readBytes_eq same]

end Disk

end Prebuild
