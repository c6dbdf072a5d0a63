/-
This file says what making directories does to a disk, with or without links: some
directories are new, where there was nothing, and all other places are as they were.
That is also so when it fails half-way, and it is all that an artifact which could not
be written leaves behind.

A directory is made in a vacancy, and wherever a walk ends in one, whatever links it has
followed, there is a directory that does not have the name.
-/

import Prebuild.Disk.Files
import Prebuild.Proofs.Disk.View

namespace Prebuild.Disk

/-! ### New directories -/

/-- One disk has become another by new directories at most. -/
structure GainsDirectories (before after : Disk) : Prop where
  here : after.here = before.here
  places : ∀ location, after.look location = before.look location ∨
    before.look location = none ∧ after.look location = some .directory

namespace GainsDirectories

variable {before middle after : Disk}

theorem refl (disk : Disk) : GainsDirectories disk disk := ⟨rfl, fun _ => .inl rfl⟩

theorem trans (first : GainsDirectories before middle) (second : GainsDirectories middle after) :
    GainsDirectories before after := by
  refine ⟨second.here.trans first.here, fun location => ?_⟩
  rcases second.places location with same | ⟨missing, made⟩
  · rw [same]
    exact first.places location
  · rcases first.places location with same | ⟨-, madeBefore⟩
    · exact .inr ⟨same.symm.trans missing, made⟩
    · rw [missing] at madeBefore
      cases madeBefore

end GainsDirectories

variable {disk : Disk}

/-- There is a directory that does not have a name. -/
structure IsVacant (disk : Disk) (directory : Location) (name : Name) : Prop where
  inside : disk.look directory = some .directory
  missing : disk.get? (directory ++ [name]) = none

theorem IsVacant.gainsDirectories {directory : Location} {name : Name}
    (isVacant : disk.IsVacant directory name) :
    GainsDirectories disk (disk.set (directory ++ [name]) (.directory [])) := by
  have look := look_set isVacant.inside Node.isLeaf_emptyDirectory fun old here => by
    rw [isVacant.missing] at here
    cases here
  refine ⟨rfl, fun location => ?_⟩
  rw [look]
  split
  · rename_i same
    refine .inr ⟨?_, rfl⟩
    rw [same, look_eq_map_get?, isVacant.missing]
    rfl
  · exact .inl rfl

/-! ### Where a walk ends in a vacancy -/

section

variable {purpose : Purpose} {slashed flag : Bool} {directory : Location} {name : Name}

theorem isVacant_of_walkSteps {cross : Crossing → Except Fault Arrival}
    (crossed : ∀ crossing flag, cross crossing = .ok ⟨.vacant directory name, flag⟩ →
      disk.IsVacant directory name) {steps : List Path.Step} {location : Location}
    (walked : disk.walkSteps purpose slashed cross steps location =
      .ok ⟨.vacant directory name, flag⟩) : disk.IsVacant directory name := by
  induction steps generalizing location with
  | nil =>
    rw [walkSteps] at walked
    split at walked <;> cases walked
  | cons step rest inductionHypothesis =>
    rw [walkSteps] at walked
    split at walked
    · cases walked
    · rename_i entries here
      cases step with
      | stay => exact inductionHypothesis walked
      | up => exact inductionHypothesis walked
      | name part =>
        -- Either the walk ends here because the directory has no such name, or it goes on, inside
        -- the directory or over a link.
        dsimp only at walked
        split at walked
        · cases walked
        · split at walked
          · cases walked
          · split at walked
            · rename_i missing
              split at walked
              · obtain ⟨rfl, rfl⟩ := Spot.vacant.inj (Arrival.mk.inj (Except.ok.inj walked)).1
                exact ⟨look_of_get? here, (get?_append_singleton here part).trans missing⟩
              · cases walked
            · split at walked
              · cases walked
              · exact crossed _ _ walked
            · exact inductionHypothesis walked
    · cases walked

/-- However many links a walk may follow, it ends in a vacancy only where there is one. -/
theorem isVacant_of_walk {links : Nat} {steps : List Path.Step} {location : Location}
    (walked : disk.walk purpose links slashed steps location =
      .ok ⟨.vacant directory name, flag⟩) : disk.IsVacant directory name := by
  induction links generalizing slashed flag steps location with
  | zero => exact isVacant_of_walkSteps (fun _ _ impossible => by cases impossible) walked
  | succ links inductionHypothesis =>
    exact isVacant_of_walkSteps (fun _ _ further => inductionHypothesis further) walked

theorem isVacant_of_arrive {path : Path}
    (arrived : disk.arrive purpose path = .ok ⟨.vacant directory name, flag⟩) :
    disk.IsVacant directory name := by
  rw [arrive] at arrived
  split at arrived
  · cases arrived
  · split at arrived
    · cases arrived
    · split at arrived
      · cases arrived
      · exact isVacant_of_walk arrived

end

/-! ### Making directories -/

theorem makeDirectory_gains {path : Path} {made : Disk}
    (success : disk.makeDirectory path = .ok made) : GainsDirectories disk made := by
  rw [makeDirectory] at success
  split at success
  · cases success
  · cases success
  · rename_i directory name flag arrived
    obtain rfl := Except.ok.inj success
    exact (isVacant_of_arrive arrived).gainsDirectories

/-- Making directories makes directories only, also when it fails half-way. -/
theorem makeDirectories_gains (disk : Disk) (paths : List Path) :
    GainsDirectories disk (disk.makeDirectories paths).2 := by
  induction paths with
  | nil => exact .refl disk
  | cons path above inductionHypothesis =>
    rw [makeDirectories]
    split
    · exact .refl disk
    · split
      · rename_i made success
        exact makeDirectory_gains success
      · split
        · rename_i fault made parents
          rw [parents] at inductionHypothesis
          exact inductionHypothesis
        · rename_i made parents
          rw [parents] at inductionHypothesis
          split
          · rename_i complete success
            exact inductionHypothesis.trans (makeDirectory_gains success)
          · split <;> exact inductionHypothesis
      · split <;> exact .refl disk

theorem makeParent_gains (disk : Disk) (path : Path) :
    GainsDirectories disk (disk.makeParent path).2 := by
  rw [makeParent]
  split
  · exact .refl disk
  · rename_i parent _
    have gains := makeDirectories_gains disk parent.ancestors
    split
    · rename_i made success
      rwa [success] at gains
    · rename_i fault made failure
      rwa [failure] at gains

/-- An artifact that cannot be written leaves no more behind than the directory that it would lie
in, or a part of the way there. -/
theorem write_error {root : Path} {artifact : Artifact} {failure : Failure} {after : Disk}
    (failed : disk.write root artifact = (.error failure, after)) :
    after = (disk.makeParent (root.join artifact.path)).2 ∧ GainsDirectories disk after := by
  have left : after = (disk.makeParent (root.join artifact.path)).2 := by
    rw [write] at failed
    split at failed
    · rename_i cause made parents
      rw [parents]
      exact (Prod.mk.inj failed).2.symm
    · rename_i made parents
      rw [parents]
      split at failed
      · cases failed
      · exact (Prod.mk.inj failed).2.symm
  exact ⟨left, left ▸ makeParent_gains disk _⟩

end Prebuild.Disk
