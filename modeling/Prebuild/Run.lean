/-
This file runs generators one after the other and settles their artifacts: writes
them, compares them with what is there, or leaves them alone.

A run is told as the events that happened in it, in order. A generator takes no
artifact to the disk before it has given all of them, and the next generator starts
only when those are settled; the first failure ends the run. Finding an artifact
out of date is no failure, so a comparison goes on to the end.
-/

import Prebuild.Workspace

namespace Prebuild

/-- What a run does with artifacts. -/
inductive Mode where
  /-- Leaves them alone. -/
  | dry
  | write
  /-- Compares them with what is there. -/
  | check
deriving DecidableEq, Inhabited

/-- What has become of an artifact. -/
inductive Verdict where
  | generated
  | written
  | upToDate
  | outOfDate
deriving DecidableEq

/-- Something that happens in a run. -/
inductive Event where
  | started (generator : Generator)
  | noted (note : Note)
  | settled (generator : Generator) (artifact : Artifact) (verdict : Verdict)
deriving DecidableEq

/-- What ends a run before all generators are done. -/
inductive Halt where
  /-- A generator gave no artifacts. -/
  | generating (generator : Generator) (failure : Failure)
  /-- An artifact could be neither written nor compared. -/
  | settling (generator : Generator) (failure : Failure)
deriving DecidableEq

/-- The failure behind a halt. -/
def Halt.failure : Halt → Failure
  | .generating _ failure => failure
  | .settling _ failure => failure

/-- A run as it is told afterwards. -/
structure Report where
  events : List Event
  halt : Option Halt
deriving DecidableEq

namespace Run

variable {Effect : Type → Type} [Monad Effect]

/-- Settles one artifact. -/
def settle (workspace : Workspace Effect) (root : Path) (mode : Mode) (artifact : Artifact) :
    Effect (Except Failure Verdict) :=
  match mode with
  | .dry => return .ok .generated
  | .write => do
    match ← workspace.write root artifact with
    | .ok () => return .ok .written
    | .error failure => return .error failure
  | .check => do
    match ← workspace.isCurrent root artifact with
    | .ok true => return .ok .upToDate
    | .ok false => return .ok .outOfDate
    | .error failure => return .error failure

/-- Settles the artifacts of a generator in order. -/
def settleAll (workspace : Workspace Effect) (root : Path) (mode : Mode)
    (generator : Generator) : List Artifact → Effect Report
  | [] => return ⟨[], none⟩
  | artifact :: rest => do
    match ← settle workspace root mode artifact with
    | .error failure => return ⟨[], some (.settling generator failure)⟩
    | .ok verdict =>
      let others ← settleAll workspace root mode generator rest
      return ⟨.settled generator artifact verdict :: others.events, others.halt⟩

/-- Runs one generator. -/
def single (workspace : Workspace Effect) (root : Path) (settings : Settings) (mode : Mode)
    (generator : Generator) : Effect Report := do
  let source ← workspace.source root settings generator
  let outcome := generator.generate settings source
  let begun := .started generator :: outcome.notes.map Event.noted
  match outcome.result with
  | .error failure => return ⟨begun, some (.generating generator failure)⟩
  | .ok artifacts =>
    let settled ← settleAll workspace root mode generator artifacts
    return ⟨begun ++ settled.events, settled.halt⟩

/-- Runs generators in order, up to the first that is halted. -/
def sequence (workspace : Workspace Effect) (root : Path) (settings : Settings) (mode : Mode) :
    List Generator → Effect Report
  | [] => return ⟨[], none⟩
  | generator :: rest => do
    let first ← single workspace root settings mode generator
    match first.halt with
    | some halt => return ⟨first.events, some halt⟩
    | none =>
      let others ← sequence workspace root settings mode rest
      return ⟨first.events ++ others.events, others.halt⟩

end Run

namespace Report

/-- The artifacts that have been settled, in order, with what has become of them. -/
def settled (report : Report) : List (Generator × Artifact × Verdict) :=
  report.events.filterMap fun event =>
    match event with
    | .settled generator artifact verdict => some (generator, artifact, verdict)
    | _ => none

/-- The notes that generators have taken, in order. -/
def notes (report : Report) : List Note :=
  report.events.filterMap fun event =>
    match event with
    | .noted note => some note
    | _ => none

/-- The artifacts found out of date, in order. -/
def stale (report : Report) : List Artifact :=
  report.settled.filterMap fun entry =>
    if entry.2.2 = .outOfDate then some entry.2.1 else none

/-- The number of artifacts that are as they should be after the run. A counter of 32 bits with a
sign holds it as long as there are fewer than 2147483648 of them. -/
def countGood (report : Report) : Nat :=
  report.settled.countP fun entry => decide (entry.2.2 ≠ .outOfDate)

end Report

end Prebuild
