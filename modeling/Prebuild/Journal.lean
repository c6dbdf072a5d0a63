/-
This file gives the notes that generators take while they work, and the results
of work that takes notes. Such a result keeps its notes whether the work
succeeded or not, and work that follows a failure takes none.
-/

import Prebuild.Failure

namespace Prebuild

/-! ### Notes -/

/-- The weight of a note, heaviest first. -/
inductive Level where
  | error
  | warn
  | info
  | debug
  | trace
deriving DecidableEq, Inhabited

/-- The rank of a level: the lighter the note, the higher. -/
def Level.rank : Level → Nat
  | .error => 1
  | .warn => 2
  | .info => 3
  | .debug => 4
  | .trace => 5

/-- The name of a level. -/
def Level.name : Level → Text
  | .error => "ERROR"
  | .warn => "WARN"
  | .info => "INFO"
  | .debug => "DEBUG"
  | .trace => "TRACE"

/-- Something that a generator notes. -/
inductive Note where
  /-- A call with arguments that do not fit has been passed over. -/
  | skipped (path : Path) (line : Nat) (macroName call : Text)
  /-- A directory has been listed. -/
  | listed (directory : Path) (count : Nat) (extension : Text)
  /-- A capability header has been turned into build-variable lines. -/
  | variables (header : Path) (count : Nat)
  /-- A source file has been searched for shell commands. A counter of 32 bits with a sign holds
  their number as long as it is below 2147483648. -/
  | commands (file : Path) (count : Nat)
  /-- The register table has been turned into identifiers. -/
  | identifiers (file : Path) (count : Nat)
deriving DecidableEq

namespace Note

/-- Only a call passed over is worth a warning. -/
def level : Note → Level
  | .skipped .. => .warn
  | _ => .debug

/-- Whether a note is a warning. -/
def isWarning (note : Note) : Bool := note.level == .warn

/-- The part of the program that a note comes from, as the console shows it. -/
def origin : Note → Text
  | .skipped .. => "pmc_generator::config"
  | .listed .. => "pmc_generator::source"
  | .variables .. => "pmc_generator::hw_config"
  | .commands .. => "pmc_generator::shell_registry"
  | .identifiers .. => "pmc_generator::register_ids"

/-- The wording of a note. -/
def message : Note → Text
  | .skipped path line macroName call =>
    path.shown ++ ":" ++ Text.ofNat line ++ ": skipping malformed " ++ macroName ++
      " invocation: " ++ call
  | .listed directory count extension =>
    directory.shown ++ ": " ++ Text.ofNat count ++ " ." ++ extension ++ " files"
  | .variables header count => header.shown ++ ": " ++ Text.ofNat count ++ " variable lines"
  | .commands file count => file.shown ++ ": " ++ Text.ofNat count ++ " commands"
  | .identifiers file count => file.shown ++ ": " ++ Text.ofNat count ++ " identifiers"

end Note

/-! ### Work that takes notes -/

/-- What has become of some work: the notes taken, and its result or the failure. -/
structure Outcome (Result : Type) where
  notes : List Note
  result : Except Failure Result

namespace Outcome

variable {First Second : Type}

/-- Work that does nothing but give a result. -/
def done (result : First) : Outcome First := ⟨[], .ok result⟩

/-- Work that does nothing but fail. -/
def fail (failure : Failure) : Outcome First := ⟨[], .error failure⟩

/-- Work that does nothing but give a result or fail. -/
def ofExcept (result : Except Failure First) : Outcome First := ⟨[], result⟩

/-- Work that takes one note. -/
def note (note : Note) : Outcome Unit := ⟨[note], .ok ()⟩

/-- Work followed by work that depends on its result. A failure is final. -/
def andThen (work : Outcome First) (next : First → Outcome Second) : Outcome Second :=
  match work.result with
  | .ok result => ⟨work.notes ++ (next result).notes, (next result).result⟩
  | .error failure => ⟨work.notes, .error failure⟩

instance : Monad Outcome where
  pure := done
  bind := andThen

/-- The lists that several pieces of work give, one after the other. The first failure is
final. -/
def collect (work : First → Outcome (List Second)) : List First → Outcome (List Second)
  | [] => pure []
  | first :: rest => do
    let results ← work first
    let others ← collect work rest
    return results ++ others

/-! ### Laws -/

@[simp] theorem pure_eq (result : First) : (pure result : Outcome First) = ⟨[], .ok result⟩ := rfl

@[simp] theorem bind_ok (notes : List Note) (result : First) (next : First → Outcome Second) :
    (Outcome.mk notes (.ok result) >>= next) =
      ⟨notes ++ (next result).notes, (next result).result⟩ := rfl

end Outcome

end Prebuild
