/-
This file says how a step of a generator can fail, and gives the message of each
failure. What the operating system reports is a fault; a failure is a fault seen
from the program, which knows the path it was after and whether that was one of
its inputs.
-/

import Prebuild.Path
import Prebuild.Configuration.Mismatch

namespace Prebuild

/-! ### Faults of the file system -/

/-- What can go wrong with a file. -/
inductive Fault where
  | notFound
  | exists
  | notADirectory
  | isADirectory
  | nameTooLong
  | tooManyLinks
  /-- The path holds a byte that no path may hold. -/
  | nulInPath
  /-- The file is there, but its bytes are not those of a text. -/
  | notUtf8
  /-- Anything else, with the number and the words of the operating system. -/
  | other (number : Nat) (description : Text)
deriving DecidableEq, Inhabited

/-- The message for a fault. -/
def Fault.message : Fault → Text
  | .notFound => "No such file or directory (os error 2)"
  | .exists => "File exists (os error 17)"
  | .notADirectory => "Not a directory (os error 20)"
  | .isADirectory => "Is a directory (os error 21)"
  | .nameTooLong => "File name too long (os error 36)"
  | .tooManyLinks => "Too many levels of symbolic links (os error 40)"
  | .nulInPath => "file name contained an unexpected NUL byte"
  | .notUtf8 => "stream did not contain valid UTF-8"
  | .other number description => description ++ " (os error " ++ Text.ofNat number ++ ")"

/-- Why an operation on a file did not succeed. -/
inductive Cause where
  | fault (fault : Fault)
  /-- The fault came up at an entry of a directory that was being listed. -/
  | visiting (entry : Path) (fault : Fault)
  /-- A link in a directory that was being listed leads back to that directory. -/
  | loop (entry directory : Path)
  /-- The files are not those of a file system, and say this. -/
  | reported (message : Text)
deriving DecidableEq

/-- The message for a cause. -/
def Cause.message : Cause → Text
  | .fault reason => reason.message
  | .visiting entry reason =>
    "IO error for operation on " ++ entry.shown ++ ": " ++ reason.message
  | .loop entry directory =>
    "File system loop found: " ++ entry.shown ++ " points to an ancestor " ++ directory.shown
  | .reported message => message

/-- The messages of a cause and of what is behind it. -/
def Cause.chain : Cause → List Text
  | .visiting entry reason => [(Cause.visiting entry reason).message, reason.message]
  | cause => [cause.message]

/-! ### Failures -/

/-- How a step can fail. -/
inductive Failure where
  /-- An input that must be there is not. -/
  | missingInput (path : Path)
  | io (path : Path) (cause : Cause)
  /-- A macro is called with arguments that do not fit, in a place where that is not
  tolerated. Lines are counted from one, and the line is kept without blanks at its ends. -/
  | malformed (path : Path) (line : Nat) (macroName call : Text)
  | configuration (path : Path) (problem : Configuration.Problem)
deriving DecidableEq

namespace Failure

/-- The failure of an operation on an input: it counts as missing if the file system does
not find it. -/
def ofFault (path : Path) : Fault → Failure
  | .notFound => .missingInput path
  | fault => .io path (.fault fault)

/-- The message for a failure. -/
def message : Failure → Text
  | .missingInput path => "missing input: " ++ path.shown
  | .io path cause => "I/O error on " ++ path.shown ++ ": " ++ cause.message
  | .malformed path line macroName call =>
    path.shown ++ ":" ++ Text.ofNat line ++ ": malformed " ++ macroName ++ " invocation: " ++ call
  | .configuration path _ => "invalid configuration " ++ path.shown

/-- The messages of a failure and of what is behind it. -/
def chain : Failure → List Text
  | .io path cause => (Failure.io path cause).message :: cause.chain
  | failure => [failure.message]

end Failure

end Prebuild
