/-!
# Failures of file operations

The reasons why the system refuses an operation on a path, with their numbers and texts.
-/

namespace BuildHeader.Files

/-- Why an operation on a path fails.

* `notFound`: a name of the path, or its empty text, names nothing.
* `readFailure`: the bytes of a file cannot be read.
* `alreadyExists`: the new directory's name is taken.
* `notADirectory`: the path goes on below something that is not a directory.
* `isADirectory`: a directory stands where a file is to be written.
* `nameTooLong`: a name, or the whole path, is over its limit.
* `tooManyLinks`: the path goes through too many symbolic links.
* `nulInPath`: the path holds the NUL character, which no path can. -/
inductive Fault
  | notFound
  | readFailure
  | alreadyExists
  | notADirectory
  | isADirectory
  | nameTooLong
  | tooManyLinks
  | nulInPath
deriving DecidableEq, Repr

/-- The system's number for a fault. A path with a NUL never reaches the system. -/
def Fault.code? : Fault → Option Nat
  | .notFound => some 2
  | .readFailure => some 5
  | .alreadyExists => some 17
  | .notADirectory => some 20
  | .isADirectory => some 21
  | .nameTooLong => some 36
  | .tooManyLinks => some 40
  | .nulInPath => none

/-- The name of a fault. -/
def Fault.description : Fault → String
  | .notFound => "No such file or directory"
  | .readFailure => "Input/output error"
  | .alreadyExists => "File exists"
  | .notADirectory => "Not a directory"
  | .isADirectory => "Is a directory"
  | .nameTooLong => "File name too long"
  | .tooManyLinks => "Too many levels of symbolic links"
  | .nulInPath => "file name contained an unexpected NUL byte"

/-- The text shown to the user: the name of the fault, and its number if it has one. -/
def Fault.message (fault : Fault) : String :=
  match fault.code? with
  | some code => fault.description ++ " (os error " ++ toString code ++ ")"
  | none => fault.description

end BuildHeader.Files
