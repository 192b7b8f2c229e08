import BuildHeader.Files.Fault

/-!
# Results of publishing

What became of a header file, and why a header could not be published.
-/

namespace BuildHeader.Publish

open BuildHeader.Files

/-- What was done to a file.

* `unchanged`: it already held the text, and nothing was written.
* `created`: it was not there.
* `updated`: it held something else. -/
inductive Outcome
  | unchanged
  | created
  | updated
deriving DecidableEq, Repr

/-- The word for an outcome. -/
def Outcome.word : Outcome → String
  | .unchanged => "unchanged"
  | .created => "created"
  | .updated => "updated"

/-- Why a header is not published.

* `createDirectory`: the directory named cannot be made.
* `readExisting`: what stands at the path cannot be looked up or read.
* `write`: the file cannot be written.
* `notAFile`: something that is not a regular file stands at the path. -/
inductive PublishError
  | createDirectory (path : String) (cause : Fault)
  | readExisting (path : String) (cause : Fault)
  | write (path : String) (cause : Fault)
  | notAFile (path : String)
deriving DecidableEq, Repr

/-- The text shown to the user. -/
def PublishError.message : PublishError → String
  | .createDirectory path _ => "failed to create output directory " ++ path
  | .readExisting path _ => "failed to read existing header " ++ path
  | .write path _ => "failed to write header " ++ path
  | .notAFile path => path ++ " exists and is not a regular file"

/-- The fault of the file system behind an error. -/
def PublishError.cause? : PublishError → Option Fault
  | .createDirectory _ cause => some cause
  | .readExisting _ cause => some cause
  | .write _ cause => some cause
  | .notAFile _ => none

end BuildHeader.Publish
