import BuildHeader.Digest
import BuildHeader.Files.Operations
import BuildHeader.Log.Event

/-!
# Publishing a header

A header is written only when its file does not hold the text already, so that an unchanged
header never looks new to what is built from it. Missing directories are made first.
-/

namespace BuildHeader.Publish

open BuildHeader.Files BuildHeader.Log

/-! ## Judging what is there -/

/-- What stands at the path of a header.

* `file`: a regular file and its bytes.
* `other`: something else.
* `missing`: nothing.
* `unknown`: the path cannot be looked up, or its file cannot be read. -/
inductive Existing
  | file (bytes : ByteArray)
  | other
  | missing
  | unknown (cause : Fault)

/-- What stands at a path. -/
def existing (fs : FileSystem) (path : String) : Existing :=
  match fs.find path with
  | .ok (.file bytes _) => .file bytes
  | .ok .unreadable => .unknown .readFailure
  | .ok _ => .other
  | .error .notFound => .missing
  | .error cause => .unknown cause

/-- What is to be done.

* `keep`: nothing, the file holds the text.
* `write`: the text is to be written, with that outcome.
* `refuse`: nothing can be done. -/
inductive Verdict
  | keep
  | write (outcome : Outcome)
  | refuse (error : PublishError)

/-- Judges by what stands at the path, and says what was seen. -/
def judge (path contents : String) : Existing → Verdict × List Event
  | .file bytes =>
    if bytes = contents.toUTF8 then (.keep, [.unchanged path])
    else (.write .updated, [.differs path (Digest.ofBytes bytes)])
  | .other => (.refuse (.notAFile path), [])
  | .missing => (.write .created, [])
  | .unknown cause => (.refuse (.readExisting path cause), [])

/-! ## Publishing -/

/-- Writes a text, after the directories above its path are made. -/
def store (fs : FileSystem) (path contents : String) : Except PublishError Unit × FileSystem :=
  let above := directoriesAbove path
  match fs.ensureDirectories above with
  | (.error cause, fs) => (.error (.createDirectory (above.headD path) cause), fs)
  | (.ok (), fs) =>
    match fs.writeFile path contents.toUTF8 with
    | .error cause => (.error (.write path cause), fs)
    | .ok fs => (.ok (), fs)

/-- The result of publishing, what was logged, and the file system afterwards. -/
structure Report where
  result : Except PublishError Outcome
  log : List Event
  after : FileSystem

/-- Publishes a text: writes it to the path unless the file there holds it already. -/
def publish (fs : FileSystem) (path contents : String) : Report :=
  let (verdict, seen) := judge path contents (existing fs path)
  let log := .generated path (Digest.ofText contents) :: seen
  match verdict with
  | .keep => ⟨.ok .unchanged, log, fs⟩
  | .refuse error => ⟨.error error, log, fs⟩
  | .write outcome =>
    match store fs path contents with
    | (.error error, after) => ⟨.error error, log, after⟩
    | (.ok (), after) => ⟨.ok outcome, log ++ [.written path outcome], after⟩

end BuildHeader.Publish
