import BuildHeader.Command.Run

/-!
# The program

The command line at work on the files of the system. What is to be done, and what is made of the
system's answers, is settled by the library; here the operations are carried out.
-/

namespace BuildHeader.Program

open BuildHeader.Command BuildHeader.Files BuildHeader.Log BuildHeader.Publish

/-- The system's number in a code, which some operations give negated. -/
def numberOf (code : UInt32) : Nat :=
  if code.toNat < 0x80000000 then code.toNat else (-code).toNat

/-- The system's number for a failure. -/
def failureNumber : IO.Error → Nat
  | .alreadyExists _ code _ | .noFileOrDirectory _ code _ | .inappropriateType _ code _
  | .invalidArgument _ code _ | .permissionDenied _ code _ | .resourceExhausted _ code _
  | .noSuchThing _ code _ | .interrupted _ code _ => numberOf code
  | .otherError code _ | .resourceBusy code _ | .hardwareFault code _ | .illegalOperation code _ =>
    numberOf code
  | _ => 0

/-- The fault of a failure. A failure of any other kind counts as one of reading. -/
def faultOf (failure : IO.Error) : Fault :=
  [Fault.notFound, .alreadyExists, .notADirectory, .isADirectory, .nameTooLong, .tooManyLinks].find?
    (·.code? == some (failureNumber failure)) |>.getD .readFailure

/-- Carries out an operation on a path, unless the path is refused. -/
def attempt {α : Type} (path : String) (operation : IO α) : IO (Except Fault α) := do
  match FileSystem.refusal? path with
  | some fault => return .error fault
  | none =>
    try return .ok (← operation)
    catch failure => return .error (faultOf failure)

/-- The kind of node that a path names. -/
def kindAt (path : String) : IO (Except Fault IO.FS.FileType) :=
  let entry : IO.FS.DirEntry := ⟨path, ""⟩
  attempt path do return (← entry.root.metadata).type

/-- What stands at a path. -/
def existingAt (path : String) : IO Existing := do
  match ← kindAt path with
  | .error .notFound => return .missing
  | .error cause => return .unknown cause
  | .ok .file =>
    match ← attempt path (IO.FS.readBinFile path) with
    | .ok bytes => return .file bytes
    | .error cause => return .unknown cause
  | .ok _ => return .other

/-- Makes the directory of a path unless it is there. -/
def ensureDirectory (path : String) : IO (Except Fault Unit) := do
  match ← attempt path (IO.FS.createDir path) with
  | .ok () => return .ok ()
  | .error fault =>
    match ← kindAt path with
    | .ok .dir => return .ok ()
    | _ => return .error fault

/-- Makes a directory and those above it that are missing, given with the nearest first. -/
def ensureDirectories : List String → IO (Except Fault Unit)
  | [] => return .ok ()
  | path :: above => do
    match ← ensureDirectory path with
    | .error .notFound =>
      match ← ensureDirectories above with
      | .ok () => ensureDirectory path
      | failed => return failed
    | done => return done

/-- Writes a text, after the directories above its path are made. -/
def storeAt (path contents : String) : IO (Except PublishError Unit) := do
  let above := directoriesAbove path
  match ← ensureDirectories above with
  | .error cause => return .error (.createDirectory (above.headD path) cause)
  | .ok () =>
    match ← attempt path (IO.FS.writeBinFile path contents.toUTF8) with
    | .error cause => return .error (.write path cause)
    | .ok () => return .ok ()

/-- Logs the events that the rules let through. -/
def logVisible (rules : List Rule) (events : List Event) : IO Unit :=
  (visible rules events).forM fun event => IO.eprintln event.line

/-- Publishes a text. -/
def publishAt (rules : List Rule) (path contents : String) : IO (Except PublishError Unit) := do
  logVisible rules [.generated path (Digest.ofText contents)]
  let (verdict, seen) := judge path contents (← existingAt path)
  logVisible rules seen
  match verdict with
  | .keep => return .ok ()
  | .refuse error => return .error error
  | .write outcome =>
    let result ← storeAt path contents
    if result matches .ok () then logVisible rules [.written path outcome]
    return result

/-- Says why a run fails. -/
def complain (failures : List String) : IO UInt32 := do
  IO.eprintln "Error:"
  failures.forM fun message => IO.eprintln ("  " ++ message)
  return 1

/-- Does a job, and gives the status of the run. -/
def perform (job : Job) : IO UInt32 := do
  logVisible job.rules job.announced
  match job.action with
  | .print header => do
    IO.print header
    return 0
  | .fail message => complain [message]
  | .abort => do
    IO.eprintln "The log rules are cut within a character."
    return 101
  | .publish path header =>
    match ← publishAt job.rules path header with
    | .ok () => return 0
    | .error e => complain (failuresOf path e)

end BuildHeader.Program

open BuildHeader.Command in
/-- Runs the command line. -/
def main (words : List String) : IO UInt32 := do
  match parse words with
  | .error (.help page) =>
    IO.print page.render
    return 0
  | .error (.usage e) =>
    e.lines.forM IO.eprintln
    return 2
  | .ok invocation => BuildHeader.Program.perform (invocation.job (← IO.getEnv "RUST_LOG"))
