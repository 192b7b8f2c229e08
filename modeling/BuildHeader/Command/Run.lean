import BuildHeader.Command.Parse
import BuildHeader.Log.Environment
import BuildHeader.Publish.Write

/-!
# Running the command line

A command line is first prepared: the header is made, and it is settled what is to be done with
it and which events are shown. Then the header is printed or published.
-/

namespace BuildHeader.Command

open BuildHeader.Files BuildHeader.Log BuildHeader.Profile BuildHeader.Publish

/-! ## Preparing -/

/-- What is to be done.

* `print`: the header is printed.
* `publish`: the header is written to the path.
* `fail`: no header can be made.
* `abort`: nothing, since the log rules cannot be read. -/
inductive Action
  | print (header : String)
  | publish (path header : String)
  | fail (message : String)
  | abort
deriving DecidableEq, Repr

/-- An action, the events before it, and the rules for all events. -/
structure Job where
  action : Action
  announced : List Event
  rules : List Rule
deriving DecidableEq, Repr

/-- What is logged before a header is made. -/
def announcement : Subject → List Event
  | .directories _ => []
  | .build info => [.building info.isDebug]

/-- The action of an invocation. -/
def Invocation.action (i : Invocation) : Action :=
  match i.subject.definitions with
  | .error e => .fail e.message
  | .ok set =>
    if i.dryRun then .print set.render
    else .publish (joinPath i.directory i.fileName) set.render

/-- The job of an invocation. The rules of the environment come before the verbosity. -/
def Invocation.job (i : Invocation) (environment : Option String) : Job :=
  match rules? environment (thresholdOf i.verbosity) with
  | some rules => ⟨i.action, announcement i.subject, rules⟩
  | none => ⟨.abort, [], []⟩

/-! ## Running -/

/-- What a run shows and leaves behind.

* `status`: 0 for success, 1 for a failure, 2 for a usage error, 101 for a run that is aborted.
* `output`: what is printed.
* `complaint`: the lines of a usage error.
* `failures`: the messages of a failure, the outermost first.
* `log`: the events shown.
* `after`: the file system afterwards. -/
structure Result where
  status : Nat
  output : String := ""
  complaint : Option (List String) := none
  failures : List String := []
  log : List Event := []
  after : FileSystem

/-- The messages of a header that could not be published. -/
def failuresOf (path : String) (e : PublishError) : List String :=
  ["failed to update " ++ path, e.message] ++ (e.cause?.map Fault.message).toList

/-- Does a job. -/
def Job.run (fs : FileSystem) (job : Job) : Result :=
  match job.action with
  | .print header =>
    { status := 0, output := header, log := visible job.rules job.announced, after := fs }
  | .fail message =>
    { status := 1, failures := [message], log := visible job.rules job.announced, after := fs }
  | .abort => { status := 101, after := fs }
  | .publish path header =>
    let report := publish fs path header
    let log := visible job.rules (job.announced ++ report.log)
    match report.result with
    | .ok _ => { status := 0, log, after := report.after }
    | .error e => { status := 1, failures := failuresOf path e, log, after := report.after }

/-- Runs a command line with the log rules of its environment. -/
def run (fs : FileSystem) (words : List String) (environment : Option String) : Result :=
  match parse words with
  | .error (.help page) => { status := 0, output := page.render, after := fs }
  | .error (.usage e) => { status := 2, complaint := some e.lines, after := fs }
  | .ok invocation => (invocation.job environment).run fs

end BuildHeader.Command
