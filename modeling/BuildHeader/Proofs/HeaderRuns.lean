import BuildHeader.Command.Run
import BuildHeader.Proofs.SubjectHeaders

/-!
# What a run does with its header

A command line that can be read always has a header. What becomes of it is settled by two things
alone: whether the log rules of the environment stop the program, and whether a dry run is asked for.

Results:
1. `parse_word`: behind the word of a subcommand stand its arguments.
2. `run_usage`, `run_unreadable`: a run that ends early changes nothing.
3. `run_produces`: any other run prints its header or publishes it.
4. `run_carriesOut`: so every command line that can be read is carried out, and none of them ends
   with the status of a usage error.
-/

namespace BuildHeader.Command

open BuildHeader.Files BuildHeader.Log BuildHeader.Macro BuildHeader.Profile BuildHeader.Publish

/-! ## Definitions -/

/-- The log rules of the environment do not stop the program. -/
def isReadable (environment : Option String) : Bool :=
  (readDirectives? ((environment.getD "").toList.splitOn ',')).isSome

/-- `Produces fs path header dry result`: what a run makes of a header.

* `printed`: it is printed in a dry run, which changes nothing.
* `published`: it is published to the path, and nothing is printed.
* `failed`: it cannot be published; nothing is printed either. -/
inductive Produces (fs : FileSystem) (path header : String) : Bool → Result → Prop
  | printed {result : Result} : result.status = 0 → result.output = header → result.after = fs →
      Produces fs path header true result
  | published {result : Result} {outcome : Outcome} :
      (publish fs path header).result = .ok outcome → result.status = 0 → result.output = "" →
      result.after = (publish fs path header).after → Produces fs path header false result
  | failed {result : Result} {error : PublishError} :
      (publish fs path header).result = .error error → result.status = 1 → result.output = "" →
      result.after = (publish fs path header).after → Produces fs path header false result

/-- `CarriesOut fs environment i result`: the header is that of the subject asked for, and is printed
or published as asked for. Only log rules that cannot be read keep a run from it. -/
def CarriesOut (fs : FileSystem) (environment : Option String) (i : Invocation) (result : Result) :
    Prop :=
  if isReadable environment then
    ∃ set, i.subject.definitions = .ok set ∧
      Produces fs (joinPath i.directory i.fileName) set.render i.dryRun result
  else result = { status := 101, after := fs }

/-! ## Reading the command line -/

/-- Behind the word of a subcommand stand its arguments. -/
theorem parse_word (s : Subcommand) (words : List String) :
    parse (s.word :: words) = (Given.invocation · s 0) <$> readArguments s words := by
  have chosen : Subcommand.ofWord? s.word = some s := by cases s <;> rfl
  unfold parse readWords
  simp only [chosen]
  rfl

/-- A usage error ends the run before anything is done. -/
theorem run_usage {words : List String} {e : UsageError} (refused : parse words = .error (.usage e))
    (fs : FileSystem) (environment : Option String) :
    run fs words environment = { status := 2, complaint := some e.lines, after := fs } := by
  rw [run, refused]

/-! ## Carrying out -/

section
variable {words : List String} {environment : Option String} {i : Invocation}

theorem rules?_isSome (environment : Option String) (threshold : Threshold) :
    (rules? environment threshold).isSome = isReadable environment := by
  simp [rules?, isReadable]

/-- A run that cannot read its log rules does nothing. -/
theorem run_unreadable (parsed : parse words = .ok i) (unreadable : isReadable environment = false)
    (fs : FileSystem) : run fs words environment = { status := 101, after := fs } := by
  have none : rules? environment (thresholdOf i.verbosity) = none := by
    rw [← Option.not_isSome_iff_eq_none, rules?_isSome]
    exact Bool.eq_false_iff.mp unreadable
  simp only [run, parsed, Invocation.job, none]
  rfl

/-- A run that can read its log rules makes the header of its subject, and prints or publishes it. -/
theorem run_produces (parsed : parse words = .ok i) (readable : isReadable environment = true)
    (fs : FileSystem) :
    ∃ set, i.subject.definitions = .ok set ∧
      Produces fs (joinPath i.directory i.fileName) set.render i.dryRun
        (run fs words environment) := by
  obtain ⟨rules, read⟩ : ∃ rules, rules? environment (thresholdOf i.verbosity) = some rules := by
    rw [← Option.isSome_iff_exists, rules?_isSome]
    exact readable
  obtain ⟨set, defined, -, -⟩ := i.subject.exists_definitions
  refine ⟨set, defined, ?_⟩
  simp only [run, parsed, Invocation.job, read, Job.run, Invocation.action, defined]
  cases i.dryRun with
  | true => exact .printed rfl rfl rfl
  | false =>
    simp only [Bool.false_eq_true, if_false]
    split
    · next outcome ok => exact .published ok rfl rfl rfl
    · next error failed => exact .failed failed rfl rfl rfl

/-- A command line that can be read is carried out. -/
theorem run_carriesOut (parsed : parse words = .ok i) (fs : FileSystem)
    (environment : Option String) : CarriesOut fs environment i (run fs words environment) := by
  unfold CarriesOut
  split
  · next readable => exact run_produces parsed readable fs
  · next unreadable => exact run_unreadable parsed (by simpa using unreadable) fs

end

/-! ## Statuses -/

theorem Produces.status_ne {fs : FileSystem} {path header : String} {dry : Bool} {result : Result}
    (produces : Produces fs path header dry result) : result.status ≠ 2 := by
  cases produces with
  | printed status | published _ status | failed _ status =>
    rw [status]
    decide

/-- Carrying out a command line is no usage error. -/
theorem CarriesOut.status_ne {fs : FileSystem} {environment : Option String} {i : Invocation}
    {result : Result} (carriesOut : CarriesOut fs environment i result) : result.status ≠ 2 := by
  unfold CarriesOut at carriesOut
  split at carriesOut
  · obtain ⟨set, -, produces⟩ := carriesOut
    exact produces.status_ne
  · rw [carriesOut]
    show 101 ≠ 2
    decide

end BuildHeader.Command
