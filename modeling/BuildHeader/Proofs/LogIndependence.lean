import BuildHeader.Proofs.Verbosity

/-!
# Logging changes nothing else

How much output is asked for, and the log rules of the environment, choose the events that a run
shows. Everything else is settled by the action of the run. Only log rules that cannot be read keep
the program from its action.

Results:
1. `Job.run_unlogged`: the action of a job settles all of its result but the log.
2. `run_askingLine_unlogged`: asking for more output changes nothing else.
3. `run_unlogged_of_isReadable`: other log rules change nothing else, if the program can read both.
4. `run_unlogged_eq_iff`: so runs that differ in these alone come to the same, just if the log rules
   stop both of them or neither.
-/

namespace BuildHeader.Command

open BuildHeader.Files BuildHeader.Log BuildHeader.Publish

/-- The result but for the events shown: the status, what is printed, the complaint, the messages of
a failure, and the file system afterwards. -/
def Result.unlogged (result : Result) : Result :=
  { result with log := [] }

@[simp] theorem Result.status_unlogged (result : Result) :
    result.unlogged.status = result.status :=
  rfl

/-! ## The action alone -/

/-- The action of a job settles all of its result but the log. -/
theorem Job.run_unlogged {job other : Job} (same : job.action = other.action) (fs : FileSystem) :
    (job.run fs).unlogged = (other.run fs).unlogged := by
  unfold Job.run
  rw [same]
  cases other.action with
  | print header => rfl
  | fail message => rfl
  | abort => rfl
  | publish path header =>
    dsimp only
    cases (publish fs path header).result <;> rfl

/-- A command line that can be read does the job of what it asks for. -/
theorem run_of_parse {words : List String} {i : Invocation} (parsed : parse words = .ok i)
    (fs : FileSystem) (environment : Option String) :
    run fs words environment = (i.job environment).run fs := by
  rw [run, parsed]

/-- One that cannot be read does the same whatever its environment is. -/
theorem run_of_stop {words : List String} {stop : Stop} (stopped : parse words = .error stop)
    (fs : FileSystem) (environment environment' : Option String) :
    run fs words environment = run fs words environment' := by
  rw [run, run, stopped]
  cases stop <;> rfl

theorem Invocation.action_of_readable {i : Invocation} {environment : Option String}
    (readable : isReadable environment = true) : (i.job environment).action = i.action := by
  obtain ⟨rules, read⟩ := Option.isSome_iff_exists.mp
    ((rules?_isSome environment (thresholdOf i.verbosity)).trans readable)
  rw [job, read]

theorem Invocation.job_of_unreadable {i : Invocation} {environment : Option String}
    (unreadable : isReadable environment = false) : i.job environment = ⟨.abort, [], []⟩ := by
  have none : rules? environment (thresholdOf i.verbosity) = none := by
    rw [← Option.not_isSome_iff_eq_none, rules?_isSome]
    exact Bool.eq_false_iff.mp unreadable
  rw [job, none]

/-- The verbosity changes no action. -/
theorem Invocation.job_action_of_verbosity (i : Invocation) (verbosity : Nat)
    (environment : Option String) :
    (job { i with verbosity } environment).action = (i.job environment).action := by
  cases readable : isReadable environment with
  | true =>
    rw [action_of_readable readable, action_of_readable readable]
    rfl
  | false => rw [job_of_unreadable readable, job_of_unreadable readable]

/-! ## Runs that differ in their log alone -/

/-- Asking for more output changes nothing but the log. -/
theorem run_askingLine_unlogged (fs : FileSystem) (s : Subcommand) (before behind : Nat)
    (words : List String) (environment : Option String) :
    (run fs (askingLine s before behind words) environment).unlogged =
      (run fs (s.word :: words) environment).unlogged := by
  cases given : readArguments s words with
  | error stop =>
    have plain : parse (s.word :: words) = .error stop := Counts.nil.parse_error given
    rw [run, run, parse_askingLine_error given, plain]
  | ok g =>
    have plain : parse (s.word :: words) = .ok (g.invocation s 0) := Counts.nil.parse_ok given
    rw [run_of_parse (parse_askingLine_ok given before behind), run_of_parse plain]
    refine Job.run_unlogged ?_ fs
    rw [invocation_adjust]
    exact Invocation.job_action_of_verbosity (g.invocation s 0) _ environment

/-- Other log rules change nothing but the log, if they stop the program just as the first do. -/
theorem run_unlogged_of_isReadable {environment environment' : Option String}
    (same : isReadable environment = isReadable environment') (fs : FileSystem)
    (words : List String) :
    (run fs words environment).unlogged = (run fs words environment').unlogged := by
  cases parsed : parse words with
  | error stop => rw [run_of_stop parsed]
  | ok i =>
    rw [run_of_parse parsed, run_of_parse parsed]
    refine Job.run_unlogged ?_ fs
    cases readable : isReadable environment with
    | true =>
      rw [Invocation.action_of_readable readable, Invocation.action_of_readable (same ▸ readable)]
    | false =>
      rw [Invocation.job_of_unreadable readable, Invocation.job_of_unreadable (same ▸ readable)]

theorem Produces.status_ne_abort {fs : FileSystem} {path header : String} {dry : Bool}
    {result : Result} (produces : Produces fs path header dry result) : result.status ≠ 101 := by
  cases produces with
  | printed status | published _ status | failed _ status =>
    rw [status]
    decide

/-- An accepted command line ends with status 101 just if it cannot read its log rules. -/
theorem status_eq_abort_iff {words : List String} {i : Invocation} (parsed : parse words = .ok i)
    (fs : FileSystem) (environment : Option String) :
    (run fs words environment).status = 101 ↔ isReadable environment = false := by
  cases readable : isReadable environment with
  | false =>
    rw [run_unreadable parsed readable]
    exact iff_of_true rfl rfl
  | true =>
    obtain ⟨set, -, produces⟩ := run_produces parsed readable fs
    exact iff_of_false produces.status_ne_abort (by simp)

/-- Runs that differ only in how much output is asked for around the subcommand's word, and in the
log rules of the environment, come to the same but for their log, just if the log rules stop both or
neither of them, or the command line is not accepted. Where they stop an accepted one it ends with
status 101, prints nothing and changes nothing. -/
theorem run_unlogged_eq_iff (fs : FileSystem) (s : Subcommand) (words : List String)
    (before behind before' behind' : Nat) (environment environment' : Option String) :
    ((run fs (askingLine s before behind words) environment).unlogged =
        (run fs (askingLine s before' behind' words) environment').unlogged ↔
      ∀ i, parse (s.word :: words) = .ok i → isReadable environment = isReadable environment') ∧
    ∀ i, parse (s.word :: words) = .ok i → isReadable environment = false →
      (run fs (askingLine s before behind words) environment).unlogged =
        { status := 101, after := fs } := by
  rw [run_askingLine_unlogged, run_askingLine_unlogged]
  refine ⟨⟨fun same i parsed => ?_, fun readable => ?_⟩, fun i parsed unreadable => ?_⟩
  · have stopped : isReadable environment = false ↔ isReadable environment' = false := by
      rw [← status_eq_abort_iff parsed fs, ← status_eq_abort_iff parsed fs,
        ← Result.status_unlogged, same, Result.status_unlogged]
    simpa using not_congr stopped
  · cases parsed : parse (s.word :: words) with
    | error stop => rw [run_of_stop parsed]
    | ok i => exact run_unlogged_of_isReadable (readable i parsed) fs _
  · rw [run_unreadable parsed unreadable]
    rfl

/-- A blank before a letter outside of ASCII stops the second of two runs that are alike
otherwise. -/
theorem not_run_unlogged_eq_after_blank :
    (run FileSystem.empty (askingLine .dirs 0 0 ["o"]) none).unlogged ≠
      (run FileSystem.empty (askingLine .dirs 0 0 ["o"]) (some " é=info")).unlogged := by
  have given : readArguments .dirs ["o"] = .ok { directory := some "o" } := rfl
  have accepted := parse_askingLine_ok given 0 0
  have torn : isReadable (some " é=info") = false := by decide +kernel
  have unset : isReadable none = true := by decide +kernel
  intro same
  have stopped := (status_eq_abort_iff accepted FileSystem.empty _).mpr torn
  rw [← Result.status_unlogged, ← same, Result.status_unlogged, status_eq_abort_iff accepted,
    unset] at stopped
  cases stopped

end BuildHeader.Command
