import BuildHeader.Proofs.LogIndependence
import BuildHeader.Proofs.PublishingLog

/-!
# More output never shows less

Each time that more output is asked for lowers the level down to which events are shown, so that a
run shows at least what it showed before. What is asked for behind the subcommand's word counts
alone, however: it can be less than what was asked for before that word.

Results:
1. `visible_sublist`: a higher verbosity shows all events of a lower one, in their order.
2. `visible_of_two_le`: from a verbosity of two on every event is shown.
3. `run_log_eq`: the log of a run is chosen from events that the verbosity does not change.
4. `logLines_sublist_verbose_iff`: asking once more before the subcommand's word never shows less;
   directly behind it, it does just where more was asked for before the word, and nothing behind it.
-/

namespace BuildHeader.Log

/-! ## Levels -/

theorem thresholdOf_allows (n : Nat) (level : Level) :
    (thresholdOf n).allows level = decide (level.rank ≤ n + 2) := by
  match n with
  | 0 | 1 | 2 => cases level <;> rfl
  | n + 3 =>
    -- The last threshold lets everything through.
    have all : level.rank ≤ Level.trace.rank := by cases level <;> decide
    have within : level.rank ≤ n + 3 + 2 := Nat.le_trans all (Nat.le_add_left 5 n)
    exact (decide_eq_true all).trans (decide_eq_true within).symm

theorem visible_general (n : Nat) (events : List Event) :
    visible [Rule.general (thresholdOf n)] events =
      events.filter fun event => decide (event.level.rank ≤ n + 2) := by
  refine List.filter_congr fun event _ => ?_
  rw [allows_general, thresholdOf_allows]

/-- A higher verbosity shows all events of a lower one, in their order. -/
theorem visible_sublist {m n : Nat} (le : m ≤ n) (events : List Event) :
    (visible [Rule.general (thresholdOf m)] events).Sublist
      (visible [Rule.general (thresholdOf n)] events) := by
  have again : events.filter (fun event => decide (event.level.rank ≤ m + 2)) =
      (events.filter fun event => decide (event.level.rank ≤ n + 2)).filter
        fun event => decide (event.level.rank ≤ m + 2) := by
    rw [List.filter_filter]
    refine List.filter_congr fun event _ => ?_
    rw [Bool.eq_iff_iff, Bool.and_eq_true, decide_eq_true_iff, decide_eq_true_iff]
    omega
  rw [visible_general, visible_general, again]
  exact List.filter_sublist

/-- From a verbosity of two on every event is shown. -/
theorem visible_of_two_le {n : Nat} (le : 2 ≤ n) (events : List Event) :
    visible [Rule.general (thresholdOf n)] events = events := by
  rw [visible_general, List.filter_eq_self]
  intro event _
  have rank : event.level.rank ≤ 4 := by cases event <;> simp [Event.level, Level.rank]
  exact decide_eq_true (by omega)

/-- A verbosity of one shows fewer events where one of them is for finding faults. -/
theorem length_visible_one_lt {events : List Event} {event : Event} (member : event ∈ events)
    (debug : event.level = .debug) :
    (visible [Rule.general (thresholdOf 1)] events).length < events.length := by
  rw [visible_general, List.length_filter_lt_length_iff_exists]
  exact ⟨event, member, by simp [debug, Level.rank]⟩

end BuildHeader.Log

namespace BuildHeader.Command

open BuildHeader.Files BuildHeader.Log BuildHeader.Profile BuildHeader.Publish

/-! ## Definitions -/

/-- The lines of the log. -/
def Result.logLines (result : Result) : List String :=
  result.log.map Event.line

/-- The events of an invocation, shown or not. -/
def Invocation.events (fs : FileSystem) (i : Invocation) : List Event :=
  announcement i.subject ++
    match i.action with
    | .publish path header => (publish fs path header).log
    | _ => []

/-- The command line is accepted, with more output asked for at least twice before the subcommand's
word and not at all behind it, and it is no dry run of the subcommand that announces nothing. -/
def AsksInFrontOnly (front : List String) (s : Subcommand) (words : List String) : Prop :=
  ∃ i j, parse (front ++ s.word :: words) = .ok i ∧ parse (s.word :: words) = .ok j ∧
    2 ≤ i.verbosity ∧ j.verbosity = 0 ∧ (i.dryRun = true → s = .full)

/-! ## The log of a run -/

section
variable {fs : FileSystem} {words : List String} {i : Invocation}

/-- The log of a run is chosen from the events of what is asked for. -/
theorem run_log_eq (parsed : parse words = .ok i) (fs : FileSystem) :
    (run fs words none).log = visible [Rule.general (thresholdOf i.verbosity)] (i.events fs) := by
  rw [run_of_parse parsed, Invocation.job, rules?_none, Invocation.events]
  unfold Job.run
  cases action : i.action with
  | print header => simp
  | fail message => simp
  | abort =>
    unfold Invocation.action at action
    split at action
    · cases action
    · split at action <;> cases action
  | publish path header =>
    dsimp only
    cases (publish fs path header).result <;> rfl

theorem logLines_of_stop {stop : Stop} (stopped : parse words = .error stop) (fs : FileSystem)
    (environment : Option String) : (run fs words environment).logLines = [] := by
  rw [run, stopped]
  cases stop <;> rfl

theorem Invocation.events_verbosity (i : Invocation) (verbosity : Nat) (fs : FileSystem) :
    events fs { i with verbosity } = i.events fs :=
  rfl

/-- How much output is asked for does not change the events. -/
theorem events_invocation (g : Given) (s : Subcommand) (before more : Nat) (fs : FileSystem) :
    ((g.adjust id more).invocation s before).events fs = (g.invocation s 0).events fs := by
  rw [invocation_adjust, Invocation.events_verbosity]

theorem logLines_sublist_of_le {words' : List String} {j : Invocation}
    (parsed : parse words = .ok i) (parsed' : parse words' = .ok j)
    (same : i.events fs = j.events fs) (le : i.verbosity ≤ j.verbosity) :
    (run fs words none).logLines.Sublist (run fs words' none).logLines := by
  refine List.Sublist.map Event.line ?_
  rw [run_log_eq parsed, run_log_eq parsed', same]
  exact visible_sublist le (j.events fs)

/-- From a verbosity of two down to one an event for finding faults is lost. -/
theorem length_logLines_lt {words' : List String} {j : Invocation}
    (parsed : parse words = .ok i) (parsed' : parse words' = .ok j)
    (same : i.events fs = j.events fs) (many : 2 ≤ i.verbosity) (one : j.verbosity = 1)
    {event : Event} (member : event ∈ i.events fs) (debug : event.level = .debug) :
    (run fs words' none).logLines.length < (run fs words none).logLines.length := by
  rw [Result.logLines, Result.logLines, List.length_map, List.length_map, run_log_eq parsed,
    run_log_eq parsed', ← same, one, visible_of_two_le many]
  exact length_visible_one_lt member debug

/-- A dry run of directory names has no events. -/
theorem events_of_dryRun {g : Given} {before : Nat} (dryRun : g.dryRun = true) (fs : FileSystem) :
    (g.invocation .dirs before).events fs = [] := by
  unfold Invocation.events Invocation.action
  obtain ⟨set, defined, -, -⟩ := (g.invocation .dirs before).subject.exists_definitions
  have asked : (g.invocation .dirs before).dryRun = true := dryRun
  rw [defined]
  simp only [asked, if_true]
  rfl

/-- Any other run has an event for finding faults. -/
theorem exists_debug_event {g : Given} {s : Subcommand} (logs : g.dryRun = true → s = .full)
    (before : Nat) (fs : FileSystem) :
    ∃ event ∈ (g.invocation s before).events fs, event.level = .debug := by
  cases s with
  | full => exact ⟨_, List.mem_append_left _ (List.mem_singleton_self _), rfl⟩
  | dirs =>
    have inEarnest : (g.invocation .dirs before).dryRun = false :=
      Bool.eq_false_iff.mpr fun dryRun => nomatch logs dryRun
    obtain ⟨set, defined, -, -⟩ := (g.invocation .dirs before).subject.exists_definitions
    let i := g.invocation .dirs before
    refine ⟨.generated (joinPath i.directory i.fileName) (Digest.ofText set.render),
      List.mem_append_right _ ?_, rfl⟩
    rw [Invocation.action, defined]
    simp only [inEarnest]
    exact generated_mem_log_iff.mpr rfl

end

/-! ## Asking once more -/

section
variable {front words : List String} {s : Subcommand} {g : Given} {more : Nat}

theorem verbosity_invocation (g : Given) (s : Subcommand) (more : Nat) :
    (g.invocation s more).verbosity = if g.verbosity = 0 then more else g.verbosity :=
  rfl

theorem asksInFrontOnly_iff (counts : Counts front more) (given : readArguments s words = .ok g) :
    AsksInFrontOnly front s words ↔
      2 ≤ more ∧ g.verbosity = 0 ∧ (g.dryRun = true → s = .full) := by
  have whole : parse (front ++ s.word :: words) = .ok (g.invocation s more) := counts.parse_ok given
  have alone : parse (s.word :: words) = .ok (g.invocation s 0) := Counts.nil.parse_ok given
  unfold AsksInFrontOnly
  constructor
  · rintro ⟨i, j, parsed, parsedAlone, many, none, logs⟩
    rw [whole] at parsed
    rw [alone] at parsedAlone
    cases parsed
    cases parsedAlone
    have notBehind : g.verbosity = 0 := by
      rw [verbosity_invocation] at none
      split at none <;> assumption
    rw [verbosity_invocation, if_pos notBehind] at many
    exact ⟨many, notBehind, logs⟩
  · rintro ⟨many, notBehind, logs⟩
    refine ⟨_, _, whole, alone, ?_, ?_, logs⟩
    · rw [verbosity_invocation, if_pos notBehind]
      exact many
    · rw [verbosity_invocation, if_pos notBehind]

/-- Before the subcommand's word nothing is lost. -/
theorem logLines_sublist_before (counts : Counts front more)
    (given : readArguments s words = .ok g) (fs : FileSystem) :
    (run fs (front ++ s.word :: words) none).logLines.Sublist
      (run fs (front ++ "-v" :: s.word :: words) none).logLines := by
  have before := (counts.append .verbose).parse_ok given
  rw [List.append_assoc, List.singleton_append] at before
  have same : (g.invocation s more).events fs = (g.invocation s (more + 1)).events fs :=
    (events_invocation g s more 0 fs).trans (events_invocation g s (more + 1) 0 fs).symm
  refine logLines_sublist_of_le (counts.parse_ok given) before same ?_
  rw [verbosity_invocation, verbosity_invocation]
  split <;> omega

/-- Behind it the events for finding faults are lost if they were asked for in front only. -/
theorem logLines_sublist_behind_iff (counts : Counts front more)
    (given : readArguments s words = .ok g) (fs : FileSystem) :
    (run fs (front ++ s.word :: words) none).logLines.Sublist
        (run fs (front ++ s.word :: "-v" :: words) none).logLines ↔
      ¬ (2 ≤ more ∧ g.verbosity = 0 ∧ (g.dryRun = true → s = .full)) := by
  have plain := counts.parse_ok given
  have asked : readArguments s ("-v" :: words) = .ok (g.adjust id 1) := by
    rw [readArguments_verbose, given]
    rfl
  have behind := counts.parse_ok asked
  have same : (g.invocation s more).events fs = ((g.adjust id 1).invocation s more).events fs :=
    (events_invocation g s more 0 fs).trans (events_invocation g s more 1 fs).symm
  have once : ((g.adjust id 1).invocation s more).verbosity = g.verbosity + 1 := rfl
  have shows : (g.invocation s more).verbosity ≤ g.verbosity + 1 →
      (run fs (front ++ s.word :: words) none).logLines.Sublist
        (run fs (front ++ s.word :: "-v" :: words) none).logLines :=
    fun le => logLines_sublist_of_le plain behind same (once ▸ le)
  rw [verbosity_invocation] at shows
  by_cases notBehind : g.verbosity = 0
  · rw [if_pos notBehind] at shows
    rcases Nat.lt_or_ge more 2 with few | many
    · have le : more ≤ g.verbosity + 1 := notBehind ▸ Nat.le_of_lt_succ few
      exact iff_of_true (shows le) fun asked => absurd asked.1 (Nat.not_le.mpr few)
    by_cases logs : g.dryRun = true → s = .full
    · refine iff_of_false (fun sublist => ?_) (not_not_intro ⟨many, notBehind, logs⟩)
      obtain ⟨event, member, debug⟩ := exists_debug_event logs more fs
      have atLeastTwo : 2 ≤ (g.invocation s more).verbosity := by
        rw [verbosity_invocation, if_pos notBehind]
        exact many
      have one : ((g.adjust id 1).invocation s more).verbosity = 1 := by rw [once, notBehind]
      have fewer := length_logLines_lt plain behind same atLeastTwo one member debug
      exact absurd sublist.length_le (Nat.not_le.mpr fewer)
    · -- A dry run of directory names has nothing to show.
      refine iff_of_true ?_ fun asked => logs asked.2.2
      obtain ⟨dryRun, -⟩ := Classical.not_imp.mp logs
      cases s with
      | full => exact absurd (fun _ => rfl) logs
      | dirs =>
        rw [Result.logLines, run_log_eq plain, events_of_dryRun dryRun]
        exact List.nil_sublist _
  · rw [if_neg notBehind] at shows
    exact iff_of_true (shows (Nat.le_succ _)) fun asked => notBehind asked.2.1

end

/-- Asking for more output once more directly before the subcommand's word shows all lines of the
log as before. Directly behind that word it does so just if it was not asked for in front of it
only: what is asked for behind counts alone, and may be less. -/
theorem logLines_sublist_verbose_iff {front : List String}
    (notChosen : ∀ word ∈ front, Subcommand.ofWord? word = none) (s : Subcommand)
    (words : List String) (fs : FileSystem) :
    (run fs (front ++ s.word :: words) none).logLines.Sublist
        (run fs (front ++ "-v" :: s.word :: words) none).logLines ∧
      ((run fs (front ++ s.word :: words) none).logLines.Sublist
          (run fs (front ++ s.word :: "-v" :: words) none).logLines ↔
        ¬ AsksInFrontOnly front s words) := by
  -- A command line that is not accepted logs nothing.
  have unaccepted : ∀ stop, parse (front ++ s.word :: words) = .error stop →
      (∀ lines, (run fs (front ++ s.word :: words) none).logLines.Sublist lines) ∧
        ¬ AsksInFrontOnly front s words := by
    intro stop stopped
    rw [logLines_of_stop stopped]
    refine ⟨fun lines => List.nil_sublist lines, ?_⟩
    rintro ⟨i, j, parsed, -⟩
    rw [stopped] at parsed
    cases parsed
  rcases counts_or_stops notChosen with ⟨more, counts⟩ | stops
  · cases given : readArguments s words with
    | ok g =>
      rw [asksInFrontOnly_iff counts given]
      exact ⟨logLines_sublist_before counts given fs, logLines_sublist_behind_iff counts given fs⟩
    | error stop =>
      obtain ⟨sublist, notAsked⟩ := unaccepted stop (counts.parse_error given)
      exact ⟨sublist _, iff_of_true (sublist _) notAsked⟩
  · obtain ⟨stop, stopped⟩ := stops 0 (s.word :: words)
    obtain ⟨sublist, notAsked⟩ := unaccepted stop stopped
    exact ⟨sublist _, iff_of_true (sublist _) notAsked⟩

/-- The arguments of a full header: the options that must be given, and the output directory. -/
def fullArguments : List String :=
  ["--version=1.0", "--revision=r1", "--shlib-version=1", "--release-date=2024-01-01",
    "--hijri-release-date=1445-06-19", "--compiler=GNU", "--build-type=Release",
    "--system-name=Linux", "--system-processor=x86_64", "o"]

/-- Asked for once before the subcommand's word, more output can be asked for on either side. The
full header is written, and a line says so. -/
theorem logLines_sublist_verbose_once :
    (∀ word ∈ ["-v"], Subcommand.ofWord? word = none) ∧
      (run FileSystem.empty ("-v" :: "full" :: fullArguments) none).status = 0 ∧
      (run FileSystem.empty ("-v" :: "full" :: fullArguments) none).logLines.length = 1 ∧
      (run FileSystem.empty ("-v" :: "full" :: fullArguments) none).logLines.Sublist
        (run FileSystem.empty ("-v" :: "-v" :: "full" :: fullArguments) none).logLines ∧
      (run FileSystem.empty ["-v", "dirs", "o"] none).logLines.Sublist
        (run FileSystem.empty ["-v", "dirs", "-v", "o"] none).logLines := by
  have notChosen : ∀ word ∈ ["-v"], Subcommand.ofWord? word = none := by decide
  obtain ⟨g, givenFull, runs⟩ : ∃ g, readArguments .full fullArguments = .ok g ∧
      (((g.invocation .full 1).job none).run FileSystem.empty).status = 0 ∧
      (((g.invocation .full 1).job none).run FileSystem.empty).logLines.length = 1 :=
    ⟨_, rfl, by decide +kernel⟩
  have parsed : parse ("-v" :: "full" :: fullArguments) = .ok (g.invocation .full 1) :=
    Counts.verbose.parse_ok givenFull
  rw [← run_of_parse parsed] at runs
  refine ⟨notChosen, runs.1, runs.2,
    (logLines_sublist_verbose_iff notChosen .full fullArguments _).1,
    (logLines_sublist_verbose_iff notChosen .dirs ["o"] _).2.mpr ?_⟩
  have given : readArguments .dirs ["o"] = .ok { directory := some "o" } := rfl
  rw [asksInFrontOnly_iff .verbose given]
  omega

/-- Asked for twice before the subcommand's word, more output is lost when it is asked for once more
behind that word. -/
theorem not_logLines_sublist_behind :
    ¬ (run FileSystem.empty ["-vv", "dirs", "o"] none).logLines.Sublist
      (run FileSystem.empty ["-vv", "dirs", "-v", "o"] none).logLines := by
  have counts : Counts ["-vv"] 2 := by
    intro before words
    rw [List.singleton_append, readWords.eq_def]
    rfl
  have given : readArguments .dirs ["o"] = .ok { directory := some "o" } := rfl
  intro sublist
  exact (logLines_sublist_behind_iff counts given FileSystem.empty).mp sublist
    ⟨Nat.le_refl 2, rfl, nofun⟩

end BuildHeader.Command
