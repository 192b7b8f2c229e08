import BuildHeader.Proofs.AddedSwitches
import BuildHeader.Proofs.HeaderRuns
import BuildHeader.Proofs.Publishing

/-!
# Dry runs

A dry run prints the header that the same command line writes when it is run in earnest. The two are
compared on the same files: the dry run leaves them alone, and the other one either puts the text
that was printed where its path leads, or fails and writes no file.

Results:
1. `parse_dryRun`: with `--dry-run` in front a command line asks for the same, as a dry run.
2. `showsWhatIsWritten_of_produces`: where the log rules can be read, the two runs agree.
3. `dryRun_shows_iff`: they agree just there; elsewhere neither of them does anything.
-/

namespace BuildHeader.Command

open BuildHeader.Files BuildHeader.Publish
open FileSystem

/-! ## Definitions -/

/-- No file is new, and none is changed or gone. -/
def SameFiles (before after : FileSystem) : Prop :=
  ∀ place bytes stamp, after.node? place = some (.file bytes stamp) ↔
    before.node? place = some (.file bytes stamp)

/-- The dry run succeeds, prints a text and changes nothing. The run in earnest prints nothing. It
succeeds, and then the path names a file that holds that text, or it fails with status 1 and leaves
the files alone. -/
def ShowsWhatIsWritten (fs : FileSystem) (path : String) (dry real : Result) : Prop :=
  dry.status = 0 ∧ dry.after = fs ∧ real.output = "" ∧
    ((real.status = 0 ∧ ∃ stamp, real.after.find path = .ok (.file dry.output.toUTF8 stamp)) ∨
      (real.status = 1 ∧ SameFiles fs real.after))

/-! ## The two command lines -/

/-- The same is asked for, as a dry run. -/
theorem parse_dryRun {s : Subcommand} {words : List String} {i : Invocation}
    (accepted : parse (s.word :: words) = .ok i) (noDryRun : "--dry-run" ∉ optionWords words) :
    i.dryRun = false ∧ parse (s.word :: "--dry-run" :: words) = .ok { i with dryRun := true } := by
  rw [parse_word] at accepted ⊢
  rw [readArguments_dryRun s noDryRun]
  cases given : readArguments s words with
  | error stop =>
    rw [given] at accepted
    cases accepted
  | ok g =>
    rw [given] at accepted
    cases accepted
    refine ⟨dryRun_of_readArguments given noDryRun, ?_⟩
    cases s <;> rfl

/-! ## The two runs -/

theorem sameFiles_of_grows {fs after : FileSystem} (grows : fs.Grows after) :
    SameFiles fs after := by
  intro place bytes stamp
  refine ⟨fun stands => ?_, grows.kept place _⟩
  cases before : fs.node? place with
  | some node => rw [← grows.kept place node before, stands]
  | none =>
    -- What is new is a directory.
    rcases grows.added place before with nothing | directory
    · rw [nothing] at stands
      cases stands
    · rw [directory] at stands
      cases stands

/-- A header that cannot be published leaves the files alone. -/
theorem sameFiles_of_failed {fs : FileSystem} {path header : String} {error : PublishError}
    (failed : (publish fs path header).result = .error error) :
    SameFiles fs (publish fs path header).after := by
  have publishes := publish_publishes fs path header
  rw [failed] at publishes
  cases publishes with
  | failed _ grows => exact sameFiles_of_grows grows

/-- A header that is printed and published from the same files is shown as it is written. -/
theorem showsWhatIsWritten_of_produces {fs : FileSystem} {path header : String}
    {dry real : Result} (plain : fs.IsPlain) (printed : Produces fs path header true dry)
    (produced : Produces fs path header false real) : ShowsWhatIsWritten fs path dry real := by
  cases printed with
  | printed succeeds shows unchanged =>
    refine ⟨succeeds, unchanged, ?_⟩
    rw [shows]
    cases produced with
    | published ok done silent left =>
      refine ⟨silent, .inl ⟨done, ?_⟩⟩
      rw [left]
      exact publish_ok_find plain ok
    | failed failed notDone silent left =>
      refine ⟨silent, .inr ⟨notDone, ?_⟩⟩
      rw [left]
      exact sameFiles_of_failed failed

/-- A dry run shows what a run in earnest writes just if the log rules do not stop the program. If
they do, both runs end with status 101, print nothing and change nothing. -/
theorem dryRun_shows_iff {fs : FileSystem} (plain : fs.IsPlain) {s : Subcommand}
    {words : List String} {i : Invocation} (accepted : parse (s.word :: words) = .ok i)
    (noDryRun : "--dry-run" ∉ optionWords words) (environment : Option String) :
    (ShowsWhatIsWritten fs (joinPath i.directory i.fileName)
        (run fs (s.word :: "--dry-run" :: words) environment)
        (run fs (s.word :: words) environment) ↔ isReadable environment = true) ∧
      (isReadable environment = false →
        run fs (s.word :: "--dry-run" :: words) environment = { status := 101, after := fs } ∧
          run fs (s.word :: words) environment = { status := 101, after := fs }) := by
  obtain ⟨inEarnest, asDryRun⟩ := parse_dryRun accepted noDryRun
  have stopped : isReadable environment = false →
      run fs (s.word :: "--dry-run" :: words) environment = { status := 101, after := fs } ∧
        run fs (s.word :: words) environment = { status := 101, after := fs } :=
    fun unreadable =>
      ⟨run_unreadable asDryRun unreadable fs, run_unreadable accepted unreadable fs⟩
  refine ⟨⟨fun shows => ?_, fun readable => ?_⟩, stopped⟩
  · cases readable : isReadable environment with
    | true => rfl
    | false =>
      have succeeds := shows.1
      rw [(stopped readable).1] at succeeds
      cases succeeds
  · obtain ⟨set, defined, printed⟩ := run_produces asDryRun readable fs
    obtain ⟨set', defined', produced⟩ := run_produces accepted readable fs
    -- Both runs make the header of the same subject.
    cases defined.symm.trans defined'
    rw [inEarnest] at produced
    exact showsWhatIsWritten_of_produces plain printed produced

/-- A file name that is absolute stands for itself, also in a dry run. -/
theorem dryRun_shows_absolute : FileSystem.empty.IsPlain ∧
    parse ["dirs", "o", "--file-name=/a/h"] =
      .ok ⟨.directories {}, "o", "/a/h", false, 0⟩ ∧
    "--dry-run" ∉ optionWords ["o", "--file-name=/a/h"] ∧
    ShowsWhatIsWritten FileSystem.empty "/a/h"
      (run FileSystem.empty ["dirs", "--dry-run", "o", "--file-name=/a/h"] none)
      (run FileSystem.empty ["dirs", "o", "--file-name=/a/h"] none) := by
  have accepted : parse ["dirs", "o", "--file-name=/a/h"] =
      .ok ⟨.directories {}, "o", "/a/h", false, 0⟩ :=
    (parse_word .dirs ["o", "--file-name=/a/h"]).trans rfl
  have noDryRun : "--dry-run" ∉ optionWords ["o", "--file-name=/a/h"] := by decide
  have path : joinPath "o" "/a/h" = "/a/h" := by decide +kernel
  have shows := (dryRun_shows_iff isPlain_empty (s := .dirs) accepted noDryRun none).1
  rw [path] at shows
  exact ⟨isPlain_empty, accepted, noDryRun, shows.mpr (by decide +kernel)⟩

/-- A blank before a letter outside of ASCII stops a dry run as well. -/
theorem not_dryRun_shows_after_blank :
    ¬ ShowsWhatIsWritten FileSystem.empty "o/AlususDefs.h"
      (run FileSystem.empty ["dirs", "--dry-run", "o"] (some " é=info"))
      (run FileSystem.empty ["dirs", "o"] (some " é=info")) := by
  have accepted : parse ["dirs", "--dry-run", "o"] =
      .ok ⟨.directories {}, "o", "AlususDefs.h", true, 0⟩ :=
    (parse_word .dirs ["--dry-run", "o"]).trans rfl
  intro shows
  have succeeds := shows.1
  rw [run_unreadable accepted (by decide +kernel) FileSystem.empty] at succeeds
  cases succeeds

end BuildHeader.Command
