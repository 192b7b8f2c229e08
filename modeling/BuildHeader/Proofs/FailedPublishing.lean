import Mathlib.Data.List.Basic
import BuildHeader.Proofs.MadeDirectories
import BuildHeader.Proofs.Publishing

/-!
# What a failed publishing leaves behind

Publishing fails when the path cannot be judged, and then nothing is done; or when the directories
above it cannot be made or the file cannot be written, and then the directories made so far stay.
No file and no link is touched in any case, and none is new.

Results:
1. `store_spares`, `publish_spares`: how an error tells what may have changed.
2. `failed_publish_keeps`: both together, for every file system and every path.
-/

namespace BuildHeader.Publish

open BuildHeader.Files FileSystem

/-- Nothing is new but directories above the path.

* `along`: each is named in the list that is made for the path.
* `above`: each stands where a beginning of the path leads. -/
structure GrowsAbove (fs after : FileSystem) (path : String) : Prop where
  along : fs.GrowsAlong after (directoriesAbove path)
  above : ∀ place, fs.node? place = none → after.node? place ≠ none →
    ∃ directory, Above directory path ∧ after.locate .look directory = .ok place

/-- What may differ in `after` when publishing to the path ends with an error.

* `notAFile`, `readExisting`: nothing.
* `createDirectory`, `write`: there may be new directories above the path. -/
def Spares (fs : FileSystem) (path : String) (after : FileSystem) : PublishError → Prop
  | .notAFile _ => after = fs
  | .readExisting _ _ => after = fs
  | .createDirectory _ _ => GrowsAbove fs after path
  | .write _ _ => GrowsAbove fs after path

theorem directoriesAbove_growsAlong {fs grown : FileSystem} {path : String}
    {result : Except Fault Unit}
    (made : fs.ensureDirectories (directoriesAbove path) = (result, grown)) :
    fs.GrowsAlong grown (directoriesAbove path) := by
  have noSlash : ∀ directory ∈ directoriesAbove path, endsInSlash directory = false :=
    fun directory member => (above_of_mem member).noSlash
  have along := ensureDirectories_growsAlong fs noSlash
  rwa [made] at along

/-- The directories that are made for a path are all above it. -/
theorem directoriesAbove_growsAbove {fs grown : FileSystem} {path : String}
    {result : Except Fault Unit}
    (made : fs.ensureDirectories (directoriesAbove path) = (result, grown)) :
    GrowsAbove fs grown path where
  along := directoriesAbove_growsAlong made
  above place missing present := by
    obtain ⟨directory, member, leads⟩ :=
      (directoriesAbove_growsAlong made).named place missing present
    exact ⟨directory, above_of_mem member, leads⟩

theorem store_spares {fs after : FileSystem} {path contents : String} {error : PublishError}
    (failed : store fs path contents = (.error error, after)) : Spares fs path after error := by
  simp only [store] at failed
  split at failed
  · next made =>
    cases failed
    exact directoriesAbove_growsAbove made
  · next grown made =>
    split at failed
    · cases failed
      exact directoriesAbove_growsAbove made
    · cases failed

theorem judge_spares {fs : FileSystem} {path contents : String} {seen : Existing}
    {error : PublishError} (refused : (judge path contents seen).1 = .refuse error) :
    Spares fs path fs error := by
  cases seen with
  | file bytes =>
    simp only [judge] at refused
    split at refused <;> cases refused
  | other =>
    cases refused
    rfl
  | missing => cases refused
  | unknown cause =>
    cases refused
    rfl

/-- An error of publishing tells what may have changed. -/
theorem publish_spares {fs : FileSystem} {path contents : String} {error : PublishError}
    (failed : (publish fs path contents).result = .error error) :
    Spares fs path (publish fs path contents).after error := by
  unfold publish at failed ⊢
  cases judged : judge path contents (existing fs path) with
  | mk verdict seen =>
  rw [judged] at failed
  cases verdict with
  | keep => cases failed
  | refuse own =>
    cases failed
    exact judge_spares (congrArg Prod.fst judged)
  | write outcome =>
    cases stored : store fs path contents with
    | mk result after =>
    simp only [stored] at failed ⊢
    cases result with
    | error own =>
      cases failed
      exact store_spares stored
    | ok done => cases failed

/-- A failed publishing keeps every file with its bytes and its stamp, every link with its text and
every directory, and makes nothing but directories. If the path could not be judged nothing is
changed at all; otherwise every new directory is named by a directory above the path, whose text is a
beginning of the path. -/
theorem failed_publish_keeps {fs : FileSystem} {path contents : String} {error : PublishError}
    (failed : (publish fs path contents).result = .error error) :
    (∀ place node, fs.node? place = some node →
        (publish fs path contents).after.node? place = some node) ∧
      (∀ place node, fs.node? place = none →
        (publish fs path contents).after.node? place = some node → node = .directory) ∧
      Spares fs path (publish fs path contents).after error := by
  have spares := publish_spares failed
  generalize (publish fs path contents).after = after at spares
  have grows : fs.Grows after := by
    cases error with
    | notAFile | readExisting =>
      cases spares
      exact .refl fs
    | createDirectory | write => exact spares.along.grows
  refine ⟨grows.kept, fun place node missing present => ?_, spares⟩
  rcases grows.added place missing with nothing | directory
  · rw [nothing] at present
    cases present
  · rw [directory] at present
    exact (Option.some.inj present).symm

/-- A root that holds the one file `f`. -/
def oneFile : FileSystem :=
  FileSystem.empty.set ["f"] (.file "x".toUTF8 0)

/-- Below the file `f`, behind a missing `n`, no directory can be made; but `n` is made on the way. -/
theorem failed_publish_below_file :
    (publish oneFile "n/../f/g" "y").result =
        .error (.createDirectory "n/../f" .alreadyExists) ∧
      (publish oneFile "n/../f/g" "y").after.node? ["n"] = some .directory ∧
      (publish oneFile "n/../f/g" "y").after.node? ["f"] = some (.file "x".toUTF8 0) ∧
      Spares oneFile "n/../f/g" (publish oneFile "n/../f/g" "y").after
        (.createDirectory "n/../f" .alreadyExists) := by
  have failed : (publish oneFile "n/../f/g" "y").result =
      .error (.createDirectory "n/../f" .alreadyExists) := by
    decide +kernel
  obtain ⟨kept, -, spares⟩ := failed_publish_keeps failed
  exact ⟨failed, by decide +kernel, kept ["f"] _ rfl, spares⟩

end BuildHeader.Publish
