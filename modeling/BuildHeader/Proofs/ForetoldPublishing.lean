import Mathlib.Data.List.Basic
import BuildHeader.Proofs.FailingWalks
import BuildHeader.Proofs.Publishing

/-!
# Results foretold by the path

A path is looked up before anything is done, and what it leads to then tells the kind of the result.
A path that leads to a file can always be published: the directories above it are there, and the
file can be opened again, however the path is spelled and through whatever links it goes. So nothing
but a path that is missing can fail later on.

Results:
1. `publish_foretells`: each end of the first lookup with the results that it leaves open.
2. `publish_told_by_path`: each kind of result, by what the path leads to.
-/

namespace BuildHeader.Publish

open BuildHeader.Files FileSystem

/-! ## Definitions -/

/-- `Foretells path contents seen result`: with a first lookup of the path that comes to `seen`, a
publishing can end in the result.

* `directory`, `unchanged`, `updated`, `unresolved`: the lookup settles it.
* `created`, `noDirectory`, `notWritten`: the path is missing, and then it is made, or fails. -/
inductive Foretells (path contents : String) :
    Except Fault Node → Except PublishError Outcome → Prop
  | directory : Foretells path contents (.ok .directory) (.error (.notAFile path))
  | unchanged {stamp : Nat} :
      Foretells path contents (.ok (.file contents.toUTF8 stamp)) (.ok .unchanged)
  | updated {bytes : ByteArray} {stamp : Nat} : bytes ≠ contents.toUTF8 →
      Foretells path contents (.ok (.file bytes stamp)) (.ok .updated)
  | unresolved {cause : Fault} : cause ≠ .notFound →
      Foretells path contents (.error cause) (.error (.readExisting path cause))
  | created : Foretells path contents (.error .notFound) (.ok .created)
  | noDirectory {directory : String} {cause : Fault} :
      Foretells path contents (.error .notFound) (.error (.createDirectory directory cause))
  | notWritten {cause : Fault} :
      Foretells path contents (.error .notFound) (.error (.write path cause))

/-- The kinds of results are told by what the path leads to beforehand.

* `notAFile_iff`: a directory.
* `readExisting_iff`: nowhere, for another reason than a missing name.
* `causes`: such a reason is a file in a directory's place, too many links, a name or path that is
  too long, or a NUL.
* `file_iff`: a file; nothing fails then.
* `missing_iff`: nowhere, for a missing name; directories and files are made only then. -/
structure ToldByPath (fs : FileSystem) (path : String) (result : Except PublishError Outcome) :
    Prop where
  notAFile_iff : (∃ named, result = .error (.notAFile named)) ↔ fs.LeadsTo path .directory
  readExisting_iff : ∀ cause, (∃ named, result = .error (.readExisting named cause)) ↔
    fs.Misses path cause ∧ cause ≠ .notFound
  causes : ∀ named cause, result = .error (.readExisting named cause) →
    cause = .notADirectory ∨ cause = .tooManyLinks ∨ cause = .nameTooLong ∨ cause = .nulInPath
  file_iff : (result = .ok .unchanged ∨ result = .ok .updated) ↔
    ∃ bytes stamp, fs.LeadsTo path (.file bytes stamp)
  missing_iff : (result = .ok .created ∨
      (∃ directory cause, result = .error (.createDirectory directory cause)) ∨
      ∃ named cause, result = .error (.write named cause)) ↔ fs.Misses path .notFound

section
variable {fs : FileSystem} {path contents : String}

/-! ## Each end of the first lookup -/

/-- In a plain file system a path leads to a directory or to a file. -/
theorem directory_or_file_of_find (plain : fs.IsPlain) {node : Node}
    (found : fs.find path = .ok node) :
    node = .directory ∨ ∃ bytes stamp, node = .file bytes stamp := by
  obtain ⟨place, located, stands⟩ := find_eq_ok_iff.mp found
  cases node with
  | directory => exact .inl rfl
  | file bytes stamp => exact .inr ⟨bytes, stamp, rfl⟩
  | link target => exact absurd stands (not_link_of_locate located target)
  | device => exact absurd stands (plain place).1
  | unreadable => exact absurd stands (plain place).2

/-- At a path that is missing the text is new, or a directory or the file cannot be made. -/
theorem publish_of_notFound (missing : fs.find path = .error .notFound) :
    Foretells path contents (.error .notFound) (publish fs path contents).result := by
  simp only [publish, existing, missing, judge, store]
  cases fs.ensureDirectories (directoriesAbove path) with
  | mk made grown =>
  cases made with
  | error cause => exact .noDirectory
  | ok =>
    cases written : grown.writeFile path contents.toUTF8 with
    | error cause =>
      simp only [written]
      exact .notWritten
    | ok after =>
      simp only [written]
      exact .created

/-- The first lookup foretells the result. -/
theorem publish_foretells (plain : fs.IsPlain) (path contents : String) :
    Foretells path contents (fs.find path) (publish fs path contents).result := by
  cases found : fs.find path with
  | error cause =>
    by_cases missing : cause = .notFound
    · subst missing
      exact publish_of_notFound found
    · have refused : (judge path contents (existing fs path)).1 =
          .refuse (.readExisting path cause) := by
        rw [existing, found]
        cases cause <;> first | rfl | exact absurd rfl missing
      rw [publish_of_refused refused]
      exact .unresolved missing
  | ok node =>
    rcases directory_or_file_of_find plain found with rfl | ⟨bytes, stamp, rfl⟩
    · have refused : (judge path contents (existing fs path)).1 = .refuse (.notAFile path) := by
        rw [existing, found]
        rfl
      rw [publish_of_refused refused]
      exact .directory
    · -- The directories above a file are there, so that nothing fails later on.
      obtain ⟨place, located, stands⟩ := find_eq_ok_iff.mp found
      rcases publish_of_file located stands contents with ⟨rfl, ok, -⟩ | ⟨differs, ok, -⟩
      · rw [ok]
        exact .unchanged
      · rw [ok]
        exact .updated differs

/-! ## Each kind of result -/

variable {seen : Except Fault Node} {result : Except PublishError Outcome}

theorem Foretells.notAFile_iff (h : Foretells path contents seen result) :
    (∃ named, result = .error (.notAFile named)) ↔ seen = .ok .directory := by
  cases h <;> simp

theorem Foretells.readExisting_iff (h : Foretells path contents seen result) {cause : Fault} :
    (∃ named, result = .error (.readExisting named cause)) ↔
      seen = .error cause ∧ cause ≠ .notFound := by
  cases h with
  | unresolved missing =>
    simp only [Except.error.injEq, PublishError.readExisting.injEq, exists_eq_left']
    exact ⟨fun same => ⟨same, same ▸ missing⟩, And.left⟩
  | directory | unchanged | updated => simp
  | created | noDirectory | notWritten => simp [eq_comm]

theorem Foretells.file_iff (h : Foretells path contents seen result) :
    (result = .ok .unchanged ∨ result = .ok .updated) ↔
      ∃ bytes stamp, seen = .ok (.file bytes stamp) := by
  cases h <;> simp

theorem Foretells.missing_iff (h : Foretells path contents seen result) :
    (result = .ok .created ∨
        (∃ directory cause, result = .error (.createDirectory directory cause)) ∨
        ∃ named cause, result = .error (.write named cause)) ↔ seen = .error .notFound := by
  cases h with
  | unresolved missing => simp [missing]
  | _ => simp

end

/-- For every plain file system, every path and every text, the kind of the result is told by what
the path leads to. -/
theorem publish_told_by_path {fs : FileSystem} (plain : fs.IsPlain) (path contents : String) :
    ToldByPath fs path (publish fs path contents).result where
  notAFile_iff := by
    rw [(publish_foretells plain path contents).notAFile_iff, find_eq_ok_iff_leadsTo]
  readExisting_iff cause := by
    rw [(publish_foretells plain path contents).readExisting_iff, find_eq_error_iff_misses]
  causes named cause failed := by
    have unresolved := (publish_foretells plain path contents).readExisting_iff.mp ⟨named, failed⟩
    exact (find_eq_error_iff_misses.mp unresolved.1).fault_cases.resolve_left unresolved.2
  file_iff := by
    simp only [(publish_foretells plain path contents).file_iff, find_eq_ok_iff_leadsTo]
  missing_iff := by
    rw [(publish_foretells plain path contents).missing_iff, find_eq_error_iff_misses]

/-- A root with a directory `d` that holds the file `f`, a link `l` to the directory, and a link `o`
to itself. -/
def amongLinks : FileSystem :=
  let held := (FileSystem.empty.set ["d"] .directory).set ["f", "d"] (.file "x".toUTF8 0)
  (held.set ["l"] (.link "d")).set ["o"] (.link "o")

theorem isPlain_amongLinks : amongLinks.IsPlain :=
  (((isPlain_empty.set ["d"] (by simp) (by simp)).set ["f", "d"] (by simp) (by simp)).set ["l"]
    (by simp) (by simp)).set ["o"] (by simp) (by simp)

/-- Through the link `l` and out of it again a file is reached, and behind the link `o` nothing. -/
theorem told_by_path_among_links : amongLinks.IsPlain ∧
    amongLinks.LeadsTo "l/..//l/./f" (.file "x".toUTF8 0) ∧
    ((publish amongLinks "l/..//l/./f" "y").result = .ok .unchanged ∨
      (publish amongLinks "l/..//l/./f" "y").result = .ok .updated) ∧
    amongLinks.Misses "o/f" .tooManyLinks ∧
    ∃ named, (publish amongLinks "o/f" "y").result =
      .error (.readExisting named .tooManyLinks) := by
  have file : amongLinks.LeadsTo "l/..//l/./f" (.file "x".toUTF8 0) :=
    find_eq_ok_iff_leadsTo.mp (by decide +kernel)
  have loop : amongLinks.Misses "o/f" .tooManyLinks :=
    find_eq_error_iff_misses.mp (by decide +kernel)
  have plain := isPlain_amongLinks
  refine ⟨plain, file, ?_, loop, ?_⟩
  · exact (publish_told_by_path plain "l/..//l/./f" "y").file_iff.mpr ⟨_, _, file⟩
  · exact ((publish_told_by_path plain "o/f" "y").readExisting_iff _).mpr ⟨loop, by decide⟩

end BuildHeader.Publish
