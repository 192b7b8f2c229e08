import BuildHeader.Proofs.Publishing

/-!
# What publishing logs

The digest of the text comes first, then what was seen at the path if a file stands there, and last
the outcome if anything was written.

Results:
1. `publish_logs`: the whole log, by what the path names and by the result.
2. `generated_mem_log_iff`: one digest of a text is logged, that of the text to be published.
-/

namespace BuildHeader.Publish

open BuildHeader.Files BuildHeader.Log FileSystem

/-- `Logs fs path contents result log`: the events of publishing, in order.

* `unchanged`: the path names a file that holds the text.
* `updated`: it names a file that holds something else, whose digest is logged.
* `created`: it names nothing.
* `failed`: it names no file, and none is written. -/
inductive Logs (fs : FileSystem) (path contents : String) :
    Except PublishError Outcome → List Event → Prop
  | unchanged {stamp : Nat} : fs.find path = .ok (.file contents.toUTF8 stamp) →
      Logs fs path contents (.ok .unchanged)
        [.generated path (Digest.ofText contents), .unchanged path]
  | updated {bytes : ByteArray} {stamp : Nat} :
      fs.find path = .ok (.file bytes stamp) → bytes ≠ contents.toUTF8 →
      Logs fs path contents (.ok .updated)
        [.generated path (Digest.ofText contents), .differs path (Digest.ofBytes bytes),
          .written path .updated]
  | created : fs.find path = .error .notFound →
      Logs fs path contents (.ok .created)
        [.generated path (Digest.ofText contents), .written path .created]
  | failed {error : PublishError} : (∀ bytes stamp, fs.find path ≠ .ok (.file bytes stamp)) →
      Logs fs path contents (.error error) [.generated path (Digest.ofText contents)]

/-- The whole log of publishing. -/
theorem publish_logs (fs : FileSystem) (path contents : String) :
    Logs fs path contents (publish fs path contents).result (publish fs path contents).log := by
  unfold publish existing
  cases found : fs.find path with
  | error fault =>
    have noFile : ∀ bytes stamp, fs.find path ≠ .ok (.file bytes stamp) := by simp [found]
    cases fault with
    | notFound =>
      simp only [judge]
      split
      · exact .failed noFile
      · exact .created found
    | _ => exact .failed noFile
  | ok node =>
    cases node with
    | file bytes stamp =>
      by_cases same : bytes = contents.toUTF8
      · subst same
        simp only [judge, if_true]
        exact .unchanged found
      · simp only [judge, if_neg same]
        -- A file that is there can be stored, so that its outcome is logged.
        obtain ⟨after, stores⟩ := exists_stores_of_file found contents
        rw [store_eq_ok_iff.mpr stores]
        exact .updated found same
    | directory | link | device | unreadable => exact .failed (by simp [found])

section
variable {fs : FileSystem} {path contents : String}

theorem log_of_unchanged (ok : (publish fs path contents).result = .ok .unchanged) :
    (publish fs path contents).log =
      [.generated path (Digest.ofText contents), .unchanged path] := by
  have logs := publish_logs fs path contents
  rw [ok] at logs
  generalize (publish fs path contents).log = log at logs ⊢
  cases logs
  rfl

theorem log_of_updated {bytes : ByteArray} {stamp : Nat}
    (found : fs.find path = .ok (.file bytes stamp))
    (ok : (publish fs path contents).result = .ok .updated) :
    (publish fs path contents).log =
      [.generated path (Digest.ofText contents), .differs path (Digest.ofBytes bytes),
        .written path .updated] := by
  have logs := publish_logs fs path contents
  rw [ok] at logs
  generalize (publish fs path contents).log = log at logs ⊢
  cases logs with
  | updated also =>
    rw [found] at also
    cases also
    rfl

theorem log_of_created (ok : (publish fs path contents).result = .ok .created) :
    (publish fs path contents).log =
      [.generated path (Digest.ofText contents), .written path .created] := by
  have logs := publish_logs fs path contents
  rw [ok] at logs
  generalize (publish fs path contents).log = log at logs ⊢
  cases logs
  rfl

/-- One digest of a text is logged, that of the text to be published. -/
theorem generated_mem_log_iff {digest : String} :
    .generated path digest ∈ (publish fs path contents).log ↔ digest = Digest.ofText contents := by
  have logs := publish_logs fs path contents
  generalize (publish fs path contents).result = result,
    (publish fs path contents).log = log at logs ⊢
  cases logs <;> simp

end

end BuildHeader.Publish
