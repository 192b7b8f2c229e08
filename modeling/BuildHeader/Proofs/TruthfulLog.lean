import BuildHeader.Proofs.FailedPublishing
import BuildHeader.Proofs.FailingWalks
import BuildHeader.Proofs.PublishingLog

/-!
# What the log says of the files

The log, the result and the change of the files come about at different points of a publishing. They
agree: what is logged of a file is about the file that the path leads to beforehand, and a writing
is logged just if one file is created or rewritten, with the outcome that is returned. This is said
of the events, and once more of the messages, fields and words that are read in the log.

Results:
1. `Writes.isWrittenSince_iff`, `Stores.exists_written`: a text that is stored is written to one
   file and no other.
2. `Logs.recounts`, `Logs.inWords`: the events and their words, told by the path and the result.
3. `publish_tellsTruth`: both, and the files that are written.
-/

namespace BuildHeader.Files

namespace FileSystem

variable {fs grown after : FileSystem}

/-! ## Which files are written -/

/-- Directories that were made do not count as files. -/
theorem isWrittenSince_of_grows (grows : fs.Grows grown) (after : FileSystem) (place : Place) :
    after.isWrittenSince fs place = after.isWrittenSince grown place := by
  unfold isWrittenSince
  cases before : fs.node? place with
  | some node => rw [grows.kept place node before]
  | none =>
    rcases grows.added place before with missing | directory
    · rw [missing]
    · rw [directory]

theorem not_isWrittenSince_of_grows (grows : fs.Grows after) (place : Place) :
    after.isWrittenSince fs place = false := by
  rw [isWrittenSince_of_grows grows]
  exact not_isWrittenSince rfl

/-- In a plain file system the one file that is written is the one at the path's place. -/
theorem Writes.isWrittenSince_iff (plain : fs.IsPlain) {path : String} {bytes : ByteArray}
    {place other : Place} (located : fs.locate .write path = .ok place)
    (writes : fs.Writes bytes place after) :
    after.isWrittenSince fs other = true ↔ other = place := by
  constructor
  · intro written
    refine Decidable.byContradiction fun ne => ?_
    rw [not_isWrittenSince (writes.node?_of_ne ne)] at written
    cases written
  · rintro rfl
    rcases writes.node? located with ⟨stamp, stands, next⟩ | ⟨-, node, stood, notFile⟩
    · cases stood : fs.node? other with
      | none => simp [isWrittenSince, stands, stood]
      | some node =>
        obtain ⟨old, before, rfl⟩ := plain.file_of_located located writes.not_directory stood
        rw [FileSystem.isWrittenSince_iff stood stands, next old before stood]
        omega
    · obtain ⟨old, before, isFile⟩ := plain.file_of_located located writes.not_directory stood
      exact absurd isFile (notFile old before)

end FileSystem

end BuildHeader.Files

namespace BuildHeader.Log

/-- What is read of an event: its message, and its fields with their names. -/
def Event.asRead (event : Event) : String × List (String × String) :=
  (event.message, event.fields)

end BuildHeader.Log

namespace BuildHeader.Publish

open BuildHeader.Files BuildHeader.Log FileSystem

/-! ## Definitions -/

/-- Something was written: the result is a new file or an update. -/
def HasWritten (result : Except PublishError Outcome) : Prop :=
  result = .ok .created ∨ result = .ok .updated

/-- `Recounts fs path contents result seen last log`: the log against the path and the result.
`seen` is what is told of a file that was there, and `last` what is told of the writing.

* `order`: the digest of the text comes first, then what was seen, then the writing.
* `seen_iff`: something was seen just if the path led to a file.
* `seen_file`: either that it holds the text, and is left alone, or the digest of its other bytes.
* `last_iff`, `last_nothing_iff`: the writing is told just if something was written, with the
  outcome that is returned.
* `failed`: after an error the header is called neither unchanged nor written. -/
structure Recounts (fs : FileSystem) (path contents : String) (result : Except PublishError Outcome)
    (seen last log : List Event) : Prop where
  order : log = .generated path (Digest.ofText contents) :: (seen ++ last)
  seen_iff : seen ≠ [] ↔ ∃ bytes stamp, fs.LeadsTo path (.file bytes stamp)
  seen_file : ∀ bytes stamp, fs.LeadsTo path (.file bytes stamp) →
    (seen = [.unchanged path] ∧ result = .ok .unchanged) ∨
      (seen = [.differs path (Digest.ofBytes bytes)] ∧ result = .ok .updated)
  last_iff : ∀ outcome, last = [.written path outcome] ↔ HasWritten result ∧ result = .ok outcome
  last_nothing_iff : last = [] ↔ ¬ HasWritten result
  failed : ∀ error, result = .error error →
    .unchanged path ∉ log ∧ ∀ outcome, .written path outcome ∉ log

/-- `InWords fs path contents result words`: the log as it is read, by what the path leads to and by
the result.

* `unchanged`: it leads to a file that holds the text, and the writing is said to be skipped.
* `updated`: it leads to a file that holds something else, whose digest is the old one.
* `created`: it leads nowhere, and a new file is told of.
* `failed`: it leads to no file, and nothing is told but the digest of the text. -/
inductive InWords (fs : FileSystem) (path contents : String) :
    Except PublishError Outcome → List (String × List (String × String)) → Prop
  | unchanged {stamp : Nat} : fs.LeadsTo path (.file contents.toUTF8 stamp) →
      InWords fs path contents (.ok .unchanged)
        [("generated header", [("path", path), ("digest", Digest.ofText contents)]),
          ("header unchanged, skipping write", [("path", path)])]
  | updated {bytes : ByteArray} {stamp : Nat} :
      fs.LeadsTo path (.file bytes stamp) → bytes ≠ contents.toUTF8 →
      InWords fs path contents (.ok .updated)
        [("generated header", [("path", path), ("digest", Digest.ofText contents)]),
          ("header contents differ", [("path", path), ("old_digest", Digest.ofBytes bytes)]),
          ("header written", [("path", path), ("outcome", "updated")])]
  | created : fs.Misses path .notFound →
      InWords fs path contents (.ok .created)
        [("generated header", [("path", path), ("digest", Digest.ofText contents)]),
          ("header written", [("path", path), ("outcome", "created")])]
  | failed {error : PublishError} : (∀ bytes stamp, ¬ fs.LeadsTo path (.file bytes stamp)) →
      InWords fs path contents (.error error)
        [("generated header", [("path", path), ("digest", Digest.ofText contents)])]

/-- The log tells what happened to the files.

* `recounts`: it agrees with the path and with the result.
* `inWords`: so do its messages, their fields and the word for the outcome.
* `written_iff`: the result is a new file or an update just if one file is created or rewritten.
* `spared`: otherwise none is. -/
structure TellsTruth (fs : FileSystem) (path contents : String) (report : Report) : Prop where
  recounts : ∃ seen last, Recounts fs path contents report.result seen last report.log
  inWords : InWords fs path contents report.result (report.log.map Event.asRead)
  written_iff : HasWritten report.result ↔
    ∃! place, report.after.isWrittenSince fs place = true
  spared : ¬ HasWritten report.result → ∀ place, report.after.isWrittenSince fs place = false

section
variable {fs after : FileSystem} {path contents : String}

/-! ## The effect -/

/-- A text that is stored is written to one file and no other. -/
theorem Stores.exists_written (plain : fs.IsPlain) (stores : Stores fs path contents after) :
    ∃ place, ∀ other, after.isWrittenSince fs other = true ↔ other = place := by
  obtain ⟨grown, place, made, located, writes⟩ := stores
  have grows := grows_of_ensureDirectories made
  refine ⟨place, fun other => ?_⟩
  rw [isWrittenSince_of_grows grows]
  exact writes.isWrittenSince_iff (plain.grows grows) located

theorem exists_written_of_hasWritten (plain : fs.IsPlain)
    (written : HasWritten (publish fs path contents).result) :
    ∃ place, ∀ other,
      (publish fs path contents).after.isWrittenSince fs other = true ↔ other = place := by
  have publishes := publish_publishes fs path contents
  generalize (publish fs path contents).after = after at publishes ⊢
  rcases written with created | updated
  · rw [created] at publishes
    cases publishes with
    | created _ stores => exact stores.exists_written plain
  · rw [updated] at publishes
    cases publishes with
    | updated _ _ stores => exact stores.exists_written plain

theorem spared_of_not_hasWritten (notWritten : ¬ HasWritten (publish fs path contents).result)
    (place : Place) : (publish fs path contents).after.isWrittenSince fs place = false := by
  have publishes := publish_publishes fs path contents
  generalize (publish fs path contents).result = result,
    (publish fs path contents).after = after at publishes notWritten ⊢
  cases publishes with
  | unchanged => exact not_isWrittenSince rfl
  | updated => exact absurd (.inr rfl) notWritten
  | created => exact absurd (.inl rfl) notWritten
  | failed _ grows => exact not_isWrittenSince_of_grows grows place

/-! ## The log -/

/-- A path that leads to a file leads to no other node. -/
theorem leadsTo_file_iff {bytes : ByteArray} {stamp : Nat}
    (found : fs.find path = .ok (.file bytes stamp)) {other : ByteArray} {stamp' : Nat} :
    fs.LeadsTo path (.file other stamp') ↔ bytes = other ∧ stamp = stamp' := by
  rw [← find_eq_ok_iff_leadsTo, found]
  simp

/-- The log agrees with the path and with the result. -/
theorem Logs.recounts {result : Except PublishError Outcome} {log : List Event}
    (logs : Logs fs path contents result log) :
    ∃ seen last, Recounts fs path contents result seen last log := by
  cases logs with
  | unchanged found =>
    refine ⟨[.unchanged path], [], rfl, ?_, ?_, ?_, ?_, ?_⟩ <;>
      simp [leadsTo_file_iff found, HasWritten]
  | updated found differs =>
    refine ⟨[.differs path (Digest.ofBytes _)], [.written path .updated], rfl,
      ?_, ?_, ?_, ?_, ?_⟩ <;>
      simp [leadsTo_file_iff found, HasWritten]
  | created missing =>
    refine ⟨[], [.written path .created], rfl, ?_, ?_, ?_, ?_, ?_⟩ <;>
      simp [← find_eq_ok_iff_leadsTo, missing, HasWritten]
  | failed noFile =>
    refine ⟨[], [], rfl, ?_, ?_, ?_, ?_, ?_⟩ <;>
      simp [← find_eq_ok_iff_leadsTo, noFile, HasWritten]

/-- So does what is read in it. -/
theorem Logs.inWords {result : Except PublishError Outcome} {log : List Event}
    (logs : Logs fs path contents result log) :
    InWords fs path contents result (log.map Event.asRead) := by
  cases logs with
  | unchanged found => exact .unchanged (find_eq_ok_iff_leadsTo.mp found)
  | updated found differs => exact .updated (find_eq_ok_iff_leadsTo.mp found) differs
  | created missing => exact .created (find_eq_error_iff_misses.mp missing)
  | failed noFile =>
    refine .failed fun bytes stamp leads => ?_
    exact noFile bytes stamp (find_eq_ok_iff_leadsTo.mpr leads)

end

/-- For every plain file system, every path and every text, the log of a publishing tells what the
path led to, what was written, and the result, in its events as in their words. -/
theorem publish_tellsTruth {fs : FileSystem} (plain : fs.IsPlain) (path contents : String) :
    TellsTruth fs path contents (publish fs path contents) where
  recounts := (publish_logs fs path contents).recounts
  inWords := (publish_logs fs path contents).inWords
  written_iff := by
    constructor
    · intro written
      obtain ⟨place, only⟩ := exists_written_of_hasWritten plain written
      exact ⟨place, (only place).mpr rfl, fun other => (only other).mp⟩
    · rintro ⟨place, written, -⟩
      refine Classical.byContradiction fun notWritten => ?_
      rw [spared_of_not_hasWritten notWritten place] at written
      cases written
  spared := spared_of_not_hasWritten

/-- The path leads nowhere as long as there is no `n`, so that nothing is told of the file `f`,
which is then the one that is written. -/
theorem tellsTruth_behind_missing_directory : oneFile.IsPlain ∧
    TellsTruth oneFile "n/../f" "y" (publish oneFile "n/../f" "y") ∧
    (publish oneFile "n/../f" "y").log =
      [.generated "n/../f" (Digest.ofText "y"), .written "n/../f" .created] ∧
    (publish oneFile "n/../f" "y").after.isWrittenSince oneFile ["f"] = true := by
  have plain : oneFile.IsPlain := isPlain_empty.set ["f"] (by simp) (by simp)
  have created : (publish oneFile "n/../f" "y").result = .ok .created := by decide +kernel
  exact ⟨plain, publish_tellsTruth plain "n/../f" "y", log_of_created created, by decide +kernel⟩

end BuildHeader.Publish
