import BuildHeader.Proofs.Growth

/-!
# Writing files

Writing changes one place and no other. Afterwards the path leads to that place, and what is
written there stands in a file, unless something without bytes of its own stood there.

Results:
1. `writeFile_eq_ok_iff`: writing succeeds just where the path can be located to be written.
2. `Writes.locate`: afterwards the path leads there.
3. `isWrittenSince_iff`: a file is rewritten just if its stamp is another one.
4. `IsPlain.node?_of_writes`: in a plain file system the text stands in a file.
-/

namespace BuildHeader.Files

namespace FileSystem

/-! ## Writing -/

/-- `fs.Writes bytes place after`: writing the bytes at the place makes `after` of `fs`.

* `new`: nothing stood there.
* `rewritten`: a file stood there.
* `lost`: something without bytes of its own stood there. -/
inductive Writes (fs : FileSystem) (bytes : ByteArray) (place : Place) : FileSystem → Prop
  | new : fs.node? place = none → Writes fs bytes place (fs.set place (.file bytes 0))
  | rewritten {old : ByteArray} {stamp : Nat} : fs.node? place = some (.file old stamp) →
      Writes fs bytes place (fs.set place (.file bytes (stamp + 1)))
  | lost {node : Node} : fs.node? place = some node → node ≠ .directory →
      (∀ old stamp, node ≠ .file old stamp) → Writes fs bytes place fs

theorem writeFile_eq_ok_iff {fs after : FileSystem} {path : String} {bytes : ByteArray} :
    fs.writeFile path bytes = .ok after ↔
      ∃ place, fs.locate .write path = .ok place ∧ fs.Writes bytes place after := by
  unfold writeFile
  constructor
  · intro written
    split at written
    · cases written
    next place located =>
    refine ⟨place, located, ?_⟩
    split at written
    · next missing =>
      cases written
      exact .new missing
    · next old stamp stands =>
      cases written
      exact .rewritten stands
    · cases written
    · next node notFile notDirectory stands =>
      cases written
      exact .lost stands (fun same => notDirectory (same ▸ rfl)) fun old stamp same =>
        notFile old stamp (same ▸ rfl)
  · rintro ⟨place, located, writes⟩
    rw [located]
    cases writes with
    | new missing => simp [missing]
    | rewritten stands => simp [stands]
    | lost stands notDirectory notFile => simp only [stands]

theorem Writes.node?_of_ne {fs after : FileSystem} {bytes : ByteArray} {place other : Place}
    (h : fs.Writes bytes place after) (ne : other ≠ place) :
    after.node? other = fs.node? other := by
  cases h with
  | new | rewritten => exact node?_set_of_ne ne
  | lost => rfl

theorem Writes.not_directory {fs after : FileSystem} {bytes : ByteArray} {place : Place}
    (h : fs.Writes bytes place after) : fs.node? place ≠ some .directory := by
  cases h with
  | new missing => simp [missing]
  | rewritten stands => simp [stands]
  | lost stands notDirectory => simpa [stands] using notDirectory

/-- Where a path was located, a file holds the bytes after they are written, unless what stood
there has no bytes of its own. -/
theorem Writes.node? {fs after : FileSystem} {path : String} {bytes : ByteArray} {place : Place}
    (h : fs.Writes bytes place after) (located : fs.locate .write path = .ok place) :
    (∃ stamp, after.node? place = some (.file bytes stamp) ∧
        ∀ old before, fs.node? place = some (.file old before) → stamp = before + 1) ∨
      (after.node? place = fs.node? place ∧
        ∃ node, fs.node? place = some node ∧ ∀ old before, node ≠ .file old before) := by
  obtain ⟨name, holder, rfl, accepts⟩ := accepts_of_locate located h.not_directory
  cases h with
  | new missing =>
    refine .inl ⟨0, node?_set accepts, fun old before stands => ?_⟩
    rw [missing] at stands
    cases stands
  | @rewritten _ stamp stands =>
    refine .inl ⟨stamp + 1, node?_set accepts, fun old before also => ?_⟩
    rw [stands] at also
    cases also
    rfl
  | @lost node stands _ notFile => exact .inr ⟨rfl, node, stands, notFile⟩

/-- Writing leads no lookup astray. -/
theorem Writes.preserves {fs after : FileSystem} {bytes : ByteArray} {place : Place}
    (h : fs.Writes bytes place after) : fs.Preserves after := by
  cases h with
  | new missing => exact .write (by simp [missing])
  | rewritten old => exact .write (by simp [old, Node.sight])
  | lost => exact (Grows.refl fs).preserves

/-- After a path is written, it leads to where it was located. -/
theorem Writes.locate {fs after : FileSystem} {path : String} {bytes : ByteArray} {place : Place}
    (h : fs.Writes bytes place after) (located : fs.locate .write path = .ok place) :
    after.locate .look path = .ok place := by
  have notLink := not_link_of_locate located
  have stands : ∃ node, after.node? place = some node ∧ ∀ target, node ≠ .link target := by
    rcases h.node? located with ⟨stamp, file, -⟩ | ⟨same, node, old, -⟩
    · exact ⟨_, file, by simp⟩
    · refine ⟨node, same.trans old, fun target => ?_⟩
      rintro rfl
      exact notLink target old
  obtain ⟨node, found, noLink⟩ := stands
  exact h.preserves.locate_written located found noLink

/-! ## Rewriting -/

theorem not_isWrittenSince {fs after : FileSystem} {place : Place}
    (same : after.node? place = fs.node? place) : after.isWrittenSince fs place = false := by
  unfold isWrittenSince
  rw [same]
  cases stands : fs.node? place with
  | none => rfl
  | some node => cases node <;> simp

/-- A file that is still a file is rewritten just if its stamp is another one. -/
theorem isWrittenSince_iff {fs after : FileSystem} {place : Place} {old new : ByteArray}
    {before stamp : Nat} (stood : fs.node? place = some (.file old before))
    (stands : after.node? place = some (.file new stamp)) :
    after.isWrittenSince fs place = true ↔ before ≠ stamp := by
  simp [isWrittenSince, stood, stands]

/-! ## Plain file systems -/

/-- Nothing stands anywhere but directories, files with their bytes, and links. -/
def IsPlain (fs : FileSystem) : Prop :=
  ∀ place, fs.node? place ≠ some .device ∧ fs.node? place ≠ some .unreadable

theorem isPlain_empty : empty.IsPlain := by
  intro place
  cases place <;> simp [empty, FileSystem.node?]

theorem IsPlain.grows {fs grown : FileSystem} (plain : fs.IsPlain) (h : fs.Grows grown) :
    grown.IsPlain := by
  intro place
  cases stands : fs.node? place with
  | some node =>
    rw [h.kept place node stands, ← stands]
    exact plain place
  | none =>
    rcases h.added place stands with missing | directory
    · simp [missing]
    · simp [directory]

theorem IsPlain.set {fs : FileSystem} (plain : fs.IsPlain) (place : Place) {node : Node}
    (notDevice : node ≠ .device) (readable : node ≠ .unreadable) :
    (fs.set place node).IsPlain := by
  intro other
  rcases node?_set_cases fs place other node with same | ⟨-, made⟩
  · rw [same]
    exact plain other
  · simp [made, notDevice, readable]

theorem IsPlain.writes {fs after : FileSystem} {bytes : ByteArray} {place : Place}
    (plain : fs.IsPlain) (h : fs.Writes bytes place after) : after.IsPlain := by
  cases h with
  | new | rewritten => exact plain.set place (by simp) (by simp)
  | lost => exact plain

/-- What is located to be written in a plain file system, and is no directory, is a file. -/
theorem IsPlain.file_of_located {fs : FileSystem} {path : String} {place : Place} {node : Node}
    (plain : fs.IsPlain) (located : fs.locate .write path = .ok place)
    (notDirectory : fs.node? place ≠ some .directory) (stands : fs.node? place = some node) :
    ∃ bytes stamp, node = .file bytes stamp := by
  cases node with
  | directory => exact absurd stands notDirectory
  | file bytes stamp => exact ⟨bytes, stamp, rfl⟩
  | link target => exact absurd stands (not_link_of_locate located target)
  | device => exact absurd stands (plain place).1
  | unreadable => exact absurd stands (plain place).2

/-- What is written to a plain file system stands in a file. -/
theorem IsPlain.node?_of_writes {fs after : FileSystem} {path : String} {bytes : ByteArray}
    {place : Place} (plain : fs.IsPlain) (located : fs.locate .write path = .ok place)
    (h : fs.Writes bytes place after) :
    ∃ stamp, after.node? place = some (.file bytes stamp) := by
  rcases h.node? located with ⟨stamp, file, -⟩ | ⟨-, node, stands, notFile⟩
  · exact ⟨stamp, file⟩
  · obtain ⟨old, before, isFile⟩ := plain.file_of_located located h.not_directory stands
    exact absurd isFile (notFile old before)

end FileSystem

end BuildHeader.Files
