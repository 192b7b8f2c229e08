import BuildHeader.Proofs.Shadowing
import BuildHeader.Proofs.Writing
import BuildHeader.Publish.Write

/-!
# What publishing does to the files

Publishing looks a path up twice: before the directories above it are made, to judge what is there,
and afterwards, to write. Both lookups end at the same place unless the path is shadowed.

Results:
1. `publish_publishes`: what publishing does, told by lookups alone.
2. `publish_ok_find`: a path that is published names a file that holds the text.
3. `publish_of_file`: where the path names a file publishing succeeds, and writes only new bytes.
4. `faithful_iff`: publishing touches no file without need, and calls none new that was there,
   just if the path is not shadowed.
-/

namespace BuildHeader.Publish

open BuildHeader.Files FileSystem

/-! ## Publishing by lookups -/

/-- The directories above the path are made, and then the text is written where it leads. -/
def Stores (fs : FileSystem) (path contents : String) (after : FileSystem) : Prop :=
  ∃ grown place, fs.ensureDirectories (directoriesAbove path) = (.ok (), grown) ∧
    grown.locate .write path = .ok place ∧ grown.Writes contents.toUTF8 place after

/-- `Publishes fs path contents result after`: what publishing can come to.

* `unchanged`: the path names a file that holds the text.
* `updated`: it names a file that holds something else.
* `created`: it names nothing.
* `failed`: it names no file; nothing but directories is made. -/
inductive Publishes (fs : FileSystem) (path contents : String) :
    Except PublishError Outcome → FileSystem → Prop
  | unchanged {stamp : Nat} : fs.find path = .ok (.file contents.toUTF8 stamp) →
      Publishes fs path contents (.ok .unchanged) fs
  | updated {bytes : ByteArray} {stamp : Nat} {after : FileSystem} :
      fs.find path = .ok (.file bytes stamp) → bytes ≠ contents.toUTF8 →
      Stores fs path contents after → Publishes fs path contents (.ok .updated) after
  | created {after : FileSystem} : fs.find path = .error .notFound →
      Stores fs path contents after → Publishes fs path contents (.ok .created) after
  | failed {error : PublishError} {after : FileSystem} :
      (∀ bytes stamp, fs.find path ≠ .ok (.file bytes stamp)) → fs.Grows after →
      Publishes fs path contents (.error error) after

theorem store_eq_ok_iff {fs after : FileSystem} {path contents : String} :
    store fs path contents = (.ok (), after) ↔ Stores fs path contents after := by
  simp only [store, Stores]
  generalize contents.toUTF8 = bytes
  split
  · next made => simp [made]
  · next grown made =>
    simp only [made, Prod.mk.injEq, true_and, exists_and_left, exists_eq_left',
      ← writeFile_eq_ok_iff]
    split
    · next failed => simp [failed]
    · next whole => simp [whole]

theorem grows_of_store {fs after : FileSystem} {path contents : String} {error : PublishError}
    (failed : store fs path contents = (.error error, after)) : fs.Grows after := by
  simp only [store] at failed
  split at failed
  · next made =>
    cases failed
    exact grows_of_ensureDirectories made
  · next grown made =>
    split at failed
    · cases failed
      exact grows_of_ensureDirectories made
    · cases failed

/-- Making directories does not change where a file is written that is there already. -/
theorem locate_write_of_grows {fs grown : FileSystem} {path : String} {place : Place}
    {bytes : ByteArray} {stamp : Nat} (grows : fs.Grows grown)
    (located : fs.locate .look path = .ok place)
    (stands : fs.node? place = some (.file bytes stamp)) :
    grown.locate .write path = .ok place := by
  have still : grown.node? place ≠ some .directory := by simp [grows.kept place _ stands]
  exact locate_write_of_look (grows.preserves.locate located) still

/-- A file that a path names can be stored. -/
theorem exists_stores_of_file {fs : FileSystem} {path : String} {bytes : ByteArray} {stamp : Nat}
    (found : fs.find path = .ok (.file bytes stamp)) (contents : String) :
    ∃ after, Stores fs path contents after := by
  obtain ⟨place, located, stands⟩ := find_eq_ok_iff.mp found
  have done := ensureDirectories_of_find found
  cases made : fs.ensureDirectories (directoriesAbove path) with
  | mk result grown =>
  rw [made] at done
  have grows := grows_of_ensureDirectories made
  exact ⟨_, grown, place, by rw [made, ← done], locate_write_of_grows grows located stands,
    .rewritten (grows.kept place _ stands)⟩

/-- At a path that names nothing the text is new if it is stored. -/
theorem publish_of_stores {fs after : FileSystem} {path contents : String}
    (notFound : fs.find path = .error .notFound) (stores : Stores fs path contents after) :
    (publish fs path contents).result = .ok .created ∧
      (publish fs path contents).after = after := by
  simp [publish, existing, notFound, judge, store_eq_ok_iff.mpr stores]

/-- What is refused for what stands there fails with that error. -/
theorem publish_of_refused {fs : FileSystem} {path contents : String} {error : PublishError}
    (refused : (judge path contents (existing fs path)).1 = .refuse error) :
    (publish fs path contents).result = .error error := by
  unfold publish
  cases judged : judge path contents (existing fs path) with
  | mk verdict seen =>
  rw [judged] at refused
  cases refused
  rfl

/-- What publishing does, told by lookups alone. -/
theorem publish_publishes (fs : FileSystem) (path contents : String) :
    Publishes fs path contents (publish fs path contents).result
      (publish fs path contents).after := by
  unfold publish existing
  cases found : fs.find path with
  | error fault =>
    have noFile : ∀ bytes stamp, fs.find path ≠ .ok (.file bytes stamp) := by simp [found]
    cases fault with
    | notFound =>
      simp only [judge]
      split
      · next failed => exact .failed noFile (grows_of_store failed)
      · next stored => exact .created found (store_eq_ok_iff.mp stored)
    | _ => exact .failed noFile (.refl fs)
  | ok node =>
    cases node with
    | file bytes stamp =>
      by_cases same : bytes = contents.toUTF8
      · subst same
        simp only [judge, if_true]
        exact .unchanged found
      · simp only [judge, if_neg same]
        -- The file is there, so that neither the directories nor the writing can fail.
        obtain ⟨after, stores⟩ := exists_stores_of_file found contents
        rw [store_eq_ok_iff.mpr stores]
        exact .updated found same stores
    | directory | link | device | unreadable =>
      exact .failed (by simp [found]) (.refl fs)

/-! ## What a published path names -/

theorem Stores.isPlain {fs after : FileSystem} {path contents : String} (plain : fs.IsPlain)
    (h : Stores fs path contents after) : after.IsPlain := by
  obtain ⟨grown, place, made, -, writes⟩ := h
  exact (plain.grows (grows_of_ensureDirectories made)).writes writes

theorem Stores.find {fs after : FileSystem} {path contents : String} (plain : fs.IsPlain)
    (h : Stores fs path contents after) :
    ∃ stamp, after.find path = .ok (.file contents.toUTF8 stamp) := by
  obtain ⟨grown, place, made, located, writes⟩ := h
  have plainGrown := plain.grows (grows_of_ensureDirectories made)
  obtain ⟨stamp, stands⟩ := plainGrown.node?_of_writes located writes
  exact ⟨stamp, find_eq_ok_iff.mpr ⟨place, writes.locate located, stands⟩⟩

/-- A file that is stored anew is the one that the path named before, with a higher stamp. -/
theorem Stores.of_file {fs after : FileSystem} {path contents : String} {place : Place}
    {bytes : ByteArray} {stamp : Nat} (h : Stores fs path contents after)
    (located : fs.locate .look path = .ok place)
    (stands : fs.node? place = some (.file bytes stamp)) :
    after.locate .look path = .ok place ∧
      after.node? place = some (.file contents.toUTF8 (stamp + 1)) ∧
      ∀ other, other ≠ place → fs.node? other ≠ none → after.node? other = fs.node? other := by
  obtain ⟨grown, target, made, writing, writes⟩ := h
  have grows := grows_of_ensureDirectories made
  have same := locate_write_of_grows grows located stands
  rw [writing] at same
  cases same
  refine ⟨writes.locate writing, ?_, fun other ne present => ?_⟩
  · rcases writes.node? writing with ⟨stamp', file, next⟩ | ⟨-, node, old, notFile⟩
    · rw [file, next bytes stamp (grows.kept _ _ stands)]
    · rw [grows.kept _ _ stands] at old
      exact absurd (Option.some.inj old).symm (notFile bytes stamp)
  · obtain ⟨node, there⟩ := Option.ne_none_iff_exists'.mp present
    rw [writes.node?_of_ne ne, grows.kept _ _ there, there]

theorem publish_isPlain {fs : FileSystem} (plain : fs.IsPlain) (path contents : String) :
    (publish fs path contents).after.IsPlain := by
  have publishes := publish_publishes fs path contents
  generalize (publish fs path contents).result = result,
    (publish fs path contents).after = after at publishes ⊢
  cases publishes with
  | unchanged => exact plain
  | updated _ _ stores | created _ stores => exact stores.isPlain plain
  | failed _ grows => exact plain.grows grows

/-- A path that is published names a file that holds the text. -/
theorem publish_ok_find {fs : FileSystem} (plain : fs.IsPlain) {path contents : String}
    {outcome : Outcome} (ok : (publish fs path contents).result = .ok outcome) :
    ∃ stamp, (publish fs path contents).after.find path = .ok (.file contents.toUTF8 stamp) := by
  have publishes := publish_publishes fs path contents
  rw [ok] at publishes
  generalize (publish fs path contents).after = after at publishes ⊢
  cases publishes with
  | unchanged found => exact ⟨_, found⟩
  | updated _ _ stores | created _ stores => exact stores.find plain

/-- Where the path names a file publishing succeeds. It leaves everything alone if the file holds
the text, or else writes the text to that file. -/
theorem publish_of_file {fs : FileSystem} {path : String} {place : Place} {bytes : ByteArray}
    {stamp : Nat} (located : fs.locate .look path = .ok place)
    (stands : fs.node? place = some (.file bytes stamp)) (contents : String) :
    (bytes = contents.toUTF8 ∧ (publish fs path contents).result = .ok .unchanged ∧
      (publish fs path contents).after = fs) ∨
    (bytes ≠ contents.toUTF8 ∧ (publish fs path contents).result = .ok .updated ∧
      (publish fs path contents).after.locate .look path = .ok place ∧
      (publish fs path contents).after.node? place = some (.file contents.toUTF8 (stamp + 1))) := by
  have found := find_eq_ok_iff.mpr ⟨place, located, stands⟩
  have publishes := publish_publishes fs path contents
  generalize (publish fs path contents).result = result,
    (publish fs path contents).after = after at publishes ⊢
  cases publishes with
  | unchanged same =>
    rw [found] at same
    cases same
    exact .inl ⟨rfl, rfl, rfl⟩
  | updated also differs stores =>
    rw [found] at also
    cases also
    obtain ⟨leads, holds, -⟩ := stores.of_file located stands
    exact .inr ⟨differs, rfl, leads, holds⟩
  | created notFound =>
    rw [found] at notFound
    cases notFound
  | failed noFile => exact absurd found (noFile bytes stamp)

/-! ## Faithful outcomes -/

/-- Publishing rewrites a file that was there only for other bytes and as an update, and calls a
file new only if nothing was there.

* `rewritten`: about the files that were there.
* `created`: about the file that the path names afterwards. -/
structure Faithful (fs : FileSystem) (path contents : String) : Prop where
  rewritten : ∀ place bytes stamp, fs.node? place = some (.file bytes stamp) →
    (publish fs path contents).after.isWrittenSince fs place = true →
    bytes ≠ contents.toUTF8 ∧ (publish fs path contents).result = .ok .updated
  created : (publish fs path contents).result = .ok .created →
    ∀ place, (publish fs path contents).after.locate .look path = .ok place →
      fs.node? place = none

/-- A path that names nothing, and is yet written where something stands, is shadowed. -/
theorem shadowed_of_writes {fs grown after : FileSystem} {path : String} {bytes : ByteArray}
    {place : Place} {node : Node} (notFound : fs.find path = .error .notFound)
    (made : fs.ensureDirectories (directoriesAbove path) = (.ok (), grown))
    (located : grown.locate .write path = .ok place) (writes : grown.Writes bytes place after)
    (stands : fs.node? place = some node) : fs.Shadowed path := by
  have still := (grows_of_ensureDirectories made).kept place node stands
  have leads : grown.locate .look path = .ok place :=
    (Grows.refl grown).preserves.locate_written located still fun target link =>
      not_link_of_locate located target (link ▸ still)
  refine ⟨notFound, grown, place, node, made, leads, stands, ?_⟩
  rintro rfl
  exact writes.not_directory still

/-- A shadowed path is published as a new one, and leads to what was there. -/
theorem not_faithful_of_shadowed {fs : FileSystem} {path : String} (shadowed : fs.Shadowed path)
    (contents : String) : ¬ Faithful fs path contents := by
  obtain ⟨notFound, grown, place, node, made, leads, stands, notDirectory⟩ := shadowed
  have still := (grows_of_ensureDirectories made).kept place node stands
  have located : grown.locate .write path = .ok place :=
    locate_write_of_look leads (by simp [still, notDirectory])
  obtain ⟨after, writes⟩ : ∃ after, grown.Writes contents.toUTF8 place after := by
    cases node with
    | directory => exact absurd rfl notDirectory
    | file old stamp => exact ⟨_, .rewritten still⟩
    | link | device | unreadable => exact ⟨grown, .lost still (by simp) (by simp)⟩
  obtain ⟨created, rfl⟩ := publish_of_stores notFound ⟨grown, place, made, located, writes⟩
  intro faithful
  have nothing := faithful.created created place (writes.locate located)
  rw [stands] at nothing
  cases nothing

theorem faithful_of_not_shadowed {fs : FileSystem} {path : String}
    (notShadowed : ¬ fs.Shadowed path) (contents : String) : Faithful fs path contents := by
  have publishes := publish_publishes fs path contents
  constructor
  · intro place bytes stamp stands written
    have changed : (publish fs path contents).after.node? place ≠ fs.node? place := by
      intro same
      rw [not_isWrittenSince same] at written
      cases written
    generalize (publish fs path contents).result = result,
      (publish fs path contents).after = after at publishes changed ⊢
    cases publishes with
    | unchanged => exact absurd rfl changed
    | failed _ grows => exact absurd ((grows.kept _ _ stands).trans stands.symm) changed
    | @updated old _ _ found differs stores =>
      -- Only the file that the path names changes, and it held other bytes.
      obtain ⟨target, located, there⟩ := find_eq_ok_iff.mp found
      obtain ⟨-, -, others⟩ := stores.of_file located there
      have same : place = target :=
        Decidable.byContradiction fun ne => changed (others place ne (by simp [stands]))
      subst same
      rw [there] at stands
      cases stands
      exact ⟨differs, rfl⟩
    | created notFound stores =>
      -- A file written under a path that named nothing means that the path is shadowed.
      obtain ⟨grown, target, made, located, writes⟩ := stores
      have still := (grows_of_ensureDirectories made).kept _ _ stands
      have same : place = target := Decidable.byContradiction fun ne =>
        changed ((writes.node?_of_ne ne).trans (still.trans stands.symm))
      subst same
      exact absurd (shadowed_of_writes notFound made located writes stands) notShadowed
  · intro created place leads
    rw [created] at publishes
    generalize (publish fs path contents).after = after at publishes leads
    cases publishes with
    | created notFound stores =>
      obtain ⟨grown, target, made, located, writes⟩ := stores
      rw [writes.locate located] at leads
      cases leads
      cases stands : fs.node? place with
      | none => rfl
      | some node =>
        exact absurd (shadowed_of_writes notFound made located writes stands) notShadowed

/-- Publishing touches no file without need, and calls none new that was there, just if the path
is not shadowed, as none is without two dots. -/
theorem faithful_iff (fs : FileSystem) (path contents : String) :
    (Faithful fs path contents ↔ ¬ fs.Shadowed path) ∧
      (¬ fs.Shadowed path ∨ ".." ∈ segments path) := by
  refine ⟨⟨?_, fun notShadowed => faithful_of_not_shadowed notShadowed contents⟩, ?_⟩
  · intro faithful shadowed
    exact not_faithful_of_shadowed shadowed contents faithful
  · by_cases shadowed : fs.Shadowed path
    · exact .inr shadowed.dots
    · exact .inl shadowed

/-- Publishing to `n/../f` writes to the file `f` what it holds already. -/
theorem not_faithful_behind_missing_directory :
    ¬ Faithful (FileSystem.empty.set ["f"] (.file "x".toUTF8 0)) "n/../f" "x" := by
  intro faithful
  have stands : (FileSystem.empty.set ["f"] (.file "x".toUTF8 0)).node? ["f"] =
      some (.file "x".toUTF8 0) := rfl
  exact (faithful.rewritten ["f"] _ _ stands (by decide +kernel)).1 rfl

end BuildHeader.Publish
