import BuildHeader.Proofs.FailedPublishing

/-!
# What a successful publishing leaves behind

A path may lead to its file through links, through directories that are made on the way, and back
over them. Wherever it ends, nothing but the file there is written, and nothing is new but that file
and directories above the path.

Results:
1. `Stores.delivers`: a text that is stored is delivered at one place.
2. `publish_ok_delivers`: so is a text that is published, whatever the outcome; if nothing was to be
   changed nothing is.
-/

namespace BuildHeader.Publish

open BuildHeader.Files FileSystem

/-- The text is delivered at the place, and nothing else is done.

* `home`: relative paths start where they did.
* `leads`: the path leads there.
* `holds`: a file stands there and holds the text.
* `wasFile`: what stood there before, if anything did, was a file.
* `kept`: every other node is as it was: a file with its bytes and its stamp, a link with its text.
* `added`: what is new elsewhere is a directory, named by a directory above the path, whose text is
  a beginning of the path's. -/
structure Delivers (fs after : FileSystem) (path contents : String) (place : Place) : Prop where
  home : after.home = fs.home
  leads : after.locate .look path = .ok place
  holds : ∃ stamp, after.node? place = some (.file contents.toUTF8 stamp)
  wasFile : ∀ node, fs.node? place = some node → ∃ bytes stamp, node = .file bytes stamp
  kept : ∀ other node, other ≠ place → fs.node? other = some node →
    after.node? other = some node
  added : ∀ other, other ≠ place → fs.node? other = none → after.node? other ≠ none →
    after.node? other = some .directory ∧
      ∃ directory ∈ directoriesAbove path,
        Above directory path ∧ after.locate .look directory = .ok other

/-- The directories that are made stay where they are named when the file is written. -/
theorem Stores.delivers {fs after : FileSystem} {path contents : String} (plain : fs.IsPlain)
    (h : Stores fs path contents after) : ∃ place, Delivers fs after path contents place := by
  obtain ⟨grown, place, made, located, writes⟩ := h
  have along := directoriesAbove_growsAlong made
  have plainGrown := plain.grows along.grows
  refine ⟨place, writes.preserves.home.trans along.grows.home, writes.locate located,
    plainGrown.node?_of_writes located writes, ?_, ?_, ?_⟩
  · intro node stands
    exact plainGrown.file_of_located located writes.not_directory (along.grows.kept _ _ stands)
  · intro other node ne stands
    rw [writes.node?_of_ne ne]
    exact along.grows.kept other node stands
  · intro other ne missing present
    rw [writes.node?_of_ne ne] at present ⊢
    obtain ⟨directory, member, leads⟩ := along.named other missing present
    have isDirectory := (along.grows.added other missing).resolve_left present
    exact ⟨isDirectory, directory, member, above_of_mem member, writes.preserves.locate leads⟩

/-- A file that holds the text already is delivered where it stands. -/
theorem delivers_of_find {fs : FileSystem} {path contents : String} {stamp : Nat}
    (found : fs.find path = .ok (.file contents.toUTF8 stamp)) :
    ∃ place, Delivers fs fs path contents place := by
  obtain ⟨place, located, stands⟩ := find_eq_ok_iff.mp found
  refine ⟨place, rfl, located, ⟨stamp, stands⟩, ?_, fun _ _ _ same => same, ?_⟩
  · intro node also
    rw [stands] at also
    exact ⟨_, _, (Option.some.inj also).symm⟩
  · intro other _ missing present
    exact absurd missing present

/-- A text that is published is delivered at one place: the path leads there to a file that holds
the text, every other file, link and directory is as it was, and only directories above the path are
new beside the file. If the text was there already nothing at all is changed. -/
theorem publish_ok_delivers {fs : FileSystem} (plain : fs.IsPlain) {path contents : String}
    {outcome : Outcome} (ok : (publish fs path contents).result = .ok outcome) :
    (∃ place, Delivers fs (publish fs path contents).after path contents place) ∧
      (outcome = .unchanged → (publish fs path contents).after = fs) := by
  have publishes := publish_publishes fs path contents
  rw [ok] at publishes
  generalize (publish fs path contents).after = after at publishes
  cases publishes with
  | unchanged found => exact ⟨delivers_of_find found, fun _ => rfl⟩
  | updated _ _ stores | created _ stores =>
    refine ⟨stores.delivers plain, fun impossible => ?_⟩
    cases impossible

/-- A root that holds the one link `l`, to a name that is free. -/
def oneLink : FileSystem :=
  FileSystem.empty.set ["l"] (.link "g")

/-- The path makes a directory, leaves it again and goes through the link. -/
theorem publish_through_link : oneLink.IsPlain ∧
    (publish oneLink "n/../l" "x").result = .ok .created ∧
    ∃ place, Delivers oneLink (publish oneLink "n/../l" "x").after "n/../l" "x" place := by
  have plain : oneLink.IsPlain := isPlain_empty.set ["l"] (by simp) (by simp)
  have created : (publish oneLink "n/../l" "x").result = .ok .created := by decide +kernel
  exact ⟨plain, created, (publish_ok_delivers plain created).1⟩

end BuildHeader.Publish
