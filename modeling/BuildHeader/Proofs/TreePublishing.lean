import BuildHeader.Proofs.FailedPublishing
import BuildHeader.Proofs.Trees

/-!
# Publishing where no links are

Without links the nodes at a path's names, and at their beginnings, tell what publishing comes to.
The lookup that judges the path and the directories that are made agree at every name: a path that
is judged new is blocked by nothing, and then all that is missing above it can be made.

Results:
1. `tree_cases`: a path leads to a node, or it is blocked, or it is free.
2. `exists_stores_of_free`: at a free path the text is stored, however much is missing above it.
3. `publish_inTree`: what publishing comes to, for every tree and every ordinary path.
-/

namespace BuildHeader.Publish

open BuildHeader.Files FileSystem

/-! ## Definitions -/

/-- Something that is no directory stands in the way: at a beginning of the path's names, and the
path goes on below it. -/
def IsBlocked (fs : FileSystem) (path : String) : Prop :=
  ∃ front more node, names path = front ++ more ∧ more ≠ [] ∧
    fs.node? (front.reverse ++ start path fs.home) = some node ∧ node ≠ .directory

/-- Nothing stands at the path's names, nor in the way. -/
def IsFree (fs : FileSystem) (path : String) : Prop :=
  fs.node? (fs.placeOf path) = none ∧ ¬ IsBlocked fs path

/-- What a publishing comes to is told by the nodes at the path's names and their beginnings.

* `directory`, `device`, `unreadable`: no file with its bytes stands there.
* `blocked`: the path goes on below something that is no directory.
* `file`: a file stands there; its bytes decide.
* `free`: in every remaining case the file is new.
* `delivered`: after a success the file holds the text, and everything above it is a directory.
* `noOther`: neither the directories nor the writing ever fail. -/
structure SettledInTree (fs : FileSystem) (path contents : String) (report : Report) : Prop where
  directory : fs.node? (fs.placeOf path) = some .directory →
    report.result = .error (.notAFile path)
  device : fs.node? (fs.placeOf path) = some .device → report.result = .error (.notAFile path)
  unreadable : fs.node? (fs.placeOf path) = some .unreadable →
    report.result = .error (.readExisting path .readFailure)
  blocked : IsBlocked fs path → report.result = .error (.readExisting path .notADirectory)
  file : ∀ bytes stamp, fs.node? (fs.placeOf path) = some (.file bytes stamp) →
    report.result = .ok (if bytes = contents.toUTF8 then .unchanged else .updated)
  free : IsFree fs path → report.result = .ok .created
  delivered : ∀ outcome, report.result = .ok outcome →
    (∃ stamp, report.after.node? (fs.placeOf path) = some (.file contents.toUTF8 stamp)) ∧
      ∀ front more, names path = front ++ more → more ≠ [] →
        report.after.node? (front.reverse ++ start path fs.home) = some .directory
  noOther : ∀ directory cause, report.result ≠ .error (.createDirectory directory cause) ∧
    report.result ≠ .error (.write directory cause)

section
variable {fs : FileSystem} {path : String}

/-! ## Lookups -/

theorem IsFree.isClear (h : IsFree fs path) : fs.IsClear (start path fs.home) (names path) := by
  intro front more whole
  cases stands : fs.node? (front.reverse ++ start path fs.home) with
  | none => exact .inl rfl
  | some node =>
    refine .inr (congrArg some (Decidable.byContradiction fun notDirectory => ?_))
    by_cases goesOn : more = []
    · rw [goesOn, List.append_nil] at whole
      rw [← whole, ← placeOf, h.1] at stands
      cases stands
    · exact h.2 ⟨front, more, node, whole, goesOn, stands, notDirectory⟩

theorem IsBlocked.find (h : IsBlocked fs path) (noLinks : fs.HasNoLinks)
    (ordinary : IsOrdinary path) : fs.find path = .error .notADirectory := by
  obtain ⟨front, more, node, whole, goesOn, stands, notDirectory⟩ := h
  exact find_of_blocked noLinks ordinary whole goesOn stands notDirectory

theorem IsFree.find (h : IsFree fs path) (noLinks : fs.HasNoLinks) (ordinary : IsOrdinary path) :
    fs.find path = .error .notFound :=
  find_of_clear noLinks ordinary h.isClear h.1

/-- A path leads to a node, or it is blocked, or it is free. -/
theorem tree_cases (fs : FileSystem) (path : String) :
    (∃ node, fs.node? (fs.placeOf path) = some node) ∨ IsBlocked fs path ∨ IsFree fs path := by
  cases stands : fs.node? (fs.placeOf path) with
  | some node => exact .inl ⟨node, rfl⟩
  | none =>
    by_cases blocked : IsBlocked fs path
    · exact .inr (.inl blocked)
    · exact .inr (.inr ⟨stands, blocked⟩)

/-! ## Storing -/

/-- A free path has a last name, for it does not lead to where it starts. -/
theorem IsFree.exists_last (h : IsFree fs path) : ∃ above name, names path = above ++ [name] := by
  have some : names path ≠ [] := by
    intro noName
    have missing := h.1
    rw [placeOf, noName] at missing
    cases (node?_start path (node?_home fs)).symm.trans missing
  exact ⟨_, _, (List.dropLast_concat_getLast some).symm⟩

/-- All that is missing above a free path is made. -/
theorem exists_made_of_free (noLinks : fs.HasNoLinks) (ordinary : IsOrdinary path)
    (h : IsFree fs path) {above : List String} {name : String}
    (whole : names path = above ++ [name]) :
    ∃ grown, fs.ensureDirectories (directoriesAbove path) = (.ok (), grown) ∧
      fs.MadeDownTo grown (above.reverse ++ start path fs.home) := by
  have directories : ∀ directory ∈ directoriesAbove path,
      IsOrdinary directory ∧ start directory fs.home = start path fs.home := by
    intro directory member
    have isAbove := above_of_mem member
    exact ⟨ordinary.above isAbove, (isAbove.start fs.home).symm⟩
  have named : (directoriesAbove path).map (fun directory => (names directory).reverse) =
      namedBeginnings above.reverse := by
    rw [ordinary.names_directoriesAbove, whole, List.reverse_append]
    rfl
  have noneIdle : ∀ segment ∈ above.reverse, isIdle segment = false := by
    intro segment member
    exact ordinary.isIdle_names segment (by simp [whole, List.mem_reverse.mp member])
  have clear := h.isClear
  rw [whole, ← List.reverse_reverse above] at clear
  exact ensureDirectories_tree noLinks directories named noneIdle
    (node?_start path (node?_home fs)) clear.of_append

/-- At a free path the text is stored, however many directories are missing above it. -/
theorem exists_stores_of_free (noLinks : fs.HasNoLinks) (ordinary : IsOrdinary path)
    (h : IsFree fs path) (contents : String) :
    ∃ after, Stores fs path contents after ∧
      after.node? (fs.placeOf path) = some (.file contents.toUTF8 0) := by
  obtain ⟨above, name, whole⟩ := h.exists_last
  obtain ⟨grown, made, ⟨holder, elsewhere⟩⟩ := exists_made_of_free noLinks ordinary h whole
  have grows := grows_of_ensureDirectories made
  have samePlace : grown.placeOf path = fs.placeOf path := by rw [placeOf, placeOf, grows.home]
  -- What was made is above the path's place, which is still free.
  have missing : grown.node? (fs.placeOf path) = none := by
    rw [elsewhere, h.1]
    rw [placeOf_eq_cons whole]
    intro isAbove
    exact absurd isAbove.length_le (by simp)
  have located : grown.locate .write path = .ok (fs.placeOf path) := by
    rw [← samePlace] at missing ⊢
    rw [← grows.home] at holder
    exact locate_write_of_holder (noLinks.grows grows) ordinary whole holder missing
  refine ⟨_, ⟨grown, fs.placeOf path, made, located, .new missing⟩, ?_⟩
  rw [placeOf_eq_cons whole] at missing ⊢
  exact node?_set ⟨holder, by simp [missing]⟩

/-! ## Publishing -/

/-- Whatever a file's path leads to, publishing refuses it, or tells by its bytes what is done. -/
theorem publish_of_node (noLinks : fs.HasNoLinks) (ordinary : IsOrdinary path) {node : Node}
    (stands : fs.node? (fs.placeOf path) = some node) (contents : String) :
    (publish fs path contents).result =
      match node with
      | .file bytes _ => .ok (if bytes = contents.toUTF8 then .unchanged else .updated)
      | .unreadable => .error (.readExisting path .readFailure)
      | _ => .error (.notAFile path) := by
  have found := find_of_present noLinks ordinary stands
  cases node with
  | file bytes stamp =>
    have located := locate_of_present noLinks ordinary (by simp [stands]) .look
    rcases publish_of_file located stands contents with ⟨same, result, -⟩ | ⟨differs, result, -⟩
    · simp only [result, if_pos same]
    · simp only [result, if_neg differs]
  | directory | link | device | unreadable =>
    exact publish_of_refused (by rw [existing, found]; rfl)

theorem publish_of_blocked (noLinks : fs.HasNoLinks) (ordinary : IsOrdinary path)
    (blocked : IsBlocked fs path) (contents : String) :
    (publish fs path contents).result = .error (.readExisting path .notADirectory) :=
  publish_of_refused (by rw [existing, blocked.find noLinks ordinary]; rfl)

theorem publish_of_free (noLinks : fs.HasNoLinks) (ordinary : IsOrdinary path)
    (free : IsFree fs path) (contents : String) :
    (publish fs path contents).result = .ok .created ∧
      (publish fs path contents).after.node? (fs.placeOf path) =
        some (.file contents.toUTF8 0) := by
  obtain ⟨after, stores, stands⟩ := exists_stores_of_free noLinks ordinary free contents
  obtain ⟨created, rfl⟩ := publish_of_stores (free.find noLinks ordinary) stores
  exact ⟨created, stands⟩

/-- A text that is published stands in a file at the place of the path's names. -/
theorem node?_of_publish_ok (noLinks : fs.HasNoLinks) (ordinary : IsOrdinary path)
    {contents : String} {outcome : Outcome} (ok : (publish fs path contents).result = .ok outcome) :
    ∃ stamp, (publish fs path contents).after.node? (fs.placeOf path) =
      some (.file contents.toUTF8 stamp) := by
  rcases tree_cases fs path with ⟨node, stands⟩ | blocked | free
  · have result := publish_of_node noLinks ordinary stands contents
    rw [ok] at result
    cases node with
    | file bytes stamp =>
      have located := locate_of_present noLinks ordinary (by simp [stands]) .look
      rcases publish_of_file located stands contents with ⟨rfl, -, same⟩ | ⟨-, -, -, holds⟩
      · exact ⟨stamp, by rw [same, stands]⟩
      · exact ⟨stamp + 1, holds⟩
    | directory | link | device | unreadable => cases result
  · rw [publish_of_blocked noLinks ordinary blocked] at ok
    cases ok
  · exact ⟨0, (publish_of_free noLinks ordinary free contents).2⟩

/-- For every file system without links, every path of names and every text, the nodes at the names
and their beginnings tell what publishing comes to. -/
theorem publish_inTree (noLinks : fs.HasNoLinks) (ordinary : IsOrdinary path) (contents : String) :
    SettledInTree fs path contents (publish fs path contents) where
  directory stands := publish_of_node noLinks ordinary stands contents
  device stands := publish_of_node noLinks ordinary stands contents
  unreadable stands := publish_of_node noLinks ordinary stands contents
  blocked blocked := publish_of_blocked noLinks ordinary blocked contents
  file _ _ stands := publish_of_node noLinks ordinary stands contents
  free free := (publish_of_free noLinks ordinary free contents).1
  delivered outcome ok := by
    obtain ⟨stamp, holds⟩ := node?_of_publish_ok noLinks ordinary ok
    refine ⟨⟨stamp, holds⟩, fun front more whole goesOn => ?_⟩
    have below : more.reverse ≠ [] := by simpa using goesOn
    refine directory_of_below below ?_
    rw [← List.append_assoc, ← List.reverse_append, ← whole, ← placeOf, holds]
    simp
  noOther directory cause := by
    rcases tree_cases fs path with ⟨node, stands⟩ | blocked | free
    · rw [publish_of_node noLinks ordinary stands]
      cases node <;> simp
    · simp [publish_of_blocked noLinks ordinary blocked]
    · simp [publish_of_free noLinks ordinary free]

end

/-- Beside the file `f` two directories are made on the way, and below it none. -/
theorem publish_beside_file : oneFile.HasNoLinks ∧ IsOrdinary "a/b/c" ∧ IsOrdinary "f/a/b" ∧
    (publish oneFile "a/b/c" "x").result = .ok .created ∧
    (publish oneFile "a/b/c" "x").after.node? ["b", "a"] = some .directory ∧
    (publish oneFile "f/a/b" "x").result = .error (.readExisting "f/a/b" .notADirectory) := by
  have noLinks : oneFile.HasNoLinks := hasNoLinks_empty.set ["f"] (by simp)
  have beside : IsOrdinary "a/b/c" := by constructor <;> decide
  have below : IsOrdinary "f/a/b" := by constructor <;> decide
  have result : (publish oneFile "a/b/c" "x").result = .ok .created := by decide +kernel
  have blocked : IsBlocked oneFile "f/a/b" :=
    ⟨["f"], ["a", "b"], .file "x".toUTF8 0, by decide, by decide, rfl, by decide⟩
  refine ⟨noLinks, beside, below, result, ?_, (publish_inTree noLinks below "x").blocked blocked⟩
  exact ((publish_inTree noLinks beside "x").delivered .created result).2 ["a", "b"] ["c"]
    (by decide) (by decide)

end BuildHeader.Publish
