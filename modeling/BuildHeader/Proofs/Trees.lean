import BuildHeader.Proofs.NamePaths
import BuildHeader.Proofs.Shadowing
import BuildHeader.Proofs.Writing

/-!
# File systems without links

Where no link leads away, a path made of names leads to the place of these names below its start. A
lookup goes on as long as it meets directories, and the first name that it does not find, or the
first node that is no directory, settles how it ends.

Results:
1. `walk_names`: names that are there are entered, one by one.
2. `locate_of_present`, `find_of_blocked`, `find_of_clear`: what a lookup of an ordinary path comes
   to.
3. `ensureDirectories_tree`: directories are made, however many of them are missing, if nothing else
   stands in their way.
-/

namespace BuildHeader.Files

namespace FileSystem

/-! ## Definitions -/

/-- No symbolic link stands anywhere. -/
def HasNoLinks (fs : FileSystem) : Prop :=
  ∀ place target, fs.node? place ≠ some (.link target)

/-- The place of the names of a path below the path's start. -/
def placeOf (fs : FileSystem) (path : String) : Place :=
  (names path).reverse ++ start path fs.home

/-- At the beginnings of the names, the whole included, stands nothing but directories. -/
def IsClear (fs : FileSystem) (base : Place) (names : List String) : Prop :=
  ∀ front more, names = front ++ more →
    fs.node? (front.reverse ++ base) = none ∨ fs.node? (front.reverse ++ base) = some .directory

/-- A directory stands at the place, and nothing is changed but there and above. -/
structure MadeDownTo (fs grown : FileSystem) (place : Place) : Prop where
  directory : grown.node? place = some .directory
  elsewhere : ∀ other, ¬ other <:+ place → grown.node? other = fs.node? other

section
variable {fs : FileSystem}

/-! ## Places below places -/

theorem directory_of_below {more place : List String} (below : more ≠ [])
    (present : fs.node? (more ++ place) ≠ none) : fs.node? place = some .directory := by
  induction more with
  | nil => exact absurd rfl below
  | cons name more ih =>
    have holder : fs.node? (more ++ place) = some .directory := directory_of_node present
    cases more with
    | nil => exact holder
    | cons =>
      refine ih (List.cons_ne_nil _ _) fun missing => ?_
      rw [missing] at holder
      cases holder

theorem present_of_below {more place : List String} (present : fs.node? (more ++ place) ≠ none) :
    fs.node? place ≠ none := by
  cases more with
  | nil => exact present
  | cons name more => simp [directory_of_below (List.cons_ne_nil name more) present]

/-- Where names lead nowhere, one of them is the first that is missing. -/
theorem exists_departure {names : List String} {here : Place} (present : fs.node? here ≠ none)
    (missing : fs.node? (names.reverse ++ here) = none) :
    ∃ front name more node, names = front ++ name :: more ∧
      fs.node? (front.reverse ++ here) = some node ∧
      fs.node? (name :: (front.reverse ++ here)) = none := by
  induction names generalizing here with
  | nil => exact absurd missing present
  | cons name rest ih =>
    cases first : fs.node? (name :: here) with
    | none =>
      obtain ⟨node, stands⟩ := Option.ne_none_iff_exists'.mp present
      exact ⟨[], name, rest, node, rfl, stands, first⟩
    | some node =>
      have below : fs.node? (rest.reverse ++ name :: here) = none := by simpa using missing
      obtain ⟨front, next, more, last, rfl, stands, departs⟩ := ih (by simp [first]) below
      exact ⟨name :: front, next, more, last, rfl, by simpa using stands, by simpa using departs⟩

/-! ## Entering names -/

/-- In a directory a name is entered if it is there, for it is no link. -/
theorem walk_enter (noLinks : fs.HasNoLinks) {purpose : Purpose} {name : String} {here : Place}
    {rest : List Step} (directory : fs.node? here = some .directory)
    (short : name.utf8ByteSize ≤ nameLimit) (notSlash : ¬ (purpose = .write ∧ rest = [.slash]))
    (links : Nat) :
    fs.walk purpose links here (.enter name :: rest) =
      match fs.node? (name :: here) with
      | none => if purpose = .write ∧ rest = [] then .ok (name :: here) else .error .notFound
      | some _ => fs.walk purpose links (name :: here) rest := by
  rw [walk_cons, if_neg (by simp [isDirectoryAt_iff.mpr directory])]
  simp only [if_neg notSlash, if_neg (Nat.not_lt.mpr short)]
  cases stands : fs.node? (name :: here) with
  | none => rfl
  | some node =>
    cases node with
    | link target => exact absurd stands (noLinks _ target)
    | directory | file | device | unreadable => rfl

/-- Names that are there are entered, one by one. -/
theorem walk_names (noLinks : fs.HasNoLinks) {purpose : Purpose} {links : Nat} {names : List String}
    {here : Place} {rest : List Step} (short : ∀ name ∈ names, name.utf8ByteSize ≤ nameLimit)
    (present : fs.node? (names.reverse ++ here) ≠ none)
    (notSlash : ¬ (purpose = .write ∧ rest = [.slash])) :
    fs.walk purpose links here (names.map .enter ++ rest) =
      fs.walk purpose links (names.reverse ++ here) rest := by
  induction names generalizing here with
  | nil => rfl
  | cons name names ih =>
    have below : fs.node? (names.reverse ++ name :: here) ≠ none := by simpa using present
    obtain ⟨node, stands⟩ := Option.ne_none_iff_exists'.mp (present_of_below below)
    have entered : fs.node? (name :: here) ≠ none := by simp [stands]
    have notLast : ¬ (purpose = .write ∧ names.map Step.enter ++ rest = [.slash]) := by
      rintro ⟨writing, whole⟩
      cases names with
      | nil => exact notSlash ⟨writing, whole⟩
      | cons => cases whole
    have onwards := ih (fun other member => short other (List.mem_cons_of_mem _ member)) below
    rw [List.map_cons, List.cons_append,
      walk_enter noLinks (directory_of_node entered) (short name List.mem_cons_self) notLast]
    simp only [stands]
    rw [List.reverse_cons, List.append_assoc, List.singleton_append, onwards]

theorem walkPath_names (noLinks : fs.HasNoLinks) {purpose : Purpose} {path : String}
    {front more : List String} {rest : List Step} (ordinary : IsOrdinary path)
    (whole : names path = front ++ more)
    (present : fs.node? (front.reverse ++ start path fs.home) ≠ none)
    (notSlash : ¬ (purpose = .write ∧ rest = [.slash])) :
    fs.walkPath purpose path (front.map .enter ++ rest) =
      fs.walk purpose linkLimit (front.reverse ++ start path fs.home) rest := by
  have short : ∀ name ∈ front, name.utf8ByteSize ≤ nameLimit :=
    fun name member => ordinary.short_names name (by simp [whole, member])
  unfold walkPath
  rw [ordinary.refusal]
  exact walk_names noLinks short present notSlash

/-- Where nothing but directories stands on the way, and nothing at its end, a lookup finds
nothing. -/
theorem walkPath_of_clear (noLinks : fs.HasNoLinks) {path : String} {front more : List String}
    (ordinary : IsOrdinary path) (whole : names path = front ++ more)
    (clear : fs.IsClear (start path fs.home) front)
    (missing : fs.node? (front.reverse ++ start path fs.home) = none) (rest : List Step) :
    fs.walkPath .look path (front.map .enter ++ rest) = .error .notFound := by
  have startsAt := node?_start path (node?_home fs)
  obtain ⟨before, name, after, node, rfl, stands, departs⟩ :=
    exists_departure (by simp [startsAt]) missing
  have directory := (clear before (name :: after) rfl).resolve_left (by simp [stands])
  have short := ordinary.short_names name (by simp [whole])
  rw [List.append_assoc] at whole
  rw [List.map_append, List.append_assoc,
    walkPath_names noLinks ordinary whole (by simp [stands]) (by simp),
    List.map_cons, List.cons_append, walk_enter noLinks directory short (by simp)]
  simp [departs]

/-! ## Looking up a path -/

/-- The last name of a path, and the place that is to hold it. -/
theorem placeOf_eq_cons {path name : String} {above : List String}
    (whole : names path = above ++ [name]) :
    fs.placeOf path = name :: (above.reverse ++ start path fs.home) := by
  simp [placeOf, whole]

/-- A directory above a path has its place above the path's place. -/
theorem placeOf_suffix {directory path : String} (above : Above directory path)
    (fs : FileSystem) : fs.placeOf directory <:+ fs.placeOf path := by
  have sameStart := above.start fs.home
  obtain ⟨rest, rfl, -⟩ := above.goesOn
  refine ⟨(names rest).reverse, ?_⟩
  rw [placeOf, placeOf, names_append, sameStart, List.reverse_append, List.append_assoc]

/-- What is there is located at its place, for whatever purpose. -/
theorem locate_of_present (noLinks : fs.HasNoLinks) {path : String} (ordinary : IsOrdinary path)
    (present : fs.node? (fs.placeOf path) ≠ none) (purpose : Purpose) :
    fs.locate purpose path = .ok (fs.placeOf path) := by
  have whole : names path = names path ++ [] := (List.append_nil _).symm
  rw [locate, ordinary.steps, ← List.append_nil (List.map _ _),
    walkPath_names noLinks ordinary whole present (by simp), walk_nil]
  rfl

theorem find_of_present (noLinks : fs.HasNoLinks) {path : String} (ordinary : IsOrdinary path)
    {node : Node} (stands : fs.node? (fs.placeOf path) = some node) : fs.find path = .ok node :=
  find_eq_ok_iff.mpr
    ⟨_, locate_of_present noLinks ordinary (by simp [stands]) .look, stands⟩

/-- Below something that is no directory nothing is looked for. -/
theorem find_of_blocked (noLinks : fs.HasNoLinks) {path : String} (ordinary : IsOrdinary path)
    {front more : List String} {node : Node} (whole : names path = front ++ more)
    (goesOn : more ≠ [])
    (stands : fs.node? (front.reverse ++ start path fs.home) = some node)
    (notDirectory : node ≠ .directory) : fs.find path = .error .notADirectory := by
  obtain ⟨name, more, rfl⟩ := List.exists_cons_of_ne_nil goesOn
  have located : fs.locate .look path = .error .notADirectory := by
    rw [locate, ordinary.steps, whole, List.map_append,
      walkPath_names noLinks ordinary whole (by simp [stands]) (by simp),
      List.map_cons, walk_cons, if_pos (by simp [isDirectoryAt, stands, notDirectory])]
  rw [find, located]

theorem find_of_clear (noLinks : fs.HasNoLinks) {path : String} (ordinary : IsOrdinary path)
    (clear : fs.IsClear (start path fs.home) (names path))
    (missing : fs.node? (fs.placeOf path) = none) : fs.find path = .error .notFound := by
  have whole : names path = names path ++ [] := (List.append_nil _).symm
  have located : fs.locate .look path = .error .notFound := by
    rw [locate, ordinary.steps, ← List.append_nil (List.map _ _)]
    exact walkPath_of_clear noLinks ordinary whole clear missing []
  rw [find, located]

/-- A name that is free in a directory is located to be written. -/
theorem locate_write_of_holder (noLinks : fs.HasNoLinks) {path : String}
    (ordinary : IsOrdinary path) {above : List String} {name : String}
    (whole : names path = above ++ [name])
    (holder : fs.node? (above.reverse ++ start path fs.home) = some .directory)
    (missing : fs.node? (fs.placeOf path) = none) :
    fs.locate .write path = .ok (fs.placeOf path) := by
  have short := ordinary.short_names name (by simp [whole])
  rw [placeOf_eq_cons whole] at missing ⊢
  rw [locate, ordinary.steps, whole, List.map_append,
    walkPath_names noLinks ordinary whole (by simp [holder]) (by simp),
    List.map_singleton, walk_enter noLinks holder short (by simp)]
  simp [missing]

/-! ## Growth -/

theorem hasNoLinks_empty : empty.HasNoLinks := by
  intro place target
  cases place <;> simp [empty, FileSystem.node?]

theorem HasNoLinks.set (noLinks : fs.HasNoLinks) (place : Place) {node : Node}
    (notLink : ∀ target, node ≠ .link target) : (fs.set place node).HasNoLinks := by
  intro other target stands
  rcases node?_set_cases fs place other node with same | ⟨-, made⟩
  · exact noLinks other target (same.symm.trans stands)
  · exact notLink target (Option.some.inj (made.symm.trans stands))

theorem HasNoLinks.writes {after : FileSystem} {bytes : ByteArray} {place : Place}
    (noLinks : fs.HasNoLinks) (h : fs.Writes bytes place after) : after.HasNoLinks := by
  cases h with
  | new | rewritten => exact noLinks.set place (by simp)
  | lost => exact noLinks

theorem HasNoLinks.grows {grown : FileSystem} (noLinks : fs.HasNoLinks) (grows : fs.Grows grown) :
    grown.HasNoLinks := by
  intro place target stands
  cases stood : fs.node? place with
  | none => exact grows.not_link stood target stands
  | some node =>
    have same := (grows.kept place node stood).symm.trans stands
    exact noLinks place target (stood.trans same)

theorem IsClear.of_append {base : Place} {names more : List String}
    (h : fs.IsClear base (names ++ more)) : fs.IsClear base names := by
  intro front others cut
  exact h front (others ++ more) (by rw [cut, List.append_assoc])

theorem IsClear.whole {base : Place} {names : List String} (h : fs.IsClear base names) :
    fs.node? (names.reverse ++ base) = none ∨ fs.node? (names.reverse ++ base) = some .directory :=
  h names [] (List.append_nil names).symm

theorem IsClear.grows {base : Place} {names : List String} {grown : FileSystem}
    (h : fs.IsClear base names) (grows : fs.Grows grown) : grown.IsClear base names := by
  intro front more cut
  rcases h front more cut with missing | directory
  · exact grows.added _ missing
  · exact .inr (grows.kept _ _ directory)

/-! ## Making directories -/

/-- One directory more is made in the one that was made last. -/
theorem MadeDownTo.below {middle grown : FileSystem} {place : Place} {name : String}
    (h : fs.MadeDownTo middle place) (h' : middle.MadeDownTo grown (name :: place)) :
    fs.MadeDownTo grown (name :: place) where
  directory := h'.directory
  elsewhere other notAbove := by
    have notHolder : ¬ other <:+ place :=
      fun isAbove => notAbove (isAbove.trans (List.suffix_cons name place))
    rw [h'.elsewhere other notAbove, h.elsewhere other notHolder]

/-- A directory's last name is looked for in the directory that holds it. -/
theorem locateEntry_of_holder (noLinks : fs.HasNoLinks) {path : String}
    (ordinary : IsOrdinary path) {above : List String} {name : String}
    (whole : names path = above ++ [name])
    (holder : fs.node? (above.reverse ++ start path fs.home) = some .directory) :
    fs.locateEntry path = .ok (some (fs.placeOf path)) := by
  refine locateEntry_eq_ok_some_iff.mpr ⟨_, name, ?_, ?_, ?_, placeOf_eq_cons whole⟩
  · rw [ordinary.nameSteps, whole, List.map_append, List.map_singleton, List.dropLast_concat,
      walkPath_names noLinks ordinary whole (by simp [holder]) (by simp),
      walk_cons, if_neg (by simp [isDirectoryAt_iff.mpr holder])]
    exact walk_nil _ _ _ _
  · simp [ordinary.nameSteps, whole]
  · exact ordinary.short_names name (by simp [whole])

/-- A directory is made, or is there, where another one holds it. -/
theorem ensureDirectory_of_holder (noLinks : fs.HasNoLinks) {path : String}
    (ordinary : IsOrdinary path) {above : List String} {name : String}
    (whole : names path = above ++ [name])
    (holder : fs.node? (above.reverse ++ start path fs.home) = some .directory)
    (clear : fs.IsClear (start path fs.home) (names path)) :
    ∃ grown, fs.ensureDirectory path = (.ok (), grown) ∧
      fs.MadeDownTo grown (fs.placeOf path) := by
  have entry := locateEntry_of_holder noLinks ordinary whole holder
  rcases clear.whole with missing | directory
  · have made : fs.makeDirectory path = .ok (fs.set (fs.placeOf path) .directory) :=
      addEntry_eq_ok_iff.mpr ⟨_, entry, missing, rfl⟩
    refine ⟨_, by rw [ensureDirectory, made], ?_, fun other notAbove => ?_⟩
    · rw [← placeOf, placeOf_eq_cons whole] at missing
      rw [placeOf_eq_cons whole]
      exact node?_set ⟨holder, by simp [missing]⟩
    · exact node?_set_of_ne fun same => notAbove (same ▸ List.suffix_rfl)
  · have taken : fs.makeDirectory path = .error .alreadyExists := by
      simp [makeDirectory, addEntry, entry, placeOf, directory]
    have isThere : fs.isDirectory path = true := by
      rw [isDirectory, find_of_present noLinks ordinary directory]
    exact ⟨fs, by simp [ensureDirectory, taken, isThere], directory, fun _ _ => rfl⟩

/-- A directory is not made where none holds it. -/
theorem ensureDirectory_of_clear (noLinks : fs.HasNoLinks) {path : String}
    (ordinary : IsOrdinary path) {above : List String} {name : String}
    (whole : names path = above ++ [name])
    (clear : fs.IsClear (start path fs.home) (names path))
    (missing : fs.node? (above.reverse ++ start path fs.home) = none) :
    fs.ensureDirectory path = (.error .notFound, fs) := by
  have clearAbove : fs.IsClear (start path fs.home) above := by
    rw [whole] at clear
    exact clear.of_append
  have reached : fs.walkPath .look path ((nameSteps path).dropLast ++ [.slash]) =
      .error .notFound := by
    rw [ordinary.nameSteps, whole, List.map_append, List.map_singleton, List.dropLast_concat]
    exact walkPath_of_clear noLinks ordinary whole clearAbove missing [.slash]
  have failed : fs.makeDirectory path = .error .notFound := by
    rw [makeDirectory, addEntry, locateEntry, reached]
  have nothing : fs.node? (fs.placeOf path) = none := by
    rw [placeOf_eq_cons whole]
    exact missing_below missing
  simp [ensureDirectory, failed, isDirectory, find_of_clear noLinks ordinary clear nothing]

/-- However many directories are missing, all of them are made if nothing else stands in their way.
The induction is on the names, given backwards: the nearest directory is tried first, and made last
if the one that holds it is missing. -/
theorem ensureDirectories_tree (noLinks : fs.HasNoLinks) {paths : List String} {base : Place}
    {back : List String} (ordinary : ∀ path ∈ paths, IsOrdinary path ∧ start path fs.home = base)
    (named : paths.map (fun path => (names path).reverse) = namedBeginnings back)
    (noneIdle : ∀ name ∈ back, isIdle name = false) (atBase : fs.node? base = some .directory)
    (clear : fs.IsClear base back.reverse) :
    ∃ grown, fs.ensureDirectories paths = (.ok (), grown) ∧ fs.MadeDownTo grown (back ++ base) := by
  induction back generalizing paths with
  | nil =>
    cases List.map_eq_nil_iff.mp named
    exact ⟨fs, rfl, atBase, fun _ _ => rfl⟩
  | cons name above ih =>
    rw [namedBeginnings, noneIdle name List.mem_cons_self, if_neg Bool.false_ne_true] at named
    obtain ⟨path, further, rfl, own, others⟩ := List.map_eq_cons_iff.mp named
    obtain ⟨ordinaryPath, rfl⟩ := ordinary path List.mem_cons_self
    have whole : names path = above.reverse ++ [name] := by
      rw [← List.reverse_reverse (names path), own, List.reverse_cons]
    have place : fs.placeOf path = name :: above ++ start path fs.home := by
      rw [placeOf, own]
    rw [List.reverse_cons] at clear
    have clearPath : fs.IsClear (start path fs.home) (names path) := by rwa [whole]
    rcases clear.of_append.whole with missing | holder
    · have first := ensureDirectory_of_clear noLinks ordinaryPath whole clearPath missing
      obtain ⟨middle, made, madeAbove⟩ := ih
        (fun other member => ordinary other (List.mem_cons_of_mem _ member)) others
        (fun other member => noneIdle other (List.mem_cons_of_mem _ member)) clear.of_append
      have grows := grows_of_ensureDirectories made
      have holder := madeAbove.directory
      rw [← grows.home] at clearPath holder
      obtain ⟨grown, last, madeLast⟩ := ensureDirectory_of_holder (noLinks.grows grows)
        ordinaryPath whole (by simpa using holder) (clearPath.grows grows)
      rw [placeOf, grows.home, ← placeOf, place] at madeLast
      exact ⟨grown, by simp only [ensureDirectories, first, made, last], madeAbove.below madeLast⟩
    · obtain ⟨grown, made, madeLast⟩ :=
        ensureDirectory_of_holder noLinks ordinaryPath whole holder clearPath
      exact ⟨grown, by simp only [ensureDirectories, made], place ▸ madeLast⟩

end

end FileSystem

end BuildHeader.Files
