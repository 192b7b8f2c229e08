import BuildHeader.Proofs.Walking

/-!
# Changes that keep what a lookup meets

Making directories only adds nodes, and writing a file replaces a file by a file. Either way a
lookup that succeeded before succeeds afterwards and ends at the same place.

Results:
1. `Walks.preserved`: a walk stays one where directories stay directories and links stay links.
2. `ensureDirectories_grows`: making directories, even with a failure, only adds directories.
3. `ensureDirectories_of_isDirectory`: no failure where the nearest directory is there.
4. `Preserves.write`: writing a file found to be written is such a change.
-/

namespace BuildHeader.Files

/-! ## Definitions -/

/-- What a lookup can tell of a node.

* `directory`: it can go on below it.
* `link`: it takes the steps of the text.
* `other`: it can only end there. -/
inductive Sight
  | directory
  | link (target : String)
  | other
deriving DecidableEq, Repr

/-- What a lookup can tell of a node. -/
def Node.sight : Node → Sight
  | .directory => .directory
  | .link target => .link target
  | _ => .other

namespace FileSystem

/-- Every node is still there and looks the same to a lookup. -/
structure Preserves (fs after : FileSystem) : Prop where
  home : after.home = fs.home
  seen : ∀ place node, fs.node? place = some node →
    ∃ new, after.node? place = some new ∧ new.sight = node.sight

/-- Every node is as it was, and only directories are new. -/
structure Grows (fs after : FileSystem) : Prop where
  home : after.home = fs.home
  kept : ∀ place node, fs.node? place = some node → after.node? place = some node
  added : ∀ place, fs.node? place = none →
    after.node? place = none ∨ after.node? place = some .directory

/-! ## Walks afterwards -/

theorem Preserves.directory {fs after : FileSystem} (h : fs.Preserves after) {place : Place}
    (directory : fs.node? place = some .directory) : after.node? place = some .directory := by
  obtain ⟨new, found, same⟩ := h.seen place _ directory
  cases new with
  | directory => exact found
  | _ => cases same

theorem Preserves.link {fs after : FileSystem} (h : fs.Preserves after) {place : Place}
    {target : String} (link : fs.node? place = some (.link target)) :
    after.node? place = some (.link target) := by
  obtain ⟨new, found, same⟩ := h.seen place _ link
  cases new <;> cases same
  exact found

theorem Preserves.not_link {fs after : FileSystem} (h : fs.Preserves after) {place : Place}
    {node : Node} (found : fs.node? place = some node) (notLink : ∀ target, node ≠ .link target) :
    ∃ new, after.node? place = some new ∧ ∀ target, new ≠ .link target := by
  obtain ⟨new, stands, same⟩ := h.seen place node found
  refine ⟨new, stands, ?_⟩
  rintro target rfl
  cases node <;> cases same
  exact notLink target rfl

/-- A walk stays a walk. If it ended at a free name that is taken by now, it has become one that
finds what stands there. -/
theorem Walks.preserved {fs after : FileSystem} (h : fs.Preserves after) {purpose : Purpose}
    {links left : Nat} {here there : Place} {steps : List Step}
    (walks : Walks fs purpose links here steps left there)
    (taken : purpose = .write → ∃ node, after.node? there = some node ∧
      ∀ target, node ≠ .link target) :
    Walks after .look links here steps left there := by
  induction walks with
  | done => exact .done
  | stay directory _ ih => exact .stay (h.directory directory) (ih taken)
  | slash directory _ ih => exact .slash (h.directory directory) (ih taken)
  | up directory _ ih => exact .up (h.directory directory) (ih taken)
  | enter directory _ short found notLink _ ih =>
    obtain ⟨new, stands, notLinkNow⟩ := h.not_link found notLink
    exact .enter (h.directory directory) (by simp) short stands notLinkNow (ih taken)
  | follow directory _ short found _ ih =>
    exact .follow (h.directory directory) (by simp) short (h.link found) (ih taken)
  | free directory writing short _ =>
    -- The name was free, so that the walk now enters what was put there.
    obtain ⟨node, stands, notLink⟩ := taken writing
    exact .enter (h.directory directory) (by simp) short stands notLink .done

theorem Preserves.locate {fs after : FileSystem} (h : fs.Preserves after) {path : String}
    {place : Place} (located : fs.locate .look path = .ok place) :
    after.locate .look path = .ok place := by
  obtain ⟨accepted, left, walks⟩ := locate_eq_ok_iff.mp located
  refine locate_eq_ok_iff.mpr ⟨accepted, left, ?_⟩
  rw [h.home]
  exact walks.preserved h (fun impossible => by cases impossible)

/-- What was located to be written is found once it stands there. -/
theorem Preserves.locate_written {fs after : FileSystem} (h : fs.Preserves after) {path : String}
    {place : Place} {node : Node} (located : fs.locate .write path = .ok place)
    (stands : after.node? place = some node) (notLink : ∀ target, node ≠ .link target) :
    after.locate .look path = .ok place := by
  obtain ⟨accepted, left, walks⟩ := locate_eq_ok_iff.mp located
  refine locate_eq_ok_iff.mpr ⟨accepted, left, ?_⟩
  rw [h.home]
  exact walks.preserved h fun _ => ⟨node, stands, notLink⟩

/-! ## Growth -/

theorem Grows.refl (fs : FileSystem) : fs.Grows fs :=
  ⟨rfl, fun _ _ h => h, fun _ h => .inl h⟩

theorem Grows.trans {fs middle after : FileSystem} (h : fs.Grows middle)
    (h' : middle.Grows after) : fs.Grows after where
  home := h'.home.trans h.home
  kept place node found := h'.kept place node (h.kept place node found)
  added place missing := by
    rcases h.added place missing with still | made
    · exact h'.added place still
    · exact .inr (h'.kept place _ made)

theorem Grows.preserves {fs after : FileSystem} (h : fs.Grows after) : fs.Preserves after :=
  ⟨h.home, fun place node found => ⟨node, h.kept place node found, rfl⟩⟩

/-- Where nothing stood no link stands. -/
theorem Grows.not_link {fs after : FileSystem} (h : fs.Grows after) {place : Place}
    (missing : fs.node? place = none) (target : String) :
    after.node? place ≠ some (.link target) := by
  rcases h.added place missing with nothing | directory
  · simp [nothing]
  · simp [directory]

/-- Setting a node changes nothing, or nothing but its place. -/
theorem node?_set_cases (fs : FileSystem) (place other : Place) (node : Node) :
    (fs.set place node).node? other = fs.node? other ∨
      other = place ∧ (fs.set place node).node? other = some node := by
  by_cases same : other = place
  · subst same
    cases other with
    | nil => exact .inl rfl
    | cons name holder =>
      by_cases accepts : fs.Accepts name holder
      · exact .inr ⟨rfl, node?_set accepts⟩
      · rw [set, dif_neg accepts]
        exact .inl rfl
  · exact .inl (node?_set_of_ne same)

theorem grows_set {fs : FileSystem} {place : Place} (missing : fs.node? place = none) :
    fs.Grows (fs.set place .directory) where
  home := home_set fs place .directory
  kept other node found := by
    have ne : other ≠ place := by
      rintro rfl
      rw [missing] at found
      cases found
    rw [node?_set_of_ne ne, found]
  added other nothing := by
    rcases node?_set_cases fs place other .directory with same | ⟨-, made⟩
    · exact .inl (same.trans nothing)
    · exact .inr made

/-! ## Making directories -/

theorem addEntry_eq_ok_iff {fs after : FileSystem} {path : String} {node : Node} :
    fs.addEntry path node = .ok after ↔
      ∃ place, fs.locateEntry path = .ok (some place) ∧ fs.node? place = none ∧
        after = fs.set place node := by
  unfold addEntry
  split
  · next failed => simp [failed]
  · next noName => simp [noName]
  · next place located =>
    rw [located]
    split
    · next taken => simp [taken]
    · next missing => simp [missing, eq_comm]

theorem makeDirectory_grows {fs after : FileSystem} {path : String}
    (h : fs.makeDirectory path = .ok after) : fs.Grows after := by
  obtain ⟨place, _, missing, rfl⟩ := addEntry_eq_ok_iff.mp h
  exact grows_set missing

theorem ensureDirectory_grows (fs : FileSystem) (path : String) :
    fs.Grows (fs.ensureDirectory path).2 := by
  unfold ensureDirectory
  split
  · next made => exact makeDirectory_grows made
  · exact .refl fs

/-- Making directories only adds directories, whether it fails or not. -/
theorem ensureDirectories_grows (fs : FileSystem) (paths : List String) :
    fs.Grows (fs.ensureDirectories paths).2 := by
  induction paths with
  | nil => exact .refl fs
  | cons path above ih =>
    unfold ensureDirectories
    split
    · split
      · next made =>
        rw [made] at ih
        exact ih.trans (ensureDirectory_grows _ path)
      · exact ih
    · exact ensureDirectory_grows fs path

theorem grows_of_ensureDirectories {fs grown : FileSystem} {paths : List String}
    {result : Except Fault Unit} (made : fs.ensureDirectories paths = (result, grown)) :
    fs.Grows grown := by
  have grows := fs.ensureDirectories_grows paths
  rwa [made] at grows

theorem ensureDirectory_of_isDirectory {fs : FileSystem} {path : String}
    (h : fs.isDirectory path = true) : (fs.ensureDirectory path).1 = .ok () := by
  unfold ensureDirectory
  split
  · rfl
  · simp [h]

/-- Nothing fails where the nearest directory is there. -/
theorem ensureDirectories_of_isDirectory {fs : FileSystem} {path : String} {above : List String}
    (h : fs.isDirectory path = true) : (fs.ensureDirectories (path :: above)).1 = .ok () := by
  have done := ensureDirectory_of_isDirectory h
  unfold ensureDirectories
  split
  · next failed => rw [failed] at done; cases done
  · exact done

/-! ## Writing a file -/

/-- The place of a file to be written accepts it. -/
theorem accepts_of_locate {fs : FileSystem} {path : String} {place : Place}
    (located : fs.locate .write path = .ok place) (notDirectory : fs.node? place ≠ some .directory) :
    ∃ name holder, place = name :: holder ∧ fs.Accepts name holder := by
  obtain ⟨_, left, walks⟩ := locate_eq_ok_iff.mp located
  have startsAt := node?_start path (node?_home fs)
  rcases walks.free_or_present (by simp [startsAt]) with present | ⟨_, name, holder, rfl, directory⟩
  · cases place with
    | nil => exact absurd rfl notDirectory
    | cons name holder => exact ⟨name, holder, rfl, directory_of_node present, notDirectory⟩
  · exact ⟨name, holder, rfl, directory, notDirectory⟩

/-- What is located from a directory is no link. -/
theorem not_link_of_locate {fs : FileSystem} {purpose : Purpose} {path : String} {place : Place}
    (located : fs.locate purpose path = .ok place) :
    ∀ target, fs.node? place ≠ some (.link target) := by
  obtain ⟨_, left, walks⟩ := locate_eq_ok_iff.mp located
  have startsAt := node?_start path (node?_home fs)
  exact walks.not_link (fun target => by simp [startsAt])

/-- Writing where nothing stands, or where a file stands, is a change that no lookup is led
astray by. -/
theorem Preserves.write {fs : FileSystem} {place : Place} {bytes : ByteArray} {stamp : Nat}
    (old : ∀ node, fs.node? place = some node → node.sight = .other) :
    fs.Preserves (fs.set place (.file bytes stamp)) where
  home := home_set fs place _
  seen other node found := by
    rcases node?_set_cases fs place other (.file bytes stamp) with same | ⟨rfl, made⟩
    · exact ⟨node, same.trans found, rfl⟩
    · exact ⟨_, made, (old node found).symm⟩

/-- What is found and is no directory is located to be written as well. -/
theorem locate_write_of_look {fs : FileSystem} {path : String} {place : Place}
    (located : fs.locate .look path = .ok place) (notDirectory : fs.node? place ≠ some .directory) :
    fs.locate .write path = .ok place := by
  obtain ⟨accepted, left, walks⟩ := locate_eq_ok_iff.mp located
  exact locate_eq_ok_iff.mpr ⟨accepted, left, walks.write_of_look notDirectory⟩

end FileSystem

end BuildHeader.Files
