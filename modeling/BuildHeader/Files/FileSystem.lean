/-!
# File systems

A file system is a table of nodes by their place below the root. Every node but the root stands
in a directory, which the type guarantees. A file carries a stamp that every rewriting raises, so
that a file is known to be rewritten even when its bytes stay the same.

The places form a tree, and every regular file has one place and so one name only: there are no
hard links, by which one file would be found at several places, and a link is always a symbolic one.
That a file is written without a change at any other place rests on this.

Results:
1. `node?_set` and `node?_set_of_ne`: setting a node changes that place and no other.
2. `directory_of_node`: what holds a node is a directory.
-/

namespace BuildHeader.Files

/-! ## Definitions -/

/-- A place is the list of names from the node up to the root, the node's own name first. The
root is the empty list. -/
abbrev Place := List String

/-- Bytes are compared as the core library compares them, whatever else is imported. -/
instance decidableEqBytes : DecidableEq ByteArray :=
  ByteArray.instDecidableEq

/-- What can stand at a place.

* `directory`: a directory; its contents are the nodes one name below it.
* `file`: a regular file, its bytes and how often it was rewritten.
* `link`: a symbolic link and its text.
* `device`: something else that exists, with no bytes of its own.
* `unreadable`: a regular file whose bytes cannot be read. -/
inductive Node
  | directory
  | file (bytes : ByteArray) (stamp : Nat)
  | link (target : String)
  | device
  | unreadable
deriving DecidableEq

/-- The table with its node at a place replaced, or added. -/
def replace (table : List (Place × Node)) (place : Place) (node : Node) : List (Place × Node) :=
  (place, node) :: table.filter (·.1 != place)

/-- The place is the root, or a directory of the table. -/
def IsDirectoryIn (table : List (Place × Node)) (place : Place) : Prop :=
  place = [] ∨ table.lookup place = some .directory

/-- Nodes below the root, and the place where relative paths start.

* `grounded`: what holds a node is a directory.
* `home_directory`: relative paths start at a directory. -/
structure FileSystem where
  table : List (Place × Node)
  home : Place
  grounded : ∀ name place, table.lookup (name :: place) ≠ none → IsDirectoryIn table place
  home_directory : IsDirectoryIn table home

namespace FileSystem

/-- The file system of an empty root, where relative paths start at the root. -/
def empty : FileSystem where
  table := []
  home := []
  grounded := by simp
  home_directory := .inl rfl

/-- The node at a place. The root is always a directory. -/
def node? (fs : FileSystem) : Place → Option Node
  | [] => some .directory
  | name :: place => fs.table.lookup (name :: place)

/-- A directory stands at the place. -/
def isDirectoryAt (fs : FileSystem) (place : Place) : Bool :=
  fs.node? place == some .directory

end FileSystem

/-! ## Lookup in tables -/

theorem lookup_cons_of_ne {table : List (Place × Node)} {place other : Place} {node : Node}
    (h : other ≠ place) : List.lookup other ((place, node) :: table) = table.lookup other := by
  rw [List.lookup_cons, beq_false_of_ne h]

theorem lookup_filter_of_keep {table : List (Place × Node)} (keep : Place → Bool) {place : Place}
    (h : keep place = true) : (table.filter (keep ·.1)).lookup place = table.lookup place := by
  induction table with
  | nil => rfl
  | cons entry rest ih =>
    obtain ⟨key, node⟩ := entry
    by_cases same : place = key
    · subst same
      simp [h]
    · cases kept : keep key <;> simp [kept, lookup_cons_of_ne same, ih]

theorem lookup_filter_eq_none {table : List (Place × Node)} (keep : Place → Bool) {place : Place}
    (h : keep place = false) : (table.filter (keep ·.1)).lookup place = none := by
  induction table with
  | nil => rfl
  | cons entry rest ih =>
    obtain ⟨key, node⟩ := entry
    by_cases same : place = key
    · subst same
      simpa [h] using ih
    · cases kept : keep key <;> simp [kept, lookup_cons_of_ne same, ih]

@[simp] theorem lookup_replace {table : List (Place × Node)} {place : Place} {node : Node} :
    (replace table place node).lookup place = some node := by
  simp [replace]

theorem lookup_replace_of_ne {table : List (Place × Node)} {place other : Place} {node : Node}
    (h : other ≠ place) : (replace table place node).lookup other = table.lookup other := by
  rw [replace, lookup_cons_of_ne h, lookup_filter_of_keep (· != place) (by simpa using h)]

theorem isDirectoryIn_replace {table : List (Place × Node)} {place other : Place} {node : Node}
    (notDirectory : table.lookup place ≠ some .directory) (h : IsDirectoryIn table other) :
    IsDirectoryIn (replace table place node) other := by
  rcases h with rfl | h
  · exact .inl rfl
  · have ne : other ≠ place := fun same => notDirectory (same ▸ h)
    exact .inr (by rw [lookup_replace_of_ne ne, h])

/-! ## Changing a file system -/

namespace FileSystem

theorem isDirectoryIn_iff {fs : FileSystem} {place : Place} :
    IsDirectoryIn fs.table place ↔ fs.node? place = some .directory := by
  cases place <;> simp [IsDirectoryIn, node?]

/-- A node can be set where a directory holds it, and where no directory would be lost. -/
def Accepts (fs : FileSystem) (name : String) (place : Place) : Prop :=
  fs.node? place = some .directory ∧ fs.node? (name :: place) ≠ some .directory

instance (fs : FileSystem) (name : String) (place : Place) : Decidable (fs.Accepts name place) :=
  inferInstanceAs (Decidable (_ ∧ _))

/-- Sets the node of a name in a directory. -/
def setIn (fs : FileSystem) (name : String) (place : Place) (node : Node)
    (accepts : fs.Accepts name place) : FileSystem where
  table := replace fs.table (name :: place) node
  home := fs.home
  grounded := by
    intro other above present
    by_cases same : other :: above = name :: place
    · obtain ⟨rfl, rfl⟩ := List.cons.inj same
      exact isDirectoryIn_replace accepts.2 (isDirectoryIn_iff.mpr accepts.1)
    · rw [lookup_replace_of_ne same] at present
      exact isDirectoryIn_replace accepts.2 (fs.grounded other above present)
  home_directory := isDirectoryIn_replace accepts.2 fs.home_directory

/-- Sets the node at a place. Nothing is done where a directory stands, or where no directory
would hold the node. -/
def set (fs : FileSystem) (place : Place) (node : Node) : FileSystem :=
  match place with
  | [] => fs
  | name :: place => if accepts : fs.Accepts name place then fs.setIn name place node accepts else fs

/-- Removes the node at a place and all below it. The directories that hold the starting place
of relative paths are not removed. -/
def remove (fs : FileSystem) (place : Place) : FileSystem :=
  if holdsHome : place <:+ fs.home then fs
  else
    { table := fs.table.filter fun entry => !decide (place <:+ entry.1)
      home := fs.home
      grounded := by
        intro name above present
        have kept : (!decide (place <:+ name :: above)) = true := by
          cases h : (!decide (place <:+ name :: above)) with
          | true => rfl
          | false => exact absurd (lookup_filter_eq_none (fun p => !decide (place <:+ p)) h) present
        have aboveKept : (!decide (place <:+ above)) = true := by
          simp only [Bool.not_eq_true', decide_eq_false_iff_not] at kept ⊢
          exact fun below => kept (below.trans (List.suffix_cons name above))
        rw [lookup_filter_of_keep (fun p => !decide (place <:+ p)) kept] at present
        rcases fs.grounded name above present with rfl | directory
        · exact .inl rfl
        · refine .inr ?_
          rw [lookup_filter_of_keep (fun p => !decide (place <:+ p)) aboveKept, directory]
      home_directory := by
        have kept : (!decide (place <:+ fs.home)) = true := by simp [holdsHome]
        rcases fs.home_directory with root | directory
        · exact .inl root
        · refine .inr ?_
          rw [lookup_filter_of_keep (fun p => !decide (place <:+ p)) kept, directory] }

/-- Starts relative paths at a directory. Nothing is done where no directory stands. -/
def enter (fs : FileSystem) (place : Place) : FileSystem :=
  if directory : fs.node? place = some .directory then
    { fs with home := place, home_directory := isDirectoryIn_iff.mpr directory }
  else fs

/-! ## Lemmas -/

/-- What holds a node is a directory. -/
theorem directory_of_node {fs : FileSystem} {name : String} {place : Place}
    (h : fs.node? (name :: place) ≠ none) : fs.node? place = some .directory :=
  isDirectoryIn_iff.mp (fs.grounded name place h)

@[simp] theorem home_set (fs : FileSystem) (place : Place) (node : Node) :
    (fs.set place node).home = fs.home := by
  unfold set
  split
  · rfl
  · split <;> rfl

/-- A node that is accepted stands at its place afterwards. -/
theorem node?_set {fs : FileSystem} {name : String} {place : Place} {node : Node}
    (accepts : fs.Accepts name place) :
    (fs.set (name :: place) node).node? (name :: place) = some node := by
  simp [set, accepts, setIn, node?]

/-- Setting a node changes no other place. -/
theorem node?_set_of_ne {fs : FileSystem} {place other : Place} {node : Node}
    (h : other ≠ place) : (fs.set place node).node? other = fs.node? other := by
  unfold set
  split
  · rfl
  · split
    · cases other with
      | nil => rfl
      | cons name above => exact lookup_replace_of_ne h
    · rfl

end FileSystem

end BuildHeader.Files
