import BuildHeader.Files.Lookup

/-!
# Making directories and writing files

The operations that change a file system, and the two views of a change: the nodes below the
starting directory, and the files that were written.
-/

namespace BuildHeader.Files

namespace FileSystem

/-! ## Entries -/

/-- The place of the last name of a path in the directory that holds it. The name may be free, and
a link in its place is not followed. A path that ends in dots or at the root has no last name. -/
def locateEntry (fs : FileSystem) (path : String) : Except Fault (Option Place) :=
  match fs.walkPath .look path ((nameSteps path).dropLast ++ [.slash]) with
  | .error fault => .error fault
  | .ok holder =>
    match (nameSteps path).getLast? with
    | some (.enter name) =>
      if nameLimit < name.utf8ByteSize then .error .nameTooLong else .ok (some (name :: holder))
    | _ => .ok none

/-- Adds a node under the last name of a path, which must be free. -/
def addEntry (fs : FileSystem) (path : String) (node : Node) : Except Fault FileSystem :=
  match fs.locateEntry path with
  | .error fault => .error fault
  | .ok none => .error .alreadyExists
  | .ok (some place) =>
    match fs.node? place with
    | some _ => .error .alreadyExists
    | none => .ok (fs.set place node)

/-- Makes a symbolic link with that text. -/
def makeLink (fs : FileSystem) (path target : String) : Except Fault FileSystem :=
  fs.addEntry path (.link target)

/-- Removes what the path names: a file, a link, or a directory with all below it. -/
def removeEntry (fs : FileSystem) (path : String) : Except Fault FileSystem :=
  match fs.locateEntry path with
  | .error fault => .error fault
  | .ok none => .ok fs
  | .ok (some place) => .ok (fs.remove place)

/-! ## Directories -/

/-- Makes the directory of a path, whose own name must be free. A link in its place counts as
taken, wherever it leads. -/
def makeDirectory (fs : FileSystem) (path : String) : Except Fault FileSystem :=
  fs.addEntry path .directory

/-- Makes the directory of a path unless it is there. -/
def ensureDirectory (fs : FileSystem) (path : String) : Except Fault Unit × FileSystem :=
  match fs.makeDirectory path with
  | .ok fs => (.ok (), fs)
  | .error fault => (if fs.isDirectory path then .ok () else .error fault, fs)

/-- Makes a directory and those above it that are missing. They are given with the nearest
first, and made with the nearest last. The ones made before a failure stay. -/
def ensureDirectories (fs : FileSystem) : List String → Except Fault Unit × FileSystem
  | [] => (.ok (), fs)
  | path :: above =>
    match fs.ensureDirectory path with
    | (.error .notFound, _) =>
      match fs.ensureDirectories above with
      | (.ok (), fs) => fs.ensureDirectory path
      | failed => failed
    | done => done

/-! ## Files -/

/-- Writes a file: a new one, or new bytes for one that is there. What is written to a node
without bytes of its own is lost. -/
def writeFile (fs : FileSystem) (path : String) (bytes : ByteArray) : Except Fault FileSystem :=
  match fs.locate .write path with
  | .error fault => .error fault
  | .ok place =>
    match fs.node? place with
    | none => .ok (fs.set place (.file bytes 0))
    | some (.file _ stamp) => .ok (fs.set place (.file bytes (stamp + 1)))
    | some .directory => .error .isADirectory
    | some _ => .ok fs

/-! ## Views -/

/-- The path of a place below the starting directory, relative to it. -/
def relativePath? (fs : FileSystem) (place : Place) : Option String :=
  if fs.home <:+ place ∧ place ≠ fs.home then
    some ("/".intercalate (place.take (place.length - fs.home.length)).reverse)
  else none

/-- The nodes below the starting directory with their paths, in the order of the paths. -/
def contents (fs : FileSystem) : List (String × Node) :=
  (fs.table.filterMap fun (place, node) => (fs.relativePath? place).map (·, node)).mergeSort
    fun a b => decide (a.1 ≤ b.1)

/-- The file of a place was not there before, or was rewritten since. -/
def isWrittenSince (fs before : FileSystem) (place : Place) : Bool :=
  match fs.node? place with
  | some (.file _ stamp) =>
    match before.node? place with
    | some (.file _ old) => old != stamp
    | _ => true
  | _ => false

/-- The places of the files written since. -/
def writtenSince (fs before : FileSystem) : List Place :=
  (fs.table.map (·.1)).filter (fs.isWrittenSince before)

end FileSystem

end BuildHeader.Files
