import BuildHeader.Files.Fault
import BuildHeader.Files.FileSystem
import BuildHeader.Files.Path

/-!
# Looking up a path

A lookup goes through the steps of a path from a directory, following every symbolic link it
meets. It ends at a node, or, when a file is to be written, at the free place of its last name.
-/

namespace BuildHeader.Files

/-- What a path is looked up for.

* `look`: a node that is there.
* `write`: the file to be written, which need not be there. -/
inductive Purpose
  | look
  | write
deriving DecidableEq, Repr

/-- The most bytes that a name may have. -/
def nameLimit : Nat := 255

/-- A path must have fewer bytes than this. -/
def pathLimit : Nat := 4096

/-- The most links that one lookup follows. -/
def linkLimit : Nat := 40

namespace FileSystem

/-- Where the steps of a path start: at the root, or at the directory given. -/
def start (path : String) (place : Place) : Place :=
  if isAbsolute path then [] else place

/-- Takes steps from a place and leaves every link to `follow`.

* Any step needs a directory to start from.
* A name at the end of a path to be written may be free, but no slash may follow it.
* Any other name must be there; a link is replaced by the steps of its text. -/
def walkSteps (fs : FileSystem) (purpose : Purpose)
    (follow : Place → List Step → Except Fault Place) : Place → List Step → Except Fault Place
  | here, [] => .ok here
  | here, step :: rest =>
    if !fs.isDirectoryAt here then .error .notADirectory
    else match step with
      | .stay => fs.walkSteps purpose follow here rest
      | .slash => fs.walkSteps purpose follow here rest
      | .up => fs.walkSteps purpose follow here.tail rest
      | .enter name =>
        if purpose = .write ∧ rest = [.slash] then .error .isADirectory
        else if nameLimit < name.utf8ByteSize then .error .nameTooLong
        else match fs.node? (name :: here) with
          | none =>
            if purpose = .write ∧ rest = [] then .ok (name :: here) else .error .notFound
          | some (.link target) => follow (start target here) (steps target ++ rest)
          | some _ => fs.walkSteps purpose follow (name :: here) rest

/-- Takes steps from a place and follows so many links at most. -/
def walk (fs : FileSystem) (purpose : Purpose) : Nat → Place → List Step → Except Fault Place
  | 0 => fs.walkSteps purpose fun _ _ => .error .tooManyLinks
  | links + 1 => fs.walkSteps purpose (fs.walk purpose links)

/-- Why a path is refused before its first step. -/
def refusal? (path : String) : Option Fault :=
  if path.toList.contains '\x00' then some .nulInPath
  else if path = "" then some .notFound
  else if pathLimit ≤ path.utf8ByteSize then some .nameTooLong
  else none

/-- Takes steps of a path from where it starts. -/
def walkPath (fs : FileSystem) (purpose : Purpose) (path : String) (steps : List Step) :
    Except Fault Place :=
  match refusal? path with
  | some fault => .error fault
  | none => fs.walk purpose linkLimit (start path fs.home) steps

/-- The place of a path. -/
def locate (fs : FileSystem) (purpose : Purpose) (path : String) : Except Fault Place :=
  fs.walkPath purpose path (steps path)

/-- The node of a path, with links followed. -/
def find (fs : FileSystem) (path : String) : Except Fault Node :=
  match fs.locate .look path with
  | .error fault => .error fault
  | .ok place =>
    match fs.node? place with
    | some node => .ok node
    | none => .error .notFound

/-- The path names a directory. -/
def isDirectory (fs : FileSystem) (path : String) : Bool :=
  match fs.find path with
  | .ok .directory => true
  | _ => false

end FileSystem

end BuildHeader.Files
