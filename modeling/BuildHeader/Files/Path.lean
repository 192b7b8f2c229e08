/-!
# Path texts

A path is a text cut at its slashes. Read for a lookup it is a list of steps; read for the
directories to be made it is a list of ever shorter texts, each without its last name.
-/

namespace BuildHeader.Files

/-! ## Segments -/

/-- The pieces of a path between its slashes: one more than it has slashes. -/
def segments (path : String) : List String :=
  (path.toList.splitOn '/').map String.ofList

/-- The path starts at the root. -/
def isAbsolute (path : String) : Bool :=
  path.toList.head? == some '/'

/-- The last character of the path is a slash. -/
def endsInSlash (path : String) : Bool :=
  path.toList.getLast? == some '/'

/-! ## Steps -/

/-- What a segment asks of a lookup.

* `stay`: a dot; the node so far must be a directory.
* `up`: two dots; the directory above.
* `slash`: the slash at the end of a path; the node so far must be a directory.
* `enter`: the node of that name in the directory so far. -/
inductive Step
  | stay
  | up
  | slash
  | enter (name : String)
deriving DecidableEq, Repr

/-- The step of a segment; an empty one asks nothing. -/
def Step.ofSegment? (segment : String) : Option Step :=
  if segment = "" then none
  else if segment = "." then some .stay
  else if segment = ".." then some .up
  else some (.enter segment)

/-- The steps of a path but for the slash at its end. -/
def nameSteps (path : String) : List Step :=
  (segments path).filterMap Step.ofSegment?

/-- The steps of a path. -/
def steps (path : String) : List Step :=
  if endsInSlash path then nameSteps path ++ [.slash] else nameSteps path

/-! ## Directories above a path -/

/-- A segment that counts for nothing at the end of a path. -/
def isIdle (segment : String) : Bool :=
  segment == "" || segment == "."

/-- The beginnings of a list of segments that end in a name, the longest first. The list and
its beginnings are given backwards. -/
def namedBeginnings : List String → List (List String)
  | [] => []
  | segment :: rest =>
    if isIdle segment then namedBeginnings rest
    else (segment :: rest) :: namedBeginnings rest

/-- The start of a path that is not cut away with its names, and the segments after it. -/
def splitLead : List String → String × List String
  | "" :: rest => ("/", rest)
  | "." :: rest => ("./", rest)
  | all => ("", all)

/-- The directories above a path, the nearest first, up to the root or the working directory,
which are left out. Each is the text of the one before without its last name. -/
def directoriesAbove (path : String) : List String :=
  let (lead, body) := splitLead (segments path)
  (namedBeginnings body.reverse).tail.map fun names => lead ++ "/".intercalate names.reverse

/-- The path of a name in a directory. An absolute name stands for itself. -/
def joinPath (directory name : String) : String :=
  if isAbsolute name then name
  else if directory = "" || endsInSlash directory then directory ++ name
  else directory ++ "/" ++ name

/-! ## Examples -/

example : segments "a//b/" = ["a", "", "b", ""] := by decide
example : steps "./a/../b/" = [.stay, .enter "a", .up, .enter "b", .slash] := by decide
example : directoriesAbove "a//b/./c" = ["a//b", "a"] := by decide
example : directoriesAbove "/a/../f/." = ["/a/..", "/a"] := by decide
example : directoriesAbove "./a/f" = ["./a"] := by decide
example : joinPath "o" "" = "o/" := by decide

end BuildHeader.Files
