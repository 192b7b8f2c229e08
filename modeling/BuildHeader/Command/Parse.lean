import BuildHeader.Command.Usage
import BuildHeader.Profile

/-!
# Reading the command line

Arguments are read from left to right, and the first thing that cannot stand decides. A value
that is a word of its own is taken in only when the next argument is accepted, or at the end:
until then neither its emptiness nor a repetition is a fault.
-/

namespace BuildHeader.Command

open BuildHeader.Profile

/-! ## Words -/

/-- How a word is to be read.

* `escape`: two dashes; all words after them are read as they are.
* `long`: two dashes and a name, perhaps with a value after an equals sign.
* `letters`: one dash and letters.
* `plain`: anything else, a single dash included. -/
inductive Word
  | escape
  | long (name : String) (attached : Option String)
  | letters (letters : List Char)
  | plain
deriving DecidableEq, Repr

/-- The reading of a word's characters. -/
def Word.ofChars : List Char → Word
  | ['-', '-'] => .escape
  | '-' :: '-' :: rest =>
    let attached := match rest.dropWhile (· != '=') with
      | _ :: value => some (String.ofList value)
      | [] => none
    .long (String.ofList (rest.takeWhile (· != '='))) attached
  | '-' :: first :: rest => .letters (first :: rest)
  | _ => .plain

/-! ## The arguments of a subcommand -/

/-- What the arguments read so far say. -/
structure Given where
  values : List (ValueOption × String) := []
  directory : Option String := none
  dryRun : Bool := false
  verbosity : Nat := 0
deriving DecidableEq, Repr

/-- What is read but not yet taken in.

* `nothing`: no value.
* `awaited`: an option that still has to get its value.
* `value`: an option and its value.
* `directory`: the output directory. -/
inductive Pending
  | nothing
  | awaited (o : ValueOption)
  | value (o : ValueOption) (text : String)
  | directory (text : String)
deriving DecidableEq, Repr

/-- A reader between two words. After the escape every word is `verbatim`. -/
structure Reader where
  given : Given := {}
  pending : Pending := .nothing
  verbatim : Bool := false
deriving DecidableEq, Repr

/-- Why reading ends before the last word: help is asked for, or a word cannot stand. -/
inductive Stop
  | help (page : Page)
  | usage (error : UsageError)
deriving DecidableEq, Repr

namespace Given

/-- Takes in the value of an option, which must not have one yet. -/
def addValue (g : Given) (o : ValueOption) (text : String) : Except Stop Given :=
  if (g.values.lookup o).isSome then .error (.usage (.repeated o.label))
  else .ok { g with values := (o, text) :: g.values }

/-- Takes in the output directory, which must not be empty. -/
def addDirectory (g : Given) (text : String) : Except Stop Given :=
  if text = "" then .error (.usage (.missingValue directoryLabel))
  else .ok { g with directory := some text }

/-- The value of an option: the one given, or else its own. -/
def value (g : Given) (o : ValueOption) : String :=
  ((g.values.lookup o).or o.standard?).getD ""

end Given

namespace Reader

/-- The output directory is read, taken in or not. -/
def hasDirectory (r : Reader) : Bool :=
  match r.pending with
  | .directory _ => true
  | _ => r.given.directory.isSome

/-- Takes in what is pending. -/
def settle (r : Reader) : Except Stop Given :=
  match r.pending with
  | .nothing => .ok r.given
  | .awaited o => .error (.usage (.missingValue o.label))
  | .value o text => r.given.addValue o text
  | .directory text => r.given.addDirectory text

/-- Settles, and goes on with what is given then. -/
def advance (r : Reader) (next : Given → Except Stop Given) : Except Stop Reader := do
  let given ← next (← r.settle)
  return { r with given, pending := .nothing }

/-- Reads an argument that takes no value. -/
def readSwitch (s : Subcommand) (r : Reader) : Argument → Except Stop Reader
  | .verbose => r.advance fun g => .ok { g with verbosity := g.verbosity + 1 }
  | .dryRun => r.advance fun g =>
    if g.dryRun then .error (.usage (.repeated Argument.dryRun.label))
    else .ok { g with dryRun := true }
  | .help => r.advance fun _ => .error (.help (.subcommand s))
  | .value o => do return { (← r.advance .ok) with pending := .awaited o }

/-- Reads a name after two dashes. -/
def readLong (s : Subcommand) (r : Reader) (name : String) (attached : Option String) :
    Except Stop Reader :=
  match s.arguments.find? (·.long == name), attached with
  | none, _ => .error (.usage (.unexpectedArgument ("--" ++ name)))
  | some (.value o), some text => r.advance (·.addValue o text)
  | some a, some text => .error (.usage (.unexpectedValue text a.label))
  | some a, none => r.readSwitch s a

/-- Reads letters after one dash. -/
def readLetters (s : Subcommand) (r : Reader) : List Char → Except Stop Reader
  | [] => .ok r
  | c :: rest =>
    match s.arguments.find? (·.short? == some c) with
    | none => .error (.usage (.unexpectedArgument ("-" ++ c.toString)))
    | some a => do readLetters s (← r.readSwitch s a) rest

/-- Reads a word as the output directory. -/
def readDirectory (r : Reader) (text : String) : Except Stop Reader :=
  if r.hasDirectory then .error (.usage (.unexpectedArgument text))
  else do return { (← r.advance .ok) with pending := .directory text }

/-- Reads a word without dashes: the value awaited, or else the output directory. -/
def readPlain (r : Reader) (text : String) : Except Stop Reader :=
  match r.pending with
  | .awaited o => .ok { r with pending := .value o text }
  | _ => r.readDirectory text

/-- Reads the next word. -/
def read (s : Subcommand) (r : Reader) (text : String) : Except Stop Reader :=
  if r.verbatim then r.readDirectory text
  else match Word.ofChars text.toList with
    | .escape => .ok { r with verbatim := true }
    | .long name attached => r.readLong s name attached
    | .letters letters => r.readLetters s letters
    | .plain => r.readPlain text

end Reader

/-- What must be given and is not, as messages show it. -/
def Given.missing (s : Subcommand) (g : Given) : List String :=
  ((s.required.filter fun o => (g.values.lookup o).isNone).map ValueOption.label) ++
    if g.directory.isNone then [directoryLabel] else []

/-- Reads all words after the subcommand. -/
def readArguments (s : Subcommand) (words : List String) : Except Stop Given := do
  let r ← words.foldlM (Reader.read s) {}
  let given ← r.settle
  match given.missing s with
  | [] => return given
  | labels => .error (.usage (.missingArguments labels))

/-! ## Invocations -/

/-- What the program is asked to do. -/
structure Invocation where
  subject : Subject
  directory : String
  fileName : String
  dryRun : Bool
  verbosity : Nat
deriving DecidableEq, Repr

/-- The directory names that are given. -/
def Given.directoryNames (g : Given) : DirectoryNames :=
  ⟨g.value .binaries, g.value .libraries, g.value .headers⟩

/-- The subject of a subcommand. -/
def Given.subject (g : Given) : Subcommand → Subject
  | .dirs => .directories g.directoryNames
  | .full => .build
    { version := g.value .version
      revision := g.value .revision
      libraryVersion := g.value .libraryVersion
      releaseDate := g.value .releaseDate
      hijriReleaseDate := g.value .hijriReleaseDate
      compiler := g.value .compiler
      buildType := g.value .buildType
      systemName := g.value .systemName
      processor := g.value .processor
      directories := g.directoryNames }

/-- The invocation of a subcommand. How much output is asked for after its word counts, or else
how much is asked for before it. -/
def Given.invocation (g : Given) (s : Subcommand) (verbosityBefore : Nat) : Invocation where
  subject := g.subject s
  directory := g.directory.getD ""
  fileName := g.value .fileName
  dryRun := g.dryRun
  verbosity := if g.verbosity = 0 then verbosityBefore else g.verbosity

/-! ## The command line as a whole -/

/-- The page that is asked for by the words after `help`. Only the program has subcommands. -/
def readHelp : List String → Stop
  | [] => .help .program
  | word :: rest =>
    let page? := match Subcommand.ofWord? word with
      | some s => some (Page.subcommand s)
      | none => if word = "help" then some .help else none
    match page?, rest with
    | none, _ => .usage (.unknownSubcommand word)
    | some page, [] => .help page
    | some _, extra :: _ => .usage (.unknownSubcommand extra)

/-- Reads the letters after one dash before the subcommand, and counts what they ask for. -/
def readProgramLetters (verbosity : Nat) : List Char → Except Stop Nat
  | [] => .ok verbosity
  | c :: rest =>
    match programArguments.find? (·.short? == some c) with
    | none => .error (.usage (.unexpectedArgument ("-" ++ c.toString)))
    | some .help => .error (.help .program)
    | some _ => readProgramLetters (verbosity + 1) rest

/-- Reads a name after two dashes before the subcommand. -/
def readProgramLong (verbosity : Nat) (name : String) (attached : Option String) :
    Except Stop Nat :=
  match programArguments.find? (·.long == name), attached with
  | none, _ => .error (.usage (.unexpectedArgument ("--" ++ name)))
  | some a, some text => .error (.usage (.unexpectedValue text a.label))
  | some .help, none => .error (.help .program)
  | some _, none => .ok (verbosity + 1)

/-- Reads all words. After the escape no word chooses a subcommand. -/
def readWords (verbosity : Nat) : List String → Except Stop Invocation
  | [] => .error (.usage (if verbosity = 0 then .nothingGiven else .missingSubcommand))
  | text :: rest =>
    match Subcommand.ofWord? text with
    | some s => do return (← readArguments s rest).invocation s verbosity
    | none =>
      if text = "help" then .error (readHelp rest)
      else match Word.ofChars text.toList with
        | .escape =>
          match rest with
          | [] => readWords verbosity []
          | next :: _ =>
            if next ∈ commandWords then .error (.usage (.unexpectedArgument next))
            else .error (.usage (.unknownSubcommand next))
        | .long name attached => do readWords (← readProgramLong verbosity name attached) rest
        | .letters letters => do readWords (← readProgramLetters verbosity letters) rest
        | .plain => .error (.usage (.unknownSubcommand text))

/-- Reads a command line. -/
def parse (words : List String) : Except Stop Invocation :=
  readWords 0 words

end BuildHeader.Command
