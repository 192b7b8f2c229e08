/-!
# The arguments of the command line

The subcommands, what each of them accepts, and how every argument is written, shown in messages
and described in help.
-/

namespace BuildHeader.Command

/-! ## Options with a value -/

/-- The options that take a value. -/
inductive ValueOption
  | fileName
  | version
  | revision
  | libraryVersion
  | releaseDate
  | hijriReleaseDate
  | compiler
  | buildType
  | systemName
  | processor
  | binaries
  | libraries
  | headers
deriving DecidableEq, Repr

namespace ValueOption

/-- The name of an option, written after two dashes. -/
def long : ValueOption → String
  | fileName => "file-name"
  | version => "version"
  | revision => "revision"
  | libraryVersion => "shlib-version"
  | releaseDate => "release-date"
  | hijriReleaseDate => "hijri-release-date"
  | compiler => "compiler"
  | buildType => "build-type"
  | systemName => "system-name"
  | processor => "system-processor"
  | binaries => "bin-dir-name"
  | libraries => "lib-dir-name"
  | headers => "include-dir-name"

/-- The value of an option that is not given. An option without one must be given. -/
def standard? : ValueOption → Option String
  | fileName => some "AlususDefs.h"
  | binaries => some "bin"
  | libraries => some "lib"
  | headers => some "include"
  | _ => none

/-- What an option is for. -/
def purpose : ValueOption → String
  | fileName => "Header file name inside OUT_DIR"
  | version => "Release version string"
  | revision => "Source revision appended to the version"
  | libraryVersion => "Shared library ABI version"
  | releaseDate => "Gregorian release date"
  | hijriReleaseDate => "Hijri release date"
  | compiler => "C++ compiler identifier"
  | buildType => "Build type (Debug enables ALUSUS_USE_LOGS)"
  | systemName => "Target operating system name"
  | processor => "Target processor architecture"
  | binaries => "Name of the binaries directory"
  | libraries => "Name of the libraries directory"
  | headers => "Name of the headers directory"

/-- The option and a stand-in for its value: its name in capital letters. -/
def label (o : ValueOption) : String :=
  "--" ++ o.long ++ " <" ++ String.ofList (o.long.toList.map fun c =>
    if c = '-' then '_' else c.toUpper) ++ ">"

end ValueOption

/-! ## Options -/

/-- Everything that is written with dashes.

* `value`: an option with a value, given once at most.
* `verbose`: asks for more output each time.
* `dryRun`: prints the header instead of writing it; given once at most.
* `help`: prints help and does nothing else. -/
inductive Argument
  | value (o : ValueOption)
  | verbose
  | dryRun
  | help
deriving DecidableEq, Repr

namespace Argument

/-- The name written after two dashes. -/
def long : Argument → String
  | value o => o.long
  | verbose => "verbose"
  | dryRun => "dry-run"
  | help => "help"

/-- The letter written after one dash. -/
def short? : Argument → Option Char
  | verbose => some 'v'
  | help => some 'h'
  | _ => none

/-- The argument as messages show it. -/
def label : Argument → String
  | value o => o.label
  | verbose => "--verbose..."
  | dryRun => "--dry-run"
  | help => "--help"

/-- What an argument is for, with the value that it has when it is not given. -/
def description : Argument → String
  | value o =>
    match o.standard? with
    | some standard => o.purpose ++ " [default: " ++ standard ++ "]"
    | none => o.purpose
  | verbose => "Increase log verbosity (-v info, -vv debug, -vvv trace)"
  | dryRun => "Print the header to stdout instead of writing it"
  | help => "Print help"

end Argument

/-- The output directory, the only argument without dashes, as messages show it. -/
def directoryLabel : String := "<OUT_DIR>"

/-! ## Subcommands -/

/-- The name of the program. -/
def programName : String := "alusus-defs-gen"

/-- The two kinds of header. -/
inductive Subcommand
  | dirs
  | full
deriving DecidableEq, Repr

namespace Subcommand

/-- The word that chooses a subcommand. -/
def word : Subcommand → String
  | dirs => "dirs"
  | full => "full"

/-- What a subcommand does. -/
def description : Subcommand → String
  | dirs => "Emit only the installation directory name macros"
  | full => "Emit version, toolchain, platform, and directory name macros"

/-- The options with a value that describe the header's subject. -/
def subjectOptions : Subcommand → List ValueOption
  | dirs => [.binaries, .libraries, .headers]
  | full =>
    [.version, .revision, .libraryVersion, .releaseDate, .hijriReleaseDate, .compiler,
      .buildType, .systemName, .processor, .binaries, .libraries, .headers]

/-- What a subcommand accepts, in the order of its help. -/
def arguments (s : Subcommand) : List Argument :=
  [.value .fileName, .verbose, .dryRun] ++ s.subjectOptions.map .value ++ [.help]

/-- The options that must be given, in the order in which messages name them. -/
def required (s : Subcommand) : List ValueOption :=
  s.subjectOptions.filter (·.standard?.isNone)

/-- The subcommand of a word. -/
def ofWord? (word : String) : Option Subcommand :=
  [dirs, full].find? (·.word == word)

end Subcommand

/-- What is accepted before the subcommand. -/
def programArguments : List Argument :=
  [.verbose, .help]

/-- The words that can stand in the place of the subcommand. -/
def commandWords : List String :=
  ["dirs", "full", "help"]

end BuildHeader.Command
