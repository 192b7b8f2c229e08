import BuildHeader.Command.Help
import BuildHeader.Text.Terminal

/-!
# Usage errors

What is wrong with a list of arguments, and how it is said. Arguments are quoted as a terminal shows
them.
-/

namespace BuildHeader.Command

open BuildHeader.Text

/-- Why arguments are refused.

* `unexpectedArgument`: nothing of that name is accepted there.
* `unexpectedValue`: a value is attached to an argument that takes none.
* `missingValue`: an argument has no value.
* `repeated`: an argument is given a second time.
* `missingArguments`: arguments that must be given are not.
* `unknownSubcommand`: the word chooses no subcommand.
* `missingSubcommand`: only arguments before the subcommand are given.
* `nothingGiven`: no argument is given at all. -/
inductive UsageError
  | unexpectedArgument (text : String)
  | unexpectedValue (value label : String)
  | missingValue (label : String)
  | repeated (label : String)
  | missingArguments (labels : List String)
  | unknownSubcommand (text : String)
  | missingSubcommand
  | nothingGiven
deriving DecidableEq, Repr

/-- The text of an error. Where nothing is given, it is the help of the program. -/
def UsageError.message : UsageError → String
  | unexpectedArgument text => "error: unexpected argument '" ++ Terminal.shown text ++ "' found"
  | unexpectedValue value label =>
    "error: unexpected value '" ++ Terminal.shown value ++ "' for '" ++ label ++
      "' found; no more were expected"
  | missingValue label => "error: a value is required for '" ++ label ++ "' but none was supplied"
  | repeated label => "error: the argument '" ++ label ++ "' cannot be used multiple times"
  | missingArguments labels =>
    "error: the following required arguments were not provided:" ++
      String.join (labels.map ("\n  " ++ ·))
  | unknownSubcommand text => "error: unrecognized subcommand '" ++ Terminal.shown text ++ "'"
  | missingSubcommand =>
    "error: '" ++ programName ++ "' requires a subcommand but one was not provided\n  [subcommands: "
      ++ ", ".intercalate commandWords ++ "]"
  | nothingGiven => Page.program.render

/-- The lines of an error's text up to the first empty one. -/
def UsageError.lines (e : UsageError) : List String :=
  ((e.message.toList.splitOn '\n').takeWhile (· != [])).map String.ofList

end BuildHeader.Command
