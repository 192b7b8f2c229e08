import BuildHeader.Command.Arguments

/-!
# Help pages

A page has a description, a line of usage, and sections of rows, each a term and what it means.
The meanings stand in a column beside the terms unless the terms are wide and a meaning does not
fit beside them: then every meaning of the section stands on a line of its own.
-/

namespace BuildHeader.Command

/-! ## Layout -/

/-- The width of a page in columns. -/
def pageWidth : Nat := 100

/-- The most columns that terms may take with meanings of any length beside them. -/
def narrowWidth : Nat := 40

/-- A term and what it means. -/
structure Row where
  term : String
  meaning : String
deriving DecidableEq, Repr

/-- So many spaces. -/
def spaces (count : Nat) : String :=
  String.ofList (List.replicate count ' ')

/-- The columns that the longest term takes, with the gaps beside it. -/
def termWidth (rows : List Row) : Nat :=
  (rows.map (·.term.length)).foldr max 0 + 4

/-- The meanings do not fit beside the terms. -/
def isStacked (rows : List Row) : Bool :=
  narrowWidth < termWidth rows && rows.any fun row => pageWidth < termWidth rows + row.meaning.length

/-- The text of a row in a section of that width, or with its meaning below it. -/
def Row.render (stacked : Bool) (width : Nat) (row : Row) : String :=
  if stacked then "  " ++ row.term ++ "\n" ++ spaces 10 ++ row.meaning ++ "\n"
  else "  " ++ row.term ++ spaces (width - 2 - row.term.length) ++ row.meaning ++ "\n"

/-- A titled list of rows. -/
structure Section where
  title : String
  rows : List Row
deriving DecidableEq, Repr

/-- The text of a section, after an empty line. -/
def Section.render (s : Section) : String :=
  "\n" ++ s.title ++ ":\n" ++
    String.join (s.rows.map (Row.render (isStacked s.rows) (termWidth s.rows)))

/-! ## Pages -/

/-- What help can be asked about.

* `program`: the command line as a whole.
* `subcommand`: one of the two kinds of header.
* `help`: asking for help. -/
inductive Page
  | program
  | subcommand (s : Subcommand)
  | help
deriving DecidableEq, Repr

/-- The row of an argument; the letter after one dash has a column of its own. -/
def Argument.row (a : Argument) : Row :=
  let letter := match a.short? with
    | some c => "-" ++ c.toString ++ ", "
    | none => spaces 4
  ⟨letter ++ a.label, a.description⟩

namespace Page

/-- What the page is about. -/
def description : Page → String
  | program => "Generate the AlususDefs.h preprocessor header"
  | subcommand s => s.description
  | help => "Print this message or the help of the given subcommand(s)"

/-- The words of the usage line after the program's name. -/
def usage : Page → List String
  | program => ["[OPTIONS]", "<COMMAND>"]
  | subcommand s =>
    [s.word, "[OPTIONS]"] ++ s.required.map ValueOption.label ++ [directoryLabel]
  | help => ["help", "[COMMAND]..."]

/-- The sections of a page. -/
def sections : Page → List Section
  | program =>
    [⟨"Commands", [⟨"dirs", Subcommand.dirs.description⟩, ⟨"full", Subcommand.full.description⟩,
        ⟨"help", help.description⟩]⟩,
      ⟨"Options", programArguments.map Argument.row⟩]
  | subcommand s =>
    [⟨"Arguments", [⟨directoryLabel, "Directory to write the header into (created if missing)"⟩]⟩,
      ⟨"Options", s.arguments.map Argument.row⟩]
  | help => [⟨"Arguments", [⟨"[COMMAND]...", "Print help for the subcommand(s)"⟩]⟩]

/-- The text of a page. -/
def render (page : Page) : String :=
  page.description ++ "\n\nUsage: " ++ " ".intercalate (programName :: page.usage) ++ "\n" ++
    String.join (page.sections.map Section.render)

end Page

end BuildHeader.Command
