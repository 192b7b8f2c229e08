import BuildHeader.Literal.Encode

/-!
# Macro definitions

One `#define` line: a name, and a value that is written as a quoted literal. A definition without
a value is a flag.
-/

namespace BuildHeader.Macro

/-- A letter of ASCII or an underscore. -/
def isNameStart (c : Char) : Bool :=
  c.isAlpha || c == '_'

/-- A letter or digit of ASCII or an underscore. -/
def isNameChar (c : Char) : Bool :=
  c.isAlphanum || c == '_'

/-- The identifiers of the preprocessor: a letter or underscore, then letters, digits and
underscores. -/
def isIdentifier (name : String) : Bool :=
  match name.toList with
  | [] => false
  | first :: rest => isNameStart first && rest.all isNameChar

/-- A macro and its value, not yet quoted. A flag has none. -/
structure Definition where
  name : String
  value : Option String
deriving DecidableEq, Repr

/-- The directive of a definition, without the end of its line. -/
def Definition.render (d : Definition) : String :=
  match d.value with
  | some value => "#define " ++ d.name ++ " " ++ Literal.quote value
  | none => "#define " ++ d.name

end BuildHeader.Macro
