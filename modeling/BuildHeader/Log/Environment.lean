import BuildHeader.Log.Directive

/-!
# Log rules of the environment

A text in the environment lists directives, which commas divide. Malformed ones are left out. Where
none is well formed, there is one rule for all events, whose level the command line gives.
-/

namespace BuildHeader.Log

/-! ## Definitions -/

/-- The well-formed directives of a list of texts; none if one of them is torn. -/
def readDirectives? : List (List Char) → Option (List Directive)
  | [] => some []
  | text :: rest =>
    match readDirective text with
    | .ok directive => (readDirectives? rest).map (directive :: ·)
    | .error .malformed => readDirectives? rest
    | .error .torn => none

/-- The rule of a directive about events. -/
def Directive.rule? : Directive → Option Rule
  | events rule => some rule
  | spans => none

/-- The rules in force: those of the environment's text if it holds a well-formed directive, or else
one for all events. None if the text stops the program. -/
def rules? (environment : Option String) (threshold : Threshold) : Option (List Rule) :=
  (readDirectives? ((environment.getD "").toList.splitOn ',')).map fun directives =>
    if directives.isEmpty then [Rule.general threshold] else directives.filterMap Directive.rule?

/-! ## Lemmas -/

/-- Without a text in the environment the command line decides. -/
theorem rules?_none (threshold : Threshold) :
    rules? none threshold = some [Rule.general threshold] := by
  simp [rules?, readDirectives?, readDirective, Text.trimBlanks]

end BuildHeader.Log
