import BuildHeader.Log.Pattern.WellFormed
import BuildHeader.Log.Rule
import BuildHeader.Text.ByteCut
import BuildHeader.Text.Numeral

/-!
# Log directives

A directive is the text of a log rule. In the forms below, square brackets and braces stand for
themselves, and each of the parts `SOURCE`, `SPAN` and `=LEVEL` may be missing:

* `LEVEL` is a rule for all events;
* `SOURCE=LEVEL` is a rule for a part of the program;
* `SOURCE[{FIELD}]=LEVEL` is a rule for the events of it that carry a field;
* `SOURCE[SPAN]=LEVEL` and `SOURCE[SPAN{FIELD=VALUE}]=LEVEL` are about spans. The program opens none,
  so that they let nothing through.

The form of a directive is found without the blanks around it, but its parts are cut from the text
with them, at the positions that they would have without. After a blank at the start every part is
therefore displaced, and a cut can even fall within a character. That stops the program.
-/

namespace BuildHeader.Log

open BuildHeader.Text

/-! ## Thresholds -/

/-- The levels by their words, which may be written in any case, and by their place in this list. -/
def levelWords : List (String × Threshold) :=
  [("off", none), ("error", some .error), ("warn", some .warn), ("info", some .info),
    ("debug", some .debug), ("trace", some .trace)]

/-- The threshold of a word, or of a number from 0 to 5, which may have a plus sign. -/
def threshold? (text : List Char) : Option Threshold :=
  match levelWords.find? (equalIgnoringAsciiCase ·.1 (String.ofList text)) with
  | some (_, threshold) => some threshold
  | none =>
    let digits := if text.head? == some '+' then text.tail else text
    if digits.isEmpty || !digits.all Char.isDigit then none
    else levelWords[Nat.ofDigitChars 10 digits 0]?.map (·.2)

/-- The threshold for the number of times that more output was asked for. -/
def thresholdOf : Nat → Threshold
  | 0 => some .warn
  | 1 => some .info
  | 2 => some .debug
  | _ => some .trace

/-! ## Directives -/

/-- What a directive is about.

* `events`: a rule for events.
* `spans`: spans, of which there are none. -/
inductive Directive
  | events (rule : Rule)
  | spans
deriving DecidableEq, Repr

/-- Why a text is not a directive.

* `malformed`: it has none of the forms.
* `torn`: a part of it would have to be cut within a character. -/
inductive Defect
  | malformed
  | torn
deriving DecidableEq, Repr

/-- The part of a text between two positions. -/
def part (text : List Char) (start stop : Nat) : Except Defect (List Char) :=
  match cutBytes? text start stop with
  | some found => .ok found
  | none => .error .torn

/-- The part of a text from a position on. -/
def partFrom (text : List Char) (start : Nat) : Except Defect (List Char) :=
  match dropBytes? start text with
  | some found => .ok found
  | none => .error .torn

/-- The threshold behind an equals sign; nothing there stands for everything. -/
def readLevel (text : List Char) : Except Defect Threshold :=
  if text.isEmpty then .ok (some .trace)
  else
    match threshold? text with
    | some threshold => .ok threshold
    | none => .error .malformed

/-- The threshold behind a closing bracket, whose position is given: an equals sign and a level, or
nothing. -/
def readTail (text : List Char) (position : Nat) : List Char → Except Defect Threshold
  | [] => .ok (some .trace)
  | '=' :: _ => do readLevel (← partFrom text (position + 1))
  | _ => .error .malformed

/-- A field can be demanded to have the value: a number or a pattern. All numbers without a plus sign
are also patterns. -/
def isValue : List Char → Bool
  | '+' :: number => isUnsignedNumber number
  | text => Pattern.isWellFormed text

/-- The name of a field, and whether a value is demanded. A second equals sign ends the value. -/
def readField (text : List Char) : Except Defect (String × Bool) :=
  let name := text.takeWhile (· != '=')
  match text.dropWhile (· != '=') with
  | [] => .ok (String.ofList name, false)
  | _ :: rest =>
    if isValue (rest.takeWhile (· != '=')) then .ok (String.ofList name, true)
    else .error .malformed

/-- The directive of a source and what stands behind its opening bracket, whose position is given. -/
def readBracket (text : List Char) (source : String) (position : Nat) (inner : List Char) :
    Except Defect Directive := do
  let endsName (c : Char) : Bool := c == ']' || c == '\x7b'
  let name := inner.takeWhile (!endsName ·)
  let nameStart := position + 1
  let nameStop := nameStart + byteCount name
  match inner.dropWhile (!endsName ·) with
  | ']' :: tail =>
    let _ ← part text nameStart nameStop
    let _ ← readTail text (nameStop + 1) tail
    return .spans
  | '\x7b' :: body =>
    let _ ← part text nameStart nameStop
    let field := body.takeWhile (· != '\x7d')
    let fieldStart := nameStop + 1
    let fieldStop := fieldStart + byteCount field
    match body.dropWhile (· != '\x7d') with
    | [] => .error .malformed
    | _ :: after =>
      let fieldText ← part text fieldStart fieldStop
      if fieldText.isEmpty then .error .malformed
      let (fieldName, hasValue) ← readField fieldText
      match after with
      | ']' :: tail =>
        let threshold ← readTail text (fieldStop + 2) tail
        return if name.isEmpty && !hasValue then .events ⟨source, some fieldName, threshold⟩
          else .spans
      | _ => .error .malformed
  | _ => .error .malformed

/-- A character with which a level or a source can begin. -/
def beginsWord (c : Char) : Bool :=
  c == '-' || c == ':' || c == '_' || isLetterOrNumber c

/-- Reads a directive. A source alone lets everything through. -/
def readDirective (text : List Char) : Except Defect Directive :=
  match trimBlanks text with
  | [] => .error .malformed
  | '[' :: inner => readBracket text "" 0 inner
  | first :: more => do
    if !beginsWord first then .error .malformed
    let endsWord (c : Char) : Bool := c == '=' || c == '['
    let position := byteCount ((first :: more).takeWhile (!endsWord ·))
    match (first :: more).dropWhile (!endsWord ·) with
    | '[' :: inner =>
      let source ← part text 0 position
      readBracket text (String.ofList source) position inner
    | _ :: _ =>
      let source ← part text 0 position
      let threshold ← readLevel (← partFrom text (position + 1))
      return .events ⟨String.ofList source, none, threshold⟩
    | [] =>
      return match threshold? text with
      | some threshold => .events (.general threshold)
      | none => .events ⟨String.ofList text, none, some .trace⟩

end BuildHeader.Log
