/-!
# Text on a terminal

A terminal shows most characters and takes the others for commands: single controls, and sequences
that an escape character begins. `shown` leaves out of a text what a terminal does not show.

The escape character may be followed by

* a bracket, parameters and a final letter (a control sequence, such as a colour);
* `P` and data up to the end of a string (a device control string);
* a closing bracket and a text up to a bell (a command, such as the title of the window);
* `X`, a circumflex or an underscore and a string;
* any other characters up to a final one.

A string lasts until it is cancelled or another escape character comes.
-/

namespace BuildHeader.Text.Terminal

/-! ## Definitions -/

/-- Where in a sequence a terminal is.

* `ground`: outside all sequences.
* `escape`: after the escape character, and `escapeRest` after the first characters of a sequence
  that a single character ends.
* `control`, `controlParameter`, `controlIntermediate`: in a control sequence; `controlIgnored`
  in one that is not well formed.
* `device`, `deviceParameter`, `deviceIntermediate`: before the data of a device control string;
  `deviceData` in the data, `deviceIgnored` in a string that is not well formed.
* `command`: in a command.
* `string`: in a string that means nothing to the terminal. -/
inductive State
  | ground
  | escape
  | escapeRest
  | control
  | controlParameter
  | controlIntermediate
  | controlIgnored
  | device
  | deviceParameter
  | deviceIntermediate
  | deviceData
  | deviceIgnored
  | command
  | string
deriving DecidableEq, Repr

/-- The character is beyond the first 128. -/
def isBeyondAscii (c : Char) : Bool :=
  0x80 ≤ c.toNat

/-- The character is a control that moves on in the text, and not a command. -/
def isLayout (c : Char) : Bool :=
  c = '\t' || c = '\n' || c = '\x0c' || c = '\r'

/-- One of the bytes of the character ends a string. Only the bytes after the first of a character
can, each of which holds six bits of the code point. -/
def endsString (c : Char) : Bool :=
  let n := c.toNat
  let ending := 0x1C
  (0x80 ≤ n && n % 64 = ending) || (0x800 ≤ n && n / 64 % 64 = ending) ||
    (0x10000 ≤ n && n / 4096 % 64 = ending)

/-- The state after the escape character and a visible one. -/
def afterEscape (c : Char) : State :=
  if c.toNat < 0x30 then .escapeRest
  else if c = '[' then .control
  else if c = 'P' then .device
  else if c = ']' then .command
  else if c = 'X' || c = '^' || c = '_' then .string
  else .ground

/-- The state after a visible character of ASCII. The characters below U+0030 are intermediate,
those below U+0040 are parameters, of which the last four are reserved, and the others are
final. -/
def State.afterVisible (state : State) (c : Char) : State :=
  let intermediate := c.toNat < 0x30
  let parameter := c.toNat < 0x40
  let reserved := 0x3C ≤ c.toNat
  match state with
  | .ground => .ground
  | .escape => afterEscape c
  | .escapeRest => if intermediate then .escapeRest else .ground
  | .control =>
    if intermediate then .controlIntermediate
    else if parameter then .controlParameter else .ground
  | .controlParameter =>
    if intermediate then .controlIntermediate
    else if parameter then if reserved then .controlIgnored else .controlParameter
    else .ground
  | .controlIntermediate =>
    if intermediate then .controlIntermediate
    else if parameter then .controlIgnored else .ground
  | .controlIgnored => if parameter then .controlIgnored else .ground
  | .device =>
    if intermediate then .deviceIntermediate
    else if parameter then .deviceParameter else .deviceData
  | .deviceParameter =>
    if intermediate then .deviceIntermediate
    else if parameter then if reserved then .deviceIgnored else .deviceParameter
    else .deviceData
  | .deviceIntermediate =>
    if intermediate then .deviceIntermediate
    else if parameter then .deviceIgnored else .deviceData
  | .deviceData => .deviceData
  | .deviceIgnored => .deviceIgnored
  | .command => .command
  | .string => .string

/-- The state after a character. Two controls cancel every sequence. -/
def State.after (state : State) (c : Char) : State :=
  if c = '\x1b' then .escape
  else if c = '\x18' || c = '\x1a' then .ground
  else if isBeyondAscii c then
    match state with
    | .deviceData | .deviceIgnored | .string => if endsString c then .ground else state
    | _ => state
  else if c.toNat < 0x20 || c = '\x7f' then
    if state = .command && c = '\x07' then .ground else state
  else state.afterVisible c

/-- The terminal shows the character. Between the characters of a sequence it still carries out
the controls of the layout, but not within a string. -/
def State.shows (state : State) (c : Char) : Bool :=
  match state with
  | .ground => isLayout c || (0x20 ≤ c.toNat && c != '\x7f')
  | .escape | .escapeRest | .control | .controlParameter | .controlIntermediate
  | .controlIgnored => isLayout c
  | .device | .deviceParameter | .deviceIntermediate | .deviceData | .deviceIgnored | .command
  | .string => false

/-- The characters that are shown from a state on. Once one is shown, all that can be shown outside
of sequences is, up to the next character that cannot; only then the sequence goes on. -/
def shownFrom (showing : Bool) (state : State) : List Char → List Char
  | [] => []
  | c :: rest =>
    if showing && State.ground.shows c then
      c :: shownFrom true (if isBeyondAscii c then .ground else state) rest
    else if !showing && state.shows c then c :: shownFrom true (state.after c) rest
    else shownFrom false (state.after c) rest

/-- What a terminal shows of a text. -/
def shown (text : String) : String :=
  String.ofList (shownFrom false .ground text.toList)

example : shown "a\x1b[31mred\x1b[0mb" = "aredb" := by decide
example : shown "a\x1b]0;title\x07b" = "ab" := by decide
example : shown "\x1b[1;" = "" := by decide

end BuildHeader.Text.Terminal
