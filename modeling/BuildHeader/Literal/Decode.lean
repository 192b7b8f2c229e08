import BuildHeader.Literal.Encode

/-!
# Reading a string literal

The reader accepts every JSON string literal: all short escapes, `\u` escapes in either case of
hexadecimal digits, surrogate pairs joined to one character. It refuses a surrogate that stands
alone and a control character that is not escaped.
-/

namespace BuildHeader.Literal

/-! ## Definitions -/

/-- The value of a hexadecimal digit of either case. -/
def hexValue? (c : Char) : Option Nat :=
  if '0' ≤ c ∧ c ≤ '9' then some (c.toNat - 0x30)
  else if 'a' ≤ c ∧ c ≤ 'f' then some (c.toNat - 0x57)
  else if 'A' ≤ c ∧ c ≤ 'F' then some (c.toNat - 0x37)
  else none

/-- The unit that four hexadecimal digits write. -/
def unit? (a b c d : Char) : Option Nat := do
  let a ← hexValue? a
  let b ← hexValue? b
  let c ← hexValue? c
  let d ← hexValue? d
  return 0x1000 * a + 0x100 * b + 0x10 * c + d

/-- The first unit of a surrogate pair. -/
def isHighSurrogate (unit : Nat) : Bool :=
  0xD800 ≤ unit && unit < 0xDC00

/-- The second unit of a surrogate pair. -/
def isLowSurrogate (unit : Nat) : Bool :=
  0xDC00 ≤ unit && unit < 0xE000

/-- The character of a surrogate pair. -/
def joinSurrogates (high low : Nat) : Char :=
  Char.ofNat (0x10000 + (high - 0xD800) * 0x400 + (low - 0xDC00))

/-- The character that a letter stands for after a backslash. -/
def unescape? : Char → Option Char
  | '"' => some '"'
  | '\\' => some '\\'
  | '/' => some '/'
  | 'b' => some '\x08'
  | 't' => some '\x09'
  | 'n' => some '\x0a'
  | 'f' => some '\x0c'
  | 'r' => some '\x0d'
  | _ => none

/-- Reads the body of a literal up to its closing quote: the value and the text after the quote. -/
def readBody : List Char → Option (List Char × List Char)
  | [] => none
  | '"' :: rest => some ([], rest)
  | '\\' :: 'u' :: a :: b :: c :: d :: rest =>
    match unit? a b c d with
    | none => none
    | some unit =>
      if isLowSurrogate unit then none
      else if isHighSurrogate unit then
        match rest with
        | '\\' :: 'u' :: e :: f :: g :: h :: rest =>
          match unit? e f g h with
          | none => none
          | some low =>
            if isLowSurrogate low then
              (readBody rest).map fun (value, after) => (joinSurrogates unit low :: value, after)
            else none
        | _ => none
      else (readBody rest).map fun (value, after) => (Char.ofNat unit :: value, after)
  | '\\' :: letter :: rest =>
    match unescape? letter with
    | none => none
    | some c => (readBody rest).map fun (value, after) => (c :: value, after)
  | c :: rest =>
    if c = '\\' || c.toNat < 0x20 then none
    else (readBody rest).map fun (value, after) => (c :: value, after)

/-- Reads a literal at the head of a text: its value and the text after it. -/
def read : List Char → Option (List Char × List Char)
  | '"' :: rest => readBody rest
  | _ => none

/-- The value of a text that is one literal and nothing else. -/
def value? (text : String) : Option String :=
  match read text.toList with
  | some (value, []) => some (String.ofList value)
  | _ => none

end BuildHeader.Literal
