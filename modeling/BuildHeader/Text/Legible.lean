import BuildHeader.Text.PrintableTable

/-!
# The legible form of a name

A message names a rejected text between double quotes, so written that no invisible character is
left in it: a quote, a backslash and four controls have a short escape, and every other character
without a shape of its own is written as its code point.
-/

namespace BuildHeader.Text

/-- The escapes of two characters. -/
def shortEscape? : Char → Option Char
  | '"' => some '"'
  | '\\' => some '\\'
  | '\n' => some 'n'
  | '\r' => some 'r'
  | '\t' => some 't'
  | '\x00' => some '0'
  | _ => none

/-- The character can stand for itself in a message. -/
def isPlain (c : Char) : Bool :=
  !inTable markTable c && !inTable unprintableTable c

/-- A code point in lowercase hexadecimal digits, without leading zeros, between braces. -/
def codePointEscape (c : Char) : List Char :=
  ['\\', 'u', '\x7b'] ++ Nat.toDigits 16 c.toNat ++ ['\x7d']

/-- One character in the legible form. -/
def legibleChar (c : Char) : List Char :=
  match shortEscape? c with
  | some short => ['\\', short]
  | none => if isPlain c then [c] else codePointEscape c

/-- The text in double quotes, with everything invisible made visible. -/
def legible (text : String) : String :=
  String.ofList ('"' :: text.toList.flatMap legibleChar ++ ['"'])

end BuildHeader.Text
