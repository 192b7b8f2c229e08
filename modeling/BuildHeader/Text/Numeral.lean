import BuildHeader.Text.Lowercase

/-!
# Numerals

How a number is written in digits of ASCII, with a point, an exponent, or a word in their place.
-/

namespace BuildHeader.Text

/-- The digits of a fraction: some before or behind a point, which may be missing. -/
def isFraction (text : List Char) : Bool :=
  let whole := text.takeWhile Char.isDigit
  match text.dropWhile Char.isDigit with
  | [] => !whole.isEmpty
  | '.' :: rest => rest.all Char.isDigit && !(whole.isEmpty && rest.isEmpty)
  | _ => false

/-- The digits of an exponent, which may have a sign. -/
def isExponent (text : List Char) : Bool :=
  let digits := if text.head? == some '+' || text.head? == some '-' then text.tail else text
  !digits.isEmpty && digits.all Char.isDigit

/-- The text is a number without a sign: a fraction, which may have an exponent, or one of the words
for what is not finite. -/
def isUnsignedNumber (text : List Char) : Bool :=
  ["inf", "infinity", "nan"].any (equalIgnoringAsciiCase · (String.ofList text)) ||
    let isMark (c : Char) : Bool := c == 'e' || c == 'E'
    isFraction (text.takeWhile (!isMark ·)) &&
      match text.dropWhile (!isMark ·) with
      | [] => true
      | _ :: exponent => isExponent exponent

example : isUnsignedNumber ".5e-3".toList = true := by decide
example : isUnsignedNumber "Inf".toList = true := by decide
example : isUnsignedNumber "1e".toList = false := by decide

end BuildHeader.Text
