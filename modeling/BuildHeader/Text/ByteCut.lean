/-!
# Cutting a text at byte positions

A position in a text may be counted in the bytes of its UTF-8 form. A text can be cut there only if
the position is not within a character.
-/

namespace BuildHeader.Text

/-! ## Definitions -/

/-- The number of bytes of a text. -/
def byteCount : List Char → Nat
  | [] => 0
  | c :: rest => c.utf8Size + byteCount rest

/-- The text after its first `count` bytes. -/
def dropBytes? : Nat → List Char → Option (List Char)
  | 0, text => some text
  | _ + 1, [] => none
  | count + 1, c :: rest =>
    if c.utf8Size ≤ count + 1 then dropBytes? (count + 1 - c.utf8Size) rest else none

/-- The first `count` bytes of the text. -/
def takeBytes? : Nat → List Char → Option (List Char)
  | 0, _ => some []
  | _ + 1, [] => none
  | count + 1, c :: rest =>
    if c.utf8Size ≤ count + 1 then (takeBytes? (count + 1 - c.utf8Size) rest).map (c :: ·)
    else none

/-- The part of the text from one position up to another. -/
def cutBytes? (text : List Char) (start stop : Nat) : Option (List Char) :=
  (dropBytes? start text).bind (takeBytes? (stop - start))

example : cutBytes? ['a', 'é', 'b'] 1 3 = some ['é'] := by decide
example : cutBytes? ['a', 'é', 'b'] 2 4 = none := by decide

end BuildHeader.Text
