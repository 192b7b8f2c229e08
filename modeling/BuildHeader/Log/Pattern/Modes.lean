import BuildHeader.Text.AlphanumericTable

/-!
# Modes of a pattern

Flags within a pattern change how the rest of a group is read: whether letters stand for both
cases, whether characters or bytes are matched, and whether blanks and comments are left out. A
comment goes from a number sign to the end of the line.
-/

namespace BuildHeader.Log.Pattern

open BuildHeader.Text

/-! ## Definitions -/

/-- The modes that matter for the form of a pattern.

* `ignoresCase`: a letter stands for both cases.
* `unicode`: characters are matched, and not bytes.
* `spaced`: blanks and comments are left out. -/
structure Modes where
  ignoresCase : Bool
  unicode : Bool
  spaced : Bool
deriving DecidableEq, Repr

namespace Modes

/-- The modes at the start of a pattern. -/
def initial : Modes :=
  ⟨false, true, false⟩

/-- The modes ask for both cases of the letters of all scripts. -/
def needsCaseTable (modes : Modes) : Bool :=
  modes.ignoresCase && modes.unicode

/-- The modes after flags. A dash turns those behind it off. -/
def afterFlags (modes : Modes) (flags : List Char) : Modes :=
  let on := flags.takeWhile (· != '-')
  let off := flags.dropWhile (· != '-')
  let set (flag : Char) (old : Bool) : Bool := on.contains flag || (old && !off.contains flag)
  ⟨set 'i' modes.ignoresCase, set 'u' modes.unicode, set 'x' modes.spaced⟩

end Modes

/-- The text without the blanks and comments at its start, or at first without the rest of a
comment. -/
def dropSpacing (inComment : Bool) : List Char → List Char
  | [] => []
  | c :: rest =>
    if inComment then dropSpacing (c != '\n') rest
    else if c == '#' then dropSpacing true rest
    else if isBlank c then dropSpacing false rest
    else c :: rest

/-- The text from where it is read on. -/
def Modes.skip (modes : Modes) (text : List Char) : List Char :=
  if modes.spaced then dropSpacing false text else text

/-- The character that comes next, as a reader sees it who looks ahead without reading: past blanks
and the sign of a comment, but not past the comment itself. -/
def Modes.peek? (modes : Modes) (text : List Char) : Option Char :=
  if modes.spaced then
    match text.dropWhile isBlank with
    | '#' :: comment => (comment.dropWhile isBlank).head?
    | seen => seen.head?
  else text.head?

/-! ## Lemmas -/

theorem dropSpacing_length_le (inComment : Bool) (text : List Char) :
    (dropSpacing inComment text).length ≤ text.length := by
  induction text generalizing inComment with
  | nil => simp [dropSpacing]
  | cons c rest ih =>
    rw [dropSpacing]
    split
    · exact Nat.le_succ_of_le (ih _)
    · split
      · exact Nat.le_succ_of_le (ih true)
      · split
        · exact Nat.le_succ_of_le (ih false)
        · exact Nat.le_refl _

theorem Modes.skip_length_le (modes : Modes) (text : List Char) :
    (modes.skip text).length ≤ text.length := by
  unfold Modes.skip
  split
  · exact dropSpacing_length_le false text
  · exact Nat.le_refl _

example : (Modes.initial.afterFlags ['x', '-', 'u']) = ⟨false, false, true⟩ := by decide
example : dropSpacing false " # a\n b".toList = ['b'] := by decide

end BuildHeader.Log.Pattern
