import BuildHeader.Log.Pattern.Modes

/-!
# Atoms of a pattern

An atom is a character that stands for itself, or an escape: a backslash and what follows it. There
are no tables of Unicode properties, so that in the Unicode mode the classes of digits, blanks and
words and the edges of words are refused, and so are letters of either case. Outside the Unicode
mode no single bytes beyond ASCII can be matched.
-/

namespace BuildHeader.Log.Pattern

/-! ## Definitions -/

/-- What a character or an escape stands for.

* `literal`: that character.
* `byte`: the character with that code, or outside the Unicode mode that byte.
* `characterClass`: digits, blanks or the characters of words, or all others.
* `edge`: the start or the end of the text.
* `wordEdge`: a place at the start or the end of a word, or any other. -/
inductive Atom
  | literal (c : Char)
  | byte (code : Nat)
  | characterClass (negated : Bool)
  | edge
  | wordEdge
deriving DecidableEq, Repr

/-- The atom can be matched as an item of the pattern. -/
def Atom.isMatchable (modes : Modes) : Atom → Bool
  | literal _ => !modes.needsCaseTable
  | byte code => !modes.needsCaseTable && (modes.unicode || code < 0x80)
  | characterClass negated => !modes.unicode && !negated
  | edge => true
  | wordEdge => !modes.unicode

/-- The atom can be a member of a set of characters. -/
def Atom.isMember (modes : Modes) : Atom → Bool
  | literal c => !modes.needsCaseTable && (modes.unicode || c.toNat < 0x80)
  | byte code => !modes.needsCaseTable && (modes.unicode || code < 0x80)
  | characterClass negated => !modes.unicode && !negated
  | edge | wordEdge => false

/-- The code point of an atom that stands for one character. -/
def Atom.code? : Atom → Option Nat
  | literal c => some c.toNat
  | byte code => some code
  | _ => none

/-- The digit is a hexadecimal one. -/
def isHexDigit (c : Char) : Bool :=
  c.isDigit || ('a' ≤ c && c ≤ 'f') || ('A' ≤ c && c ≤ 'F')

/-- The value of a hexadecimal digit. -/
def hexDigitValue (c : Char) : Nat :=
  if c.isDigit then c.toNat - 48 else c.toNat % 32 + 9

/-- The number that so many hexadecimal digits go on with, and the rest. Spacing can stand behind
each digit. -/
def readDigits? (modes : Modes) : Nat → Nat → List Char → Option (Nat × List Char)
  | 0, number, text => some (number, text)
  | _ + 1, _, [] => none
  | digits + 1, number, c :: rest =>
    if isHexDigit c then readDigits? modes digits (16 * number + hexDigitValue c) (modes.skip rest)
    else none

/-- The code point that a text starts with, as so many hexadecimal digits, and the rest. -/
def readCode? (modes : Modes) (digits : Nat) (text : List Char) : Option (Nat × List Char) :=
  (readDigits? modes digits 0 (modes.skip text)).filter (·.1.isValidChar)

/-- The atom of a backslash and one character: a named control, class or edge, or a punctuation
mark that stands for itself. -/
def escaped? : Char → Option Atom
  | 'a' => some (.literal '\x07')
  | 'f' => some (.literal '\x0c')
  | 'n' => some (.literal '\n')
  | 'r' => some (.literal '\r')
  | 't' => some (.literal '\t')
  | 'v' => some (.literal '\x0b')
  | 'd' | 's' | 'w' => some (.characterClass false)
  | 'D' | 'S' | 'W' => some (.characterClass true)
  | 'A' | 'z' => some .edge
  | 'b' | 'B' | '<' | '>' => some .wordEdge
  | c => if c.toNat < 0x80 && !c.isAlphanum then some (.literal c) else none

/-- The atom of an escape, given from behind the backslash on, and the rest. -/
def readEscape? (modes : Modes) : List Char → Option (Atom × List Char)
  | [] => none
  | 'x' :: rest => (readCode? modes 2 rest).map fun (code, rest) => (.byte code, rest)
  | 'u' :: rest =>
    (readCode? modes 4 rest).map fun (code, rest) => (.literal (Char.ofNat code), rest)
  | 'U' :: rest =>
    (readCode? modes 8 rest).map fun (code, rest) => (.literal (Char.ofNat code), rest)
  | c :: rest => (escaped? c).map fun atom => (atom, rest)

/-! ## Lemmas -/

theorem readDigits?_length_le {modes : Modes} {digits number : Nat} {text : List Char}
    {result : Nat × List Char} (h : readDigits? modes digits number text = some result) :
    result.2.length ≤ text.length := by
  induction digits generalizing number text with
  | zero =>
    simp only [readDigits?, Option.some.injEq] at h
    exact h ▸ Nat.le_refl _
  | succ digits ih =>
    cases text with
    | nil => simp [readDigits?] at h
    | cons c rest =>
      simp only [readDigits?, Option.ite_none_right_eq_some] at h
      exact Nat.le_succ_of_le (Nat.le_trans (ih h.2) (modes.skip_length_le rest))

theorem readCode?_length_le {modes : Modes} {digits : Nat} {text : List Char}
    {result : Nat × List Char} (h : readCode? modes digits text = some result) :
    result.2.length ≤ text.length := by
  obtain ⟨hread, _⟩ := Option.filter_eq_some_iff.1 h
  exact Nat.le_trans (readDigits?_length_le hread) (modes.skip_length_le text)

theorem readEscape?_length_lt {modes : Modes} {text : List Char} {result : Atom × List Char}
    (h : readEscape? modes text = some result) : result.2.length < text.length := by
  unfold readEscape? at h
  split at h
  · simp at h
  all_goals
    obtain ⟨found, hfound, rfl⟩ := Option.map_eq_some_iff.1 h
    simp only [List.length_cons]
    first
      | exact Nat.lt_succ_of_le (readCode?_length_le hfound)
      | exact Nat.lt_succ_self _

end BuildHeader.Log.Pattern
