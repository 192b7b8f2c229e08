import BuildHeader.Text.CasedTable
import BuildHeader.Text.LowercaseTable

/-!
# Lowercase text

The full mapping: a capital letter becomes its small letter, the dotted capital I becomes two
characters, and the capital sigma becomes the final form at the end of a word.
-/

namespace BuildHeader.Text

/-! ## Definitions -/

/-- The lowercase mapping of a character on its own. U+0130 alone has two characters. -/
def lowercaseChar (c : Char) : List Char :=
  if c = '\u0130' then ['i', '\u0307']
  else match lowercaseRuns.find? (·.covers c.toNat) with
    | some run => [Char.ofNat (run.map c.toNat)]
    | none => [c]

/-- The first character that is not looked through is a cased letter. -/
def meetsCased (cs : List Char) : Bool :=
  (cs.dropWhile (inTable caseIgnorableTable)).head?.any (inTable casedTable)

/-- A capital sigma ends a word if a cased letter stands before it and none after it. The text
before it is given from the sigma backwards. -/
def isFinalSigma (before after : List Char) : Bool :=
  meetsCased before && !meetsCased after

/-- Lowercases the characters that follow `before`, which is given backwards. -/
def lowercaseFrom : List Char → List Char → List Char
  | _, [] => []
  | before, c :: rest =>
    (if c = 'Σ' then [if isFinalSigma before rest then 'ς' else 'σ'] else lowercaseChar c) ++
      lowercaseFrom (c :: before) rest

/-- The text in small letters. -/
def lowercase (text : String) : String :=
  String.ofList (lowercaseFrom [] text.toList)

/-- The small letter of an ASCII capital letter; any other character is left alone. -/
def asciiLowercaseChar (c : Char) : Char :=
  if 'A' ≤ c ∧ c ≤ 'Z' then Char.ofNat (c.toNat + 32) else c

/-- The texts are equal but for the case of ASCII letters. -/
def equalIgnoringAsciiCase (a b : String) : Bool :=
  a.toList.map asciiLowercaseChar == b.toList.map asciiLowercaseChar

/-! ## Lemmas -/

/-- A text without a capital sigma is lowercased character by character. -/
theorem lowercaseFrom_eq_flatMap {before text : List Char} (noSigma : 'Σ' ∉ text) :
    lowercaseFrom before text = text.flatMap lowercaseChar := by
  induction text generalizing before with
  | nil => rfl
  | cons c rest ih =>
    simp only [List.mem_cons, not_or] at noSigma
    rw [lowercaseFrom, if_neg (Ne.symm noSigma.1), ih noSigma.2, List.flatMap_cons]

end BuildHeader.Text
